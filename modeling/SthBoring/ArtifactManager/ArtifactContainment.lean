/- Module: SthBoring/ArtifactManager/ArtifactContainment
   source: sdk_test_agent/artifact_manager/artifact_manager_service.py,
     sdk_test_agent/execution/execution_engine.py
   digest: Where the files that a run writes end up. -/

import SthBoring.ArtifactManager.ArtifactIntegrity
import SthBoring.Execution.ValidatedRuns
import SthBoring.Execution.WorldInvariant

set_option autoImplicit false
set_option relaxedAutoImplicit false

namespace SthBoring.ArtifactManager.ArtifactContainment

universe u

open SthBoring.Lib.FileTree (FileSystem)
open SthBoring.Lib.OrderedDict (assocGet)
open SthBoring.Lib.PosixPath
open SthBoring.Plan.Models (PlanStep ExecutionPlan)
open SthBoring.Execution.Models
open SthBoring.Execution.Engine (ExecutionEngine run)
open SthBoring.Execution.WorldInvariant
open SthBoring.ArtifactManager.Service
open SthBoring.ArtifactManager.ArtifactIntegrity

variable (service : ArtifactManagerService) (cwd : List String)

section Names

/-- `artifact_root_dir/task_id`, with its dots worked out. -/
def taskDir (taskId : String) : List String :=
  canonical cwd (pathJoin service.artifactRootDir taskId)

/-- The file lies under its task's directory. -/
def Contained (f : WrittenFile) : Prop := taskDir service cwd f.taskId <+: canonical cwd f.path

/-- How far below the task's directory a subdir is; an unknown one is the directory itself. -/
def subdirDepth (subdir : String) : ℕ :=
  if subdir = "generated" ∨ subdir = "logs" ∨ subdir = "reports" ∨ subdir = "inputs" then 1 else 0

/-- A relative name stays inside when it does not climb out of the task's directory, or takes
the way back in; an absolute one when it leads there. -/
def StaysInside (dir : List String) (subdir name : String) : Prop :=
  if isAbs name then dir <+: descend [] (parts name)
  else dir.drop (dir.length + subdirDepth subdir - (climb (parts name)).1) <+: (climb (parts name)).2

private theorem canonical_below (base : String) {sub : String} (flat : isAbs sub = false)
    (one : parts sub = [sub]) (down : sub ≠ "..") :
    canonical cwd (pathJoin base sub) = canonical cwd base ++ [sub] := by
  rw [pathJoin, canonical_pathStr, canonical_join, flat, if_neg Bool.false_ne_true, one]
  change enter _ sub = _
  rw [enter, if_neg down]

/-- The entries of the dict of task directories, and its fallback. -/
theorem baseDir_cases (rootDir taskId subdir : String) :
    (baseDir rootDir taskId subdir = pathJoin rootDir taskId ∧ subdirDepth subdir = 0) ∨
      ∃ sub ∈ ["generated", "logs", "reports", "inputs"], subdirDepth subdir = 1 ∧
        baseDir rootDir taskId subdir = pathJoin (pathJoin rootDir taskId) sub := by
  unfold baseDir taskDirs subdirDepth
  by_cases root : "root" = subdir
  · subst root
    exact .inl ⟨by simp [assocGet], by simp⟩
  by_cases generated : "generated" = subdir
  · subst generated
    exact .inr ⟨"generated", by simp, by simp, by simp [assocGet]⟩
  by_cases logs : "logs" = subdir
  · subst logs
    exact .inr ⟨"logs", by simp, by simp, by simp [assocGet]⟩
  by_cases reports : "reports" = subdir
  · subst reports
    exact .inr ⟨"reports", by simp, by simp, by simp [assocGet]⟩
  by_cases inputs : "inputs" = subdir
  · subst inputs
    exact .inr ⟨"inputs", by simp, by simp, by simp [assocGet]⟩
  · refine .inl ⟨?_, ?_⟩
    · simp [assocGet, root, generated, logs, reports, inputs]
    · simp [Ne.symm generated, Ne.symm logs, Ne.symm reports, Ne.symm inputs]

private theorem subdirs_flat : ∀ sub ∈ ["generated", "logs", "reports", "inputs"],
    isAbs sub = false ∧ parts sub = [sub] ∧ sub ≠ ".." := by
  decide +kernel

theorem canonical_baseDir (taskId subdir : String) :
    ∃ below, canonical cwd (baseDir service.artifactRootDir taskId subdir) =
      taskDir service cwd taskId ++ below ∧ below.length = subdirDepth subdir := by
  rcases baseDir_cases service.artifactRootDir taskId subdir with
    ⟨base, depth⟩ | ⟨sub, mem, depth, base⟩
  · exact ⟨[], by rw [base, List.append_nil]; rfl, depth.symm⟩
  · obtain ⟨flat, one, down⟩ := subdirs_flat sub mem
    exact ⟨[sub], by rw [base, canonical_below cwd _ flat one down]; rfl, depth.symm⟩

/-- A file under the name of a persist call is contained exactly when the name stays inside. -/
theorem contained_iff (f : WrittenFile)
    (path : f.path = join (baseDir service.artifactRootDir f.taskId f.subdir) f.name) :
    Contained service cwd f ↔ StaysInside (taskDir service cwd f.taskId) f.subdir f.name := by
  obtain ⟨below, base, depth⟩ := canonical_baseDir service cwd f.taskId f.subdir
  unfold Contained StaysInside
  rw [path, canonical_join, base]
  by_cases absolute : isAbs f.name = true
  · rw [if_pos absolute, if_pos absolute]
  · rw [if_neg absolute, if_neg absolute, isPrefix_descend_iff (List.prefix_append _ below),
      List.length_append, depth]

end Names

section Run

variable {τ : Type u}

/-- What the executor does to the store for a step, it does by persist calls for its context's
task, and the names it persists under are among these. -/
def ThroughManager (named : String → String → Prop) (executor : StepExecutor (Store × τ))
    (step : PlanStep) : Prop :=
  ∀ c w, c.artifactManager = some (manager service) →
    (executor.execute step c w).context.taskId = c.taskId ∧
    (executor.execute step c w).context.artifactManager = c.artifactManager ∧
    ∃ calls : List PersistCall, (∀ call ∈ calls, call.taskId = c.taskId ∧ named call.subdir call.name) ∧
      (executor.execute step c w).world.1 = performAll service (calls.map .persist) w.1

/-- The clock and the ids of the engine leave the store alone. -/
structure ApartFromStore (engine : ExecutionEngine (Store × τ)) : Prop where
  clock : ∀ w, (engine.timeFunc w).2.1 = w.1
  ids : ∀ w, (engine.uuidHex w).2.1 = w.1

/-- The names under which something is persisted: the engine's own, and the executors'. -/
def RunName (steps : List PlanStep) (runId : String) (named : PlanStep → String → String → Prop)
    (subdir name : String) : Prop :=
  (subdir = "outputs" ∧ EngineName steps runId name) ∨ ∃ step ∈ steps, named step subdir name

/-- A file that a persist call for the task wrote, under one of these names. -/
structure Filed (taskId : String) (named : String → String → Prop) (f : WrittenFile) : Prop where
  taskId : f.taskId = taskId
  path : f.path = join (baseDir service.artifactRootDir f.taskId f.subdir) f.name
  named : named f.subdir f.name

/-- The store has grown by such files only. -/
def FiledSince (taskId : String) (named : String → String → Prop) (before after : Store) : Prop :=
  ∃ new, after.written = before.written ++ new ∧ ∀ f ∈ new, Filed service taskId named f

variable {service} {taskId : String} {named : String → String → Prop} {before s : Store}

theorem FiledSince.persist (h : FiledSince service taskId named before s) {call : PersistCall}
    (own : call.taskId = taskId) (name : named call.subdir call.name) :
    FiledSince service taskId named before (persistArtifactBytes service call s).2 := by
  obtain ⟨new, grown, filed⟩ := h
  have outcome := persist_outcome service call s
  generalize persistArtifactBytes service call s = ended at outcome
  have extended : ∀ s' place, Wrote service call place s s' →
      FiledSince service taskId named before s' := by
    intro s' place wrote
    refine ⟨new ++ [⟨call.taskId, call.subdir, call.name, pathOf service call⟩], ?_, ?_⟩
    · rw [wrote.written, grown, List.append_assoc]
    · intro f mem
      rcases List.mem_append.mp mem with mem | mem
      · exact filed f mem
      · rw [List.mem_singleton.mp mem]
        exact ⟨own, rfl, name⟩
  cases outcome with
  | refused exc s' nothing quiet => exact ⟨new, quiet.written.trans grown, filed⟩
  | unindexed exc s' place wrote artifacts => exact extended s' place wrote
  | indexed artifactId createdAt s' place wrote fresh artifacts => exact extended s' place wrote

theorem FiledSince.persistAll (h : FiledSince service taskId named before s)
    {calls : List PersistCall} (own : ∀ call ∈ calls, call.taskId = taskId ∧ named call.subdir call.name) :
    FiledSince service taskId named before (performAll service (calls.map .persist) s) := by
  induction calls generalizing s with
  | nil => exact h
  | cons call calls ih =>
    obtain ⟨task, name⟩ := own call List.mem_cons_self
    exact ih (h.persist task name) (fun later mem => own later (List.mem_cons_of_mem call mem))

variable (service) in
/-- What a run keeps: the task, the manager, and that the store grows by the task's files. -/
def Filing (taskId : String) (named : String → String → Prop) (before : Store)
    (c : ExecutionContext (Store × τ)) (w : Store × τ) : Prop :=
  c.taskId = taskId ∧ c.artifactManager = some (manager service) ∧
    FiledSince service taskId named before w.1

theorem filing_kept {engine : ExecutionEngine (Store × τ)} (apart : ApartFromStore engine)
    {steps : List PlanStep} {runId : String} {chosen : PlanStep → String → String → Prop}
    (through : ∀ step ∈ steps, ∀ executor, engine.registry.get step.kind = .ok executor →
      ThroughManager service (chosen step) executor step) (taskId : String) (before : Store) :
    Kept engine steps runId (Filing service taskId (RunName steps runId chosen) before) where
  clock c w h := ⟨h.1, h.2.1, (apart.clock w).symm ▸ h.2.2⟩
  ids c w h := ⟨h.1, h.2.1, (apart.ids w).symm ▸ h.2.2⟩
  executor step mem executor known c w h := by
    obtain ⟨task, managed, filed⟩ := h
    obtain ⟨task', managed', calls, own, store⟩ := through step mem executor known c w managed
    refine ⟨task'.trans task, managed'.trans managed, ?_⟩
    rw [store]
    refine filed.persistAll (fun call hc => ?_)
    obtain ⟨theirs, name⟩ := own call hc
    exact ⟨theirs.trans task, .inr ⟨step, mem, name⟩⟩
  persist c w m call h managed engineCall := by
    obtain ⟨task, managed', filed⟩ := h
    have same : m = manager service := Option.some.inj (managed.symm.trans managed')
    subst same
    refine ⟨task, managed', ?_⟩
    exact filed.persist (engineCall.taskId.trans task) (.inl ⟨engineCall.subdir, engineCall.name⟩)
  refs c w refs h := h
  outputs c w outputs h := h

/-- Every file a run writes has a name made from the id of a step, from the run's id, or by an
executor, and lies under the task's directory exactly when that name stays inside. -/
theorem artifact_containment (service : ArtifactManagerService)
    (engine : ExecutionEngine (Store × τ)) (plan : ExecutionPlan)
    (context : ExecutionContext (Store × τ)) (w : Store × τ)
    (chosen : PlanStep → String → String → Prop)
    (managed : context.artifactManager = some (manager service)) (apart : ApartFromStore engine)
    (through : ∀ step ∈ plan.steps, ∀ executor, engine.registry.get step.kind = .ok executor →
      ThroughManager service (chosen step) executor step) :
    ∃ new, (run engine plan context w).state.world.1.written = w.1.written ++ new ∧
      ∀ f ∈ new, f.taskId = context.taskId ∧
        RunName plan.steps context.runId chosen f.subdir f.name ∧
        (Contained service w.1.files.cwd f ↔
          StaysInside (taskDir service w.1.files.cwd context.taskId) f.subdir f.name) := by
  have kept : Kept engine plan.steps context.runId
      (Filing service context.taskId (RunName plan.steps context.runId chosen) w.1) :=
    filing_kept apart through context.taskId w.1
  have start : Filing service context.taskId (RunName plan.steps context.runId chosen) w.1 context w :=
    ⟨rfl, managed, [], (List.append_nil _).symm, nofun⟩
  obtain ⟨_, _, new, grown, filed⟩ := run_keeps kept start
  refine ⟨new, grown, fun f mem => ?_⟩
  obtain ⟨task, path, name⟩ := filed f mem
  refine ⟨task, name, ?_⟩
  rw [← task]
  exact contained_iff service w.1.files.cwd f path

end Run

section Examples

open SthBoring.Plan.PlanValidation (Passes)
open SthBoring.Execution.Engine (fakeContext fakeEngine)
open SthBoring.Execution.RunRecords (namedPlan)

/-- An executor that succeeds, prints, and persists nothing itself. -/
def storePrinter (stepKind : String) : StepExecutor (Store × Unit) where
  stepKind := stepKind
  execute _ context w := ⟨.ok { status := .succeeded, stdout := some "done" }, context, w⟩

def printingEngine : ExecutionEngine (Store × Unit) := fakeEngine [storePrinter "run_test"]

def storeContext : ExecutionContext (Store × Unit) := fakeContext (some (manager testService))

def startWorld : Store × Unit := (Store.new testDisk, ())

def finalStore (stepId : String) : Store :=
  (run printingEngine (namedPlan stepId) storeContext startWorld).state.world.1

private theorem printing_throughManager (step : PlanStep) (executor : StepExecutor (Store × Unit))
    (known : printingEngine.registry.get step.kind = .ok executor) :
    ThroughManager testService (fun _ _ => False) executor step := by
  have only := StepExecutorRegistry.mem_of_get_ofExecutors known
  rw [List.mem_singleton.mp only]
  intro c w managed
  exact ⟨rfl, rfl, [], nofun, rfl⟩

/-- A run of a step whose output is persisted under its id. -/
theorem artifact_containment_printed :
    ∃ new, (run printingEngine (namedPlan "step_a") storeContext startWorld).state.world.1.written =
        startWorld.1.written ++ new ∧
      ∀ f ∈ new, f.taskId = storeContext.taskId ∧
        RunName (namedPlan "step_a").steps storeContext.runId (fun _ _ _ => False) f.subdir f.name ∧
        (Contained testService startWorld.1.files.cwd f ↔
          StaysInside (taskDir testService startWorld.1.files.cwd storeContext.taskId) f.subdir
            f.name) :=
  artifact_containment testService printingEngine (namedPlan "step_a") storeContext startWorld
    (fun _ _ _ => False) rfl ⟨fun _ => rfl, fun _ => rfl⟩
    (fun step _ executor known => printing_throughManager step executor known)

private theorem evil_written : (finalStore "../evil").written.map (fun f => (f.taskId, f.path)) =
    [("task_1", "artifacts/task_1/../evil.stdout.txt"),
      ("task_1", "artifacts/task_1/run_1.execution_summary.json")] := by
  decide +kernel

/-- A plan that passes, and whose run writes next to the task's directory. -/
theorem escaping_step_id :
    Passes {} (namedPlan "../evil") none ∧
      canonical ["work"] "artifacts/task_1/../evil.stdout.txt" = ["work", "artifacts", "evil.stdout.txt"] ∧
      taskDir testService ["work"] "task_1" = ["work", "artifacts", "task_1"] ∧
      ∃ f ∈ (finalStore "../evil").written, f.path = "artifacts/task_1/../evil.stdout.txt" ∧
        ¬ Contained testService ["work"] f := by
  have place : canonical ["work"] "artifacts/task_1/../evil.stdout.txt" =
      ["work", "artifacts", "evil.stdout.txt"] := by
    decide +kernel
  have dir : taskDir testService ["work"] "task_1" = ["work", "artifacts", "task_1"] := by
    decide +kernel
  refine ⟨⟨0, _, rfl, rfl⟩, place, dir, ?_⟩
  have first : ("task_1", "artifacts/task_1/../evil.stdout.txt") ∈
      (finalStore "../evil").written.map (fun f => (f.taskId, f.path)) :=
    evil_written ▸ List.mem_cons_self
  obtain ⟨f, mem, shown⟩ := List.mem_map.mp first
  obtain ⟨task, path⟩ := Prod.mk.inj shown
  refine ⟨f, mem, path, ?_⟩
  unfold Contained
  rw [task, path, place, dir]
  decide

end Examples

end SthBoring.ArtifactManager.ArtifactContainment
