/- Module: SthBoring/Execution/ReplanArtifacts
   source: sdk_test_agent/execution/execution_engine.py, step_executors/*.py
   digest: Whether a replan request has the artifacts that the step runs list. -/

import SthBoring.Lib.HeldOnce
import SthBoring.Execution.ExecutorSpecs
import SthBoring.Execution.ReachedSteps

set_option autoImplicit false
set_option relaxedAutoImplicit false

namespace SthBoring.Execution.ReplanArtifacts

universe u

open SthBoring.Lib.Effect (Computation Post Triple)
open SthBoring.Lib.Loop (Flow loop loop_append loop_rule)
open SthBoring.Lib.OrderedDict (PyDict assocGet assocGet_eq_none_iff)
open SthBoring.Lib.PyValue
open SthBoring.Plan.Models
open SthBoring.Execution.Models
open SthBoring.Execution.Engine
open SthBoring.Execution.ExecutorSpecs (body_of_kind get_default)
open SthBoring.Execution.RunInvariant
open SthBoring.Execution.ReachedSteps
open SthBoring.Execution.StepUtils
open SthBoring.Execution.StepExecutors

variable {σ : Type u}

section Artifacts

/-- An artifact: its name, and the reference it is known by. -/
abbrev Artifact := String × String

def artifactOf (call : PersistCall) : Except PyExc PersistedRecord → Option Artifact
  | .ok record => some (call.name, record.ref)
  | .error _ => none

def persistedBy : ServiceCall → Option Artifact
  | .persistArtifactBytes call answer => artifactOf call answer
  | _ => none

/-- The artifacts that an executor persisted, in this order. -/
def persisted (calls : List ServiceCall) : List Artifact := calls.filterMap persistedBy

/-- Those that the engine persisted. -/
def saved (calls : List PersistEntry) : List Artifact :=
  calls.filterMap fun entry => artifactOf entry.1 entry.2

/-- The references that the step runs of a run list. -/
def listedRefs (run : ExecutionRun) : List String :=
  run.stepRuns.flatMap ExecutionStepRun.artifactRefs

end Artifacts

section Condition

/-- What the registered executors do, with their calls on record. -/
abbrev Bodies (σ : Type u) : Type u := String → PlanStep → Executing σ StepExecutionResult

/-- The executors of the engine are these. -/
def Registered (engine : ExecutionEngine σ) (bodies : Bodies σ) : Prop :=
  ∀ kind executor, engine.registry.get kind = .ok executor →
    executor = executorOf kind (bodies kind)

variable (engine : ExecutionEngine σ) (bodies : Bodies σ) (step : PlanStep) (st : RunState σ)

/-- How the executor of a step ends, called in this state. -/
def executed : Except PyExc StepExecutionResult × Working σ :=
  bodies step.kind step ⟨st.context, (startStepRun engine step st.run st.world).2, []⟩

/-- The artifacts of a step: those of its executor, and then its texts. -/
def stepArtifacts : List Artifact :=
  persisted (executed engine bodies step st).2.calls ++
    saved (finishCall engine (executorOf step.kind (bodies step.kind)) step st).calls

/-- The artifact manager gives each artifact of the step a reference of its own. -/
structure FreshRefs : Prop where
  distinct : ((stepArtifacts engine bodies step st).map Prod.snd).Nodup
  new : ∀ artifact ∈ stepArtifacts engine bodies step st,
    artifact.2 ∉ st.context.artifactRefs.values

/-- The executor records each artifact that it persists under its name, and nothing else, and it
lists no others; the names of the step's artifacts are free, and no two are equal. -/
structure Accounts : Prop where
  recorded : (executed engine bodies step st).2.context.artifactRefs =
    st.context.artifactRefs.setAll (persisted (executed engine bodies step st).2.calls)
  lists : ∀ result, (executed engine bodies step st).1 = .ok result → ∀ ref ∈ result.artifactRefs,
    ref ∈ (persisted (executed engine bodies step st).2.calls).map Prod.snd
  free : ∀ artifact ∈ stepArtifacts engine bodies step st, ∀ ref,
    st.context.artifactRefs.get artifact.1 = some ref → ref ∉ listedRefs st.run
  apart : ∀ result, (executed engine bodies step st).1 = .ok result →
    ((stepArtifacts engine bodies step st).map Prod.fst).Nodup

/-- The run comes to the step in this state, and calls its executor. -/
structure Calls (plan : ExecutionPlan) (context : ExecutionContext σ) (w : σ) (i : ℕ)
    (step : PlanStep) (st : RunState σ) : Prop where
  comes : ComesTo engine plan context w i step st
  met : dependenciesSatisfied step st.stepStatus = true

/-- The request has every reference that a step run lists, once. -/
def RequestAccounts (result : ExecutionRunResult) : Prop :=
  ∃ request, result.replanRequest = some request ∧
    ∀ ref ∈ listedRefs result.run, request.latestArtifactRefs.count ref = 1

end Condition

section Engine

/-- What persisting a text records. -/
structure Records (context : ExecutionContext σ) (p : Persisted σ) : Prop where
  refs : p.context.artifactRefs = context.artifactRefs.setAll (saved p.calls)
  kept : ∀ ref, p.outcome = .ok (some ref) → ref ∈ (saved p.calls).map Prod.snd

theorem records_textPersisted {context : ExecutionContext σ} {call : PersistCall} {w : σ}
    {persisted : Persisted σ} (made : TextPersisted context call w persisted) :
    Records context persisted := by
  cases made with
  | unmanaged => exact ⟨rfl, fun _ h => by cases h⟩
  | refused => exact ⟨rfl, fun _ h => by cases h⟩
  | refusedAgain => exact ⟨rfl, fun _ h => by cases h⟩
  | saved | savedAgain =>
    refine ⟨rfl, fun ref h => ?_⟩
    cases h
    exact List.mem_singleton.mpr rfl

theorem persistOptional_records (context : ExecutionContext σ) (kind name : String)
    (text : Option String) (w : σ) :
    Records context (persistOptional context kind name text w) := by
  cases text with
  | none => exact ⟨rfl, fun _ h => by cases h⟩
  | some t => exact records_textPersisted (textPersisted context kind name t "text/plain" w)

theorem mem_keptRefs {refs : List (Option String)} {ref : String} (mem : ref ∈ keptRefs refs) :
    some ref ∈ refs := by
  obtain ⟨given, inside, kept⟩ := List.mem_filterMap.mp mem
  obtain ⟨text, rfl, same⟩ := Option.bind_eq_some_iff.mp kept
  split at same
  · cases same
  · cases same
    exact inside

theorem saved_append (calls calls' : List PersistEntry) :
    saved (calls ++ calls') = saved calls ++ saved calls' :=
  List.filterMap_append

theorem persistTexts_records (texts : List StepText) (context : ExecutionContext σ) (w : σ) :
    (persistTexts texts context w).context.artifactRefs =
        context.artifactRefs.setAll (saved (persistTexts texts context w).calls) ∧
      ∀ refs, (persistTexts texts context w).outcome = .ok refs → ∀ ref, some ref ∈ refs →
        ref ∈ (saved (persistTexts texts context w).calls).map Prod.snd := by
  induction texts generalizing context w with
  | nil =>
    refine ⟨rfl, fun refs ok ref mem => ?_⟩
    cases ok
    cases mem
  | cons text texts ih =>
    obtain ⟨kind, name, text⟩ := text
    have first := persistOptional_records context kind name text w
    cases outcome : (persistOptional context kind name text w).outcome with
    | error exc =>
      rw [persistTexts_cons_error outcome]
      exact ⟨first.refs, fun _ ok => by cases ok⟩
    | ok own =>
      obtain ⟨refs, kept⟩ := ih (persistOptional context kind name text w).context
        (persistOptional context kind name text w).world
      rw [persistTexts_cons_ok outcome]
      dsimp only
      rw [refs, first.refs, saved_append, PyDict.setAll_append, List.map_append]
      refine ⟨rfl, fun all ok ref mem => List.mem_append.mpr ?_⟩
      cases rest : (persistTexts texts (persistOptional context kind name text w).context
          (persistOptional context kind name text w).world).outcome with
      | error exc => rw [rest] at ok; cases ok
      | ok others =>
        rw [rest] at ok
        cases ok
        rcases List.mem_cons.mp mem with same | later
        · exact Or.inl (first.kept ref (outcome.trans (congrArg Except.ok same.symm)))
        · exact Or.inr (kept others rest ref later)

/-- The texts of a step are recorded, and the step run lists nothing else but what its executor
listed. -/
theorem finishStepRun_records {engine : ExecutionEngine σ} {stepRun : ExecutionStepRun}
    {result : StepExecutionResult} {context : ExecutionContext σ} {w : σ}
    {finished : ExecutionStepRun × StepExecutionResult}
    (h : (finishStepRun engine stepRun result context w).outcome = .ok finished) :
    (finishStepRun engine stepRun result context w).context.artifactRefs =
        context.artifactRefs.setAll (saved (finishStepRun engine stepRun result context w).calls) ∧
      ∀ ref ∈ finished.1.artifactRefs, ref ∈ result.artifactRefs ∨
        ref ∈ (saved (finishStepRun engine stepRun result context w).calls).map Prod.snd := by
  obtain ⟨refs, ok, rfl⟩ := finishStepRun_outcome engine stepRun result context w h
  obtain ⟨recorded, kept⟩ := persistTexts_records (textsOf stepRun result) context
    (engine.timeFunc w).2
  rw [finishStepRun_eq]
  refine ⟨recorded, fun ref mem => ?_⟩
  rcases List.mem_append.mp mem with own | text
  · exact Or.inl own
  · exact Or.inr (kept refs ok ref (mem_keptRefs text))

end Engine

section Steps

variable {engine : ExecutionEngine σ} {bodies : Bodies σ} {step : PlanStep} {st : RunState σ}
  {stepRun : ExecutionStepRun} {result : StepExecutionResult}

/-- The references that the step runs list are in the context, once each. -/
def Accounted (st : RunState σ) : Prop := st.context.artifactRefs.HoldsOnce (listedRefs st.run)

theorem artifactRefs_afterCall (accounts : Accounts engine bodies step st)
    (call : Finishes engine step st (executorOf step.kind (bodies step.kind)) stepRun result) :
    (afterCall engine (executorOf step.kind (bodies step.kind)) step st).context.artifactRefs =
      st.context.artifactRefs.setAll (stepArtifacts engine bodies step st) := by
  rw [stepArtifacts, PyDict.setAll_append, ← accounts.recorded]
  exact (finishStepRun_records call.finished).1

/-- The engine goes on with what the executor returned, or with a result made of its exception. -/
theorem result_executeStep (engine : ExecutionEngine σ) (bodies : Bodies σ) (step : PlanStep)
    (st : RunState σ) :
    Executed.result (executeStep engine (executorOf step.kind (bodies step.kind)) step st) =
      match (executed engine bodies step st).1 with
      | .ok result => result
      | .error exc => resultFromException exc := rfl

/-- A call that raised has no artifacts to list. -/
theorem artifactRefs_of_raised {exc : PyExc}
    (raised : (executed engine bodies step st).1 = .error exc)
    (call : Finishes engine step st (executorOf step.kind (bodies step.kind)) stepRun result) :
    stepRun.artifactRefs = [] := by
  have finished := call.finished
  rw [finishCall, result_executeStep, raised] at finished
  exact (congrArg (fun pair : ExecutionStepRun × StepExecutionResult => pair.1.artifactRefs)
    (Except.ok.inj finished)).symm

/-- What a call adds to the lists, it adds to the context. -/
theorem holdsOnce_afterCall (fresh : FreshRefs engine bodies step st)
    (accounts : Accounts engine bodies step st)
    (call : Finishes engine step st (executorOf step.kind (bodies step.kind)) stepRun result)
    (accounted : Accounted st) :
    (afterCall engine (executorOf step.kind (bodies step.kind)) step
      st).context.artifactRefs.HoldsOnce (listedRefs st.run ++ stepRun.artifactRefs) := by
  rw [artifactRefs_afterCall accounts call]
  cases ended : (executed engine bodies step st).1 with
  | error exc =>
    rw [artifactRefs_of_raised ended call, List.append_nil]
    exact PyDict.HoldsOnce.setAll_old accounted fresh.distinct fresh.new accounts.free
  | ok own =>
    have held := PyDict.HoldsOnce.setAll accounted fresh.distinct fresh.new accounts.free
      (accounts.apart own ended)
    refine held.mono ?_
    intro ref mem
    rcases List.mem_append.mp mem with old | listed
    · exact List.mem_append_left _ old
    · refine List.mem_append_right _ ?_
      rw [stepArtifacts, List.map_append, List.mem_append]
      rcases (finishStepRun_records call.finished).2 ref listed with given | text
      · rw [result_executeStep, ended] at given
        exact Or.inl (accounts.lists own ended ref given)
      · exact Or.inr text

theorem listedRefs_addStepRun (st : RunState σ) (stepRun : ExecutionStepRun) :
    listedRefs (st.addStepRun stepRun).run = listedRefs st.run ++ stepRun.artifactRefs := by
  simp [listedRefs, RunState.addStepRun]

/-- A call whose step run is added keeps the account, whatever status the run is given. -/
theorem accounted_of_call (fresh : FreshRefs engine bodies step st)
    (accounts : Accounts engine bodies step st)
    (call : Finishes engine step st (executorOf step.kind (bodies step.kind)) stepRun result)
    (accounted : Accounted st) (status : ExecutionStepStatus) :
    Accounted ((afterCall engine (executorOf step.kind (bodies step.kind)) step st).addStepRun
      { stepRun with status := status }) := by
  have held := holdsOnce_afterCall fresh accounts call accounted
  rw [Accounted, listedRefs_addStepRun]
  exact held

theorem accounted_turn {st' : RunState σ} (registered : Registered engine bodies)
    (fresh : dependenciesSatisfied step st.stepStatus = true → FreshRefs engine bodies step st)
    (accounts : dependenciesSatisfied step st.stepStatus = true → Accounts engine bodies step st)
    (accounted : Accounted st) (turn : Turn engine step st (.next st')) : Accounted st' := by
  cases turn with
  | skipped unmet =>
    change st.context.artifactRefs.HoldsOnce (listedRefs (st.addStepRun _).run)
    rw [listedRefs_addStepRun]
    exact accounted.mono (by simp [markSkippedDueToDependency])
  | succeeded executor stepRun result call success =>
    obtain rfl := registered step.kind executor call.known
    exact accounted_of_call (fresh call.met) (accounts call.met) call accounted _
  | continued executor stepRun result call failure policy =>
    obtain rfl := registered step.kind executor call.known
    exact accounted_of_call (fresh call.met) (accounts call.met) call accounted _

end Steps

section Run

variable {engine : ExecutionEngine σ} {plan : ExecutionPlan} {context : ExecutionContext σ} {w : σ}
  {bodies : Bodies σ} {step : PlanStep} {st : RunState σ}

theorem comesTo_of_split {done rest : List PlanStep} (split : plan.steps = done ++ step :: rest)
    (reached : loop (runStep engine plan) done (initialState engine plan context w) = .next st) :
    ComesTo engine plan context w done.length step st where
  listed := by rw [split, List.getElem?_append_right le_rfl, Nat.sub_self, List.getElem?_cons_zero]
  state := by rw [split, List.take_left, reached]

/-- A loop that stops for a replan was at a step whose failure asks for one. -/
theorem waiting_of_runStep {summary : String} {replan : Option ReplanRequest} {st' : RunState σ}
    (left : runStep engine plan step st = .exit (.stopped .waitingReplan summary replan st')) :
    ∃ executor stepRun result request, Finishes engine step st executor stepRun result ∧
      replan = some request ∧
      request.latestArtifactRefs =
        (afterCall engine executor step st).context.artifactRefs.values ∧
      listedRefs st'.run = listedRefs st.run ++ stepRun.artifactRefs := by
  have turn := runStep_turn engine plan step st
  rw [left] at turn
  cases turn with
  | waiting executor stepRun result call failure policy request w later =>
    rw [runStep_of_finishes call, settleStep, if_neg failure, if_neg (by simp [policy]),
      if_pos policy] at left
    refine ⟨executor, stepRun, result, request, call, rfl, ?_, ?_⟩
    · obtain ⟨-, -, asked, -⟩ := Halt.stopped.inj (Flow.exit.inj left)
      rw [← Option.some.inj asked]
      rfl
    · exact listedRefs_addStepRun _ _

/-- Every run ends behind the last of its steps, or leaves the loop at a step it came to; what
each of its turns keeps holds there. -/
theorem run_comes {I : RunState σ → Prop} (start : I (initialState engine plan context w))
    (turn : ∀ i step st st', ComesTo engine plan context w i step st → I st →
      Turn engine step st (.next st') → I st') :
    (∃ st, run engine plan context w = conclude engine .succeeded (succeededSummary st) none st) ∨
      ∃ i step st halt, ComesTo engine plan context w i step st ∧ I st ∧
        runStep engine plan step st = .exit halt ∧
        run engine plan context w = leave engine halt := by
  have ended := loop_rule (runStep engine plan)
    (fun done st => loop (runStep engine plan) done (initialState engine plan context w) =
      .next st ∧ I st) plan.steps (initialState engine plan context w) ⟨rfl, start⟩ (by
      rintro done step rest st st' split ⟨reached, holds⟩ next
      refine ⟨?_, turn _ step st st' (comesTo_of_split split reached) holds ?_⟩
      · rw [loop_append, reached]
        simp only [loop, next]
      · exact next ▸ runStep_turn engine plan step st)
  rw [run_eq_finish]
  cases left : loop (runStep engine plan) plan.steps (initialState engine plan context w) with
  | next st => exact Or.inl ⟨st, rfl⟩
  | exit halt =>
    rw [left] at ended
    obtain ⟨done, step, rest, st, split, ⟨reached, holds⟩, exited⟩ := ended
    exact Or.inr ⟨done.length, step, st, halt, comesTo_of_split split reached, holds, exited, rfl⟩

/-- **Replan artifacts.** The request of a run that waits for a replan has every artifact that a
step run lists, once, when each executor that the run calls accounts for its artifacts and their
names are free and apart. -/
theorem replan_accounts {result : ExecutionRunResult} (registered : Registered engine bodies)
    (fresh : ∀ i step st, Calls engine plan context w i step st → FreshRefs engine bodies step st)
    (accounts : ∀ i step st, Calls engine plan context w i step st → Accounts engine bodies step st)
    (returned : run engine plan context w = .returned result st)
    (waiting : result.status = .waitingReplan) : RequestAccounts result := by
  have start : Accounted (initialState engine plan context w) := by
    intro ref mem
    cases mem
  rcases run_comes start (fun i step st st' comes accounted turn =>
      accounted_turn registered (fun met => fresh i step st ⟨comes, met⟩)
        (fun met => accounts i step st ⟨comes, met⟩) accounted turn) with
    ⟨st', ended⟩ | ⟨i, step, st', halt, comes, accounted, left, ended⟩
  · have concluded := concluded_of_returned (ended.symm.trans returned)
    rw [concluded.status] at waiting
    cases waiting
  · have leaves := ended.symm.trans returned
    cases halt with
    | raised exc st'' => cases leaves
    | stopped status summary replan st'' =>
      have concluded := concluded_of_returned leaves
      obtain rfl : status = .waitingReplan := concluded.status.symm.trans waiting
      obtain ⟨executor, stepRun, own, request, call, rfl, values, listed⟩ :=
        waiting_of_runStep left
      obtain rfl := registered step.kind executor call.known
      have called : Calls engine plan context w i step st' := ⟨comes, call.met⟩
      have held := holdsOnce_afterCall (fresh i step st' called) (accounts i step st' called) call
        accounted
      refine ⟨request, concluded.replan, fun ref mem => ?_⟩
      rw [listedRefs, concluded.stepRuns] at mem
      rw [values]
      exact PyDict.count_values (held ref (listed ▸ mem))

end Run

section Executors

/-- The context has the artifacts that were persisted, over what it had. -/
def Tracks (d : PyDict String String) (s : Working σ) : Prop :=
  s.context.artifactRefs = d.setAll (persisted s.calls)

/-- These references are among those of the artifacts. -/
structure Kept (d : PyDict String String) (refs : List (Option String)) (s : Working σ) : Prop where
  tracks : Tracks d s
  among : ∀ ref, some ref ∈ refs → ref ∈ (persisted s.calls).map Prod.snd

/-- The result lists references of persisted artifacts only. -/
structure Sound (d : PyDict String String) (r : StepExecutionResult) (s : Working σ) : Prop where
  tracks : Tracks d s
  lists : ∀ ref ∈ r.artifactRefs, ref ∈ (persisted s.calls).map Prod.snd

/-- The computation persists nothing. -/
abbrev Quiet {α : Type} (m : Executing σ α) : Prop :=
  ∀ d refs, Triple (Kept d refs) m (fun _ => Kept d refs) (fun _ => Tracks d)

variable {d : PyDict String String} {refs : List (Option String)}

theorem sound_of_kept {r : StepExecutionResult} {s : Working σ} (kept : Kept d refs s)
    (listed : r.artifactRefs = keptRefs refs) : Sound d r s where
  tracks := kept.tracks
  lists ref mem := kept.among ref (mem_keptRefs (listed ▸ mem))

theorem persisted_append (calls : List ServiceCall) (call : ServiceCall) :
    persisted (calls ++ [call]) = persisted calls ++ (persistedBy call).toList := by
  rw [persisted, List.filterMap_append]
  cases made : persistedBy call <;> simp [persisted, made]

theorem quiet_ask {α : Type} {entry : Except PyExc α → ServiceCall}
    {service : σ → Except PyExc α × σ} (silent : ∀ answer, persistedBy (entry answer) = none) :
    Quiet (ask entry service) := by
  intro d refs s kept
  have same : ∀ answer, persisted (s.calls ++ [entry answer]) = persisted s.calls := by
    intro answer
    rw [persisted_append, silent]
    exact List.append_nil _
  unfold ask
  rcases service s.world with ⟨exc | a, w⟩
  · show s.context.artifactRefs = d.setAll (persisted (s.calls ++ [entry (.error exc)]))
    rw [same]
    exact kept.tracks
  · refine ⟨?_, ?_⟩
    · show s.context.artifactRefs = d.setAll (persisted (s.calls ++ [entry (.ok a)]))
      rw [same]
      exact kept.tracks
    · show ∀ ref, some ref ∈ refs → ref ∈ (persisted (s.calls ++ [entry (.ok a)])).map Prod.snd
      rw [same]
      exact kept.among

theorem quiet_lift {α : Type} (x : Except PyExc α) : Quiet (σ := σ) (Computation.lift x) :=
  fun _ _ => Triple.lift (fun _ _ _ kept => kept) (fun _ _ _ kept => kept.tracks)

theorem quiet_pure {α : Type} (a : α) : Quiet (σ := σ) (pure a) :=
  fun _ _ => Triple.pure (fun _ kept => kept)

theorem Quiet.bind {α β : Type} {m : Executing σ α} {k : α → Executing σ β} (first : Quiet m)
    (rest : ∀ a, Quiet (k a)) : Quiet (m >>= k) :=
  fun d refs => Triple.bind (first d refs) (fun a => rest a d refs)

/-- A persisted text is recorded, and its reference is the one that is returned. -/
theorem persistText_kept (kind name text : String) (mimeType : Option String) :
    Triple (Kept (σ := σ) d refs) (StepUtils.persistText kind name text mimeType)
      (fun ref => Kept d (refs ++ [ref])) (fun _ => Tracks d) := by
  intro s kept
  cases configured : s.context.artifactManager with
  | none =>
    rw [persistText_of_none configured]
    refine ⟨kept.tracks, fun ref mem => kept.among ref ?_⟩
    simpa using mem
  | some manager =>
    rcases answered : manager.persistArtifactBytes (textCall s.context kind name text mimeType)
      s.world with ⟨exc | record, w⟩
    · rw [persistText_of_error configured answered]
      show s.context.artifactRefs = d.setAll (persisted (s.calls ++ [_]))
      rw [persisted_append]
      exact kept.tracks.trans (congrArg d.setAll (List.append_nil _).symm)
    · rw [persistText_of_ok configured answered]
      refine ⟨?_, fun ref mem => ?_⟩
      · show s.context.artifactRefs.set name record.ref = d.setAll (persisted (s.calls ++ [_]))
        rw [persisted_append, PyDict.setAll_append, ← kept.tracks]
        rfl
      · show ref ∈ (persisted (s.calls ++ [_])).map Prod.snd
        rw [persisted_append, List.map_append, List.mem_append]
        rcases List.mem_append.mp mem with old | new
        · exact Or.inl (kept.among ref old)
        · exact Or.inr (by simpa [persistedBy, artifactOf] using new)

/-- How the executors of the default registry end, an inspection of an environment that persisted
its report aside. -/
abbrev Sounds (d : PyDict String String) (m : Executing σ StepExecutionResult) : Prop :=
  Triple (Kept d []) m (Sound d) (fun _ => Tracks d)

variable (step : PlanStep)

theorem buildImage_sounds : Sounds d (buildImage (σ := σ) step) := by
  refine Triple.requiring (fun s kept => sound_of_kept kept rfl) (fun driver => ?_)
  refine Triple.bind (quiet_lift _ d []) (fun spec => ?_)
  refine Triple.bind (quiet_ask (fun _ => rfl) d []) (fun result => ?_)
  refine Triple.bind (quiet_lift _ d []) (fun logs => ?_)
  refine Triple.bind (quiet_lift _ d []) (fun outputs => ?_)
  refine Triple.bind (persistText_kept _ _ _ _) (fun ref => ?_)
  exact Triple.pure (fun s kept => sound_of_kept kept rfl)

theorem quiet_noteRuntime (stepId : String) (container containerId : Value) :
    Quiet (noteRuntime (σ := σ) stepId container containerId) :=
  fun _ _ => Triple.modify (fun _ kept => ⟨kept.tracks, kept.among⟩)

theorem quiet_createDeployment (manager : RuntimeManager σ) (taskId : String) (inputs : Fields)
    (image containerId : Value) :
    Quiet (createDeployment manager taskId inputs image containerId) := by
  unfold createDeployment
  split
  · refine (quiet_lift _).bind (fun kwargs => ?_)
    exact (quiet_ask (fun _ => rfl)).bind (fun deployment => quiet_pure _)
  · exact quiet_pure []

theorem createRuntime_sounds : Sounds d (createRuntime (σ := σ) step) := by
  refine Triple.requiring (fun s kept => sound_of_kept kept rfl) (fun manager => ?_)
  refine Triple.withContext (fun context => ?_)
  split
  · refine Triple.bind (quiet_lift _ d []) (fun spec => ?_)
    refine Triple.bind (quiet_ask (fun _ => rfl) d []) (fun container => ?_)
    refine Triple.bind (quiet_noteRuntime _ _ _ d []) (fun _ => ?_)
    refine Triple.bind (quiet_createDeployment _ _ _ _ _ d []) (fun deployment => ?_)
    exact Triple.pure (fun s kept => sound_of_kept kept rfl)
  · exact Triple.pure (fun s kept => sound_of_kept kept rfl)

/-- The report of an environment is recorded twice, if it is persisted. -/
theorem inspectEnvironment_sounds : Triple (Kept d []) (inspectEnvironment (σ := σ) step)
    (fun r s => persisted s.calls = [] → Sound d r s) (fun _ => Tracks d) := by
  refine Triple.requiring (fun s kept _ => sound_of_kept kept rfl) (fun inspector => ?_)
  refine Triple.withContext (fun context => ?_)
  split
  · refine Triple.bind (quiet_ask (fun _ => rfl) d []) (fun report => ?_)
    refine Triple.bind (persistText_kept _ _ _ _) (fun ref => ?_)
    intro s kept
    rcases listed : keptRefs [ref] with _ | ⟨first, rest⟩
    · exact fun _ => sound_of_kept kept listed.symm
    · have there := kept.among first (mem_keptRefs (listed ▸ List.mem_cons_self))
      show persisted s.calls = [] → _
      intro unpublished
      rw [unpublished] at there
      cases there
  · exact Triple.pure (fun s kept _ => sound_of_kept kept rfl)

theorem inspectPackage_sounds : Sounds d (inspectPackage (σ := σ) step) := by
  refine Triple.requiring (fun s kept => sound_of_kept kept rfl) (fun inspector => ?_)
  refine Triple.withContext (fun context => ?_)
  dsimp only
  split
  · refine Triple.bind (quiet_ask (fun _ => rfl) d []) (fun report => ?_)
    refine Triple.bind (persistText_kept _ _ _ _) (fun ref => ?_)
    exact Triple.pure (fun s kept => sound_of_kept kept rfl)
  · exact Triple.pure (fun s kept => sound_of_kept kept rfl)

theorem runCommand_sounds : Sounds d (runCommand (σ := σ) step) := by
  refine Triple.requiring (fun s kept => sound_of_kept kept rfl) (fun controller => ?_)
  refine Triple.bind (quiet_lift _ d []) (fun given => ?_)
  refine Triple.bind (quiet_ask (fun _ => rfl) d []) (fun response => ?_)
  refine Triple.bind (quiet_lift _ d []) (fun run => ?_)
  refine Triple.bind (quiet_lift _ d []) (fun stdout => ?_)
  refine Triple.bind (quiet_lift _ d []) (fun stderr => ?_)
  exact Triple.pure (fun s kept => sound_of_kept kept rfl)

theorem quiet_each {α β : Type} {f : α → Executing σ β} (quiet : ∀ x, Quiet (f x)) (xs : List α) :
    Quiet (Computation.each f xs) := by
  induction xs with
  | nil => exact quiet_pure []
  | cons x xs ih => exact (quiet x).bind (fun y => ih.bind (fun ys => quiet_pure _))

theorem quiet_runProbe (controller : CommandController σ) (timeoutSec : Option ℤ) (probe : Value) :
    Quiet (runProbe controller timeoutSec probe) := by
  refine (quiet_lift _).bind (fun argv => ?_)
  exact (quiet_ask (fun _ => rfl)).bind (fun response => quiet_lift _)

theorem executeProbe_sounds : Sounds d (executeProbe (σ := σ) step) := by
  refine Triple.requiring (fun s kept => sound_of_kept kept rfl) (fun controller => ?_)
  refine Triple.bind (quiet_lift _ d []) (fun probes => ?_)
  refine Triple.bind (quiet_each (quiet_runProbe controller step.timeoutSec) probes d [])
    (fun runs => ?_)
  refine Triple.bind (persistText_kept _ _ _ _) (fun ref => ?_)
  refine Triple.bind (quiet_lift _ d _) (fun stdout => ?_)
  refine Triple.bind (quiet_lift _ d _) (fun stderr => ?_)
  exact Triple.pure (fun s kept => sound_of_kept kept rfl)

theorem persistItems_kept (items : List Value) : Triple (Kept (σ := σ) d refs)
    (Computation.each persistItem items) (fun got => Kept d (refs ++ got)) (fun _ => Tracks d) := by
  induction items generalizing refs with
  | nil => exact Triple.pure (fun _ kept => (List.append_nil refs).symm ▸ kept)
  | cons item items ih =>
    have first : Triple (Kept (σ := σ) d refs) (persistItem item)
        (fun ref => Kept d (refs ++ [ref])) (fun _ => Tracks d) :=
      Triple.bind (quiet_lift _ d refs) (fun found => persistText_kept _ _ _ _)
    refine Triple.bind first (fun ref => Triple.bind ih (fun got => Triple.pure fun _ kept => ?_))
    rwa [List.append_assoc] at kept

theorem collectArtifact_sounds : Sounds d (collectArtifact (σ := σ) step) := by
  refine Triple.requiring (fun s kept => sound_of_kept kept rfl) (fun manager => ?_)
  refine Triple.bind (quiet_lift _ d []) (fun items => ?_)
  refine Triple.bind (persistItems_kept items) (fun got => ?_)
  refine Triple.bind (Triple.withContext fun context => persistText_kept _ _ _ _) (fun ref => ?_)
  exact Triple.pure (fun s kept => sound_of_kept kept rfl)

theorem notImplemented_sounds (integration : String) :
    Sounds d (notImplemented (σ := σ) integration step) :=
  Triple.pure (fun _ kept => sound_of_kept kept rfl)

/-- Of the executors of the default registry, all account for their artifacts, but an inspection of
an environment only if it persists no report. -/
theorem default_sounds {kind : String} {body : PlanStep → Executing σ StepExecutionResult}
    (mem : (kind, body) ∈ defaultBodies) : Triple (Kept d []) (body step)
      (fun r s => (kind = PlanStepKind.inspectEnvironment → persisted s.calls = []) → Sound d r s)
      (fun _ => Tracks d) := by
  have always : ∀ {m : Executing σ StepExecutionResult}, Sounds d m → Triple (Kept d []) m
      (fun r s => (kind = PlanStepKind.inspectEnvironment → persisted s.calls = []) → Sound d r s)
      (fun _ => Tracks d) :=
    fun sounds => Triple.imp sounds (fun _ kept => kept) (fun _ _ sound _ => sound) (fun _ _ h => h)
  simp only [defaultBodies, List.mem_cons, Prod.mk.injEq, List.not_mem_nil, or_false] at mem
  rcases mem with ⟨_, rfl⟩ | ⟨_, rfl⟩ | ⟨_, rfl⟩ | ⟨rfl, rfl⟩ | ⟨_, rfl⟩ | ⟨_, rfl⟩ | ⟨_, rfl⟩ |
    ⟨_, rfl⟩ | ⟨_, rfl⟩ | ⟨_, rfl⟩
  · exact always (inspectPackage_sounds step)
  · exact always (buildImage_sounds step)
  · exact always (createRuntime_sounds step)
  · exact Triple.imp (inspectEnvironment_sounds step) (fun _ kept => kept)
      (fun _ _ sound unpublished => sound (unpublished rfl)) (fun _ _ h => h)
  · exact always (runCommand_sounds step)
  · exact always (executeProbe_sounds step)
  · exact always (collectArtifact_sounds step)
  · exact always (notImplemented_sounds step "script-agent")
  · exact always (notImplemented_sounds step "test-agent")
  · exact always (notImplemented_sounds step "report")

end Executors

section Registry

variable {engine : ExecutionEngine σ} {step : PlanStep} {st : RunState σ}

/-- The executors of the default registry under their kinds. -/
def defaultBodyOf (kind : String) : PlanStep → Executing σ StepExecutionResult :=
  (assocGet kind defaultBodies).getD fun _ =>
    Computation.raise (executionUnsupportedStepKindError kind)

theorem defaultBodyOf_eq {kind : String} {body : PlanStep → Executing σ StepExecutionResult}
    (mem : (kind, body) ∈ defaultBodies) : defaultBodyOf kind = body := by
  unfold defaultBodyOf
  cases found : assocGet kind (defaultBodies (σ := σ)) with
  | none =>
    have absent := (assocGet_eq_none_iff kind _).mp found
    exact absurd (List.mem_map_of_mem mem) absent
  | some body' => exact (body_of_kind mem found).symm

theorem registered_default (default : engine.registry = createDefaultStepExecutorRegistry) :
    Registered engine defaultBodyOf := by
  intro kind executor known
  rw [default] at known
  obtain ⟨body, mem, rfl⟩ := get_default known
  rw [defaultBodyOf_eq mem]

/-- What is left to ask of a step of the default registry. -/
theorem accounts_default {body : PlanStep → Executing σ StepExecutionResult}
    (mem : (step.kind, body) ∈ defaultBodies)
    (unpublished : step.kind = PlanStepKind.inspectEnvironment →
      persisted (executed engine defaultBodyOf step st).2.calls = [])
    (free : ∀ artifact ∈ stepArtifacts engine defaultBodyOf step st, ∀ ref,
      st.context.artifactRefs.get artifact.1 = some ref → ref ∉ listedRefs st.run)
    (apart : ((stepArtifacts engine defaultBodyOf step st).map Prod.fst).Nodup) :
    Accounts engine defaultBodyOf step st := by
  have start : Kept st.context.artifactRefs []
      (⟨st.context, (startStepRun engine step st.run st.world).2, []⟩ : Working σ) :=
    ⟨rfl, fun _ none => by cases none⟩
  have post := default_sounds step mem _ start
  rw [← defaultBodyOf_eq mem] at post
  change Post _ _ (executed engine defaultBodyOf step st) at post
  refine ⟨?_, fun r returned => ?_, free, fun _ _ => apart⟩
  · rcases ended : executed engine defaultBodyOf step st with ⟨exc | r, s⟩
    · rw [ended] at post
      exact post
    · rw [ended] at post unpublished
      exact (post unpublished).tracks
  · rcases ended : executed engine defaultBodyOf step st with ⟨exc | r', s⟩
    · rw [ended] at returned
      cases returned
    · rw [ended] at post unpublished returned
      cases returned
      exact (post unpublished).lists

end Registry

section Sample

/-- An artifact manager that numbers what it stores. -/
def countingManager : ArtifactManager ℕ where
  persistArtifactBytes _ n := (.ok ⟨some s!"artifact_{n}", none, ""⟩, n + 1)

/-- An engine that gives each step run a number. -/
def countingEngine : ExecutionEngine ℕ :=
  { fakeEngine [] with
    registry := createDefaultStepExecutorRegistry
    uuidHex := fun n => (toString n, n + 1) }

/-- A command that fails, and says so. -/
def failingController : CommandController ℕ where
  executeAction _ _ n := (.ok [("ok", .bool true), ("data", .dict [("exit_code", .int 1),
    ("stdout", .str "missing"), ("stderr", .null)])], n)

def readyInspector : EnvInspector ℕ where
  inspectDockerEnv _ n := (.ok (.obj "EnvReport" [("readiness", .str "ready")]), n)

def sampleContext : ExecutionContext ℕ :=
  { fakeContext (some countingManager) with
    commandController := some failingController, envInspector := some readyInspector }

def probeStep : PlanStep :=
  { fakeStep "probe" PlanStepKind.executeProbe [] .requestReplan with
    inputs := [("probes", .list [.str "java -version"])] }

/-- Two texts without names, which are both `artifact.txt`. -/
def collectStep : PlanStep :=
  { fakeStep "collect" PlanStepKind.collectArtifact [] .abort with
    inputs := [("items",
      .list [.dict [("content", .str "one")], .dict [("content", .str "two")]])] }

def inspectStep : PlanStep :=
  { fakeStep "inspect" PlanStepKind.inspectEnvironment [] .abort with
    inputs := [("container_id", .str "c1")] }

/-- How a run ended, the references that its step runs list, and those of its replan request. -/
def account (ended : RunEnd ℕ) : Option (ExecutionRunStatus × List String × List String) :=
  match ended with
  | .returned result _ => result.replanRequest.map fun request =>
      (result.status, listedRefs result.run, request.latestArtifactRefs)
  | .raised _ _ => none

def sampleRun (steps : List PlanStep) : RunEnd ℕ :=
  run countingEngine (fakePlan steps) sampleContext 0

theorem returned_of_account {ended : RunEnd ℕ} {status : ExecutionRunStatus}
    {listed latest : List String} (told : account ended = some (status, listed, latest)) :
    ∃ result st, ended = .returned result st ∧ result.status = status ∧
      listedRefs result.run = listed ∧
      ∀ request, result.replanRequest = some request → request.latestArtifactRefs = latest := by
  cases ended with
  | raised exc st => cases told
  | returned result st =>
    obtain ⟨request, asked, same⟩ := Option.map_eq_some_iff.mp told
    obtain ⟨status, rest⟩ := Prod.mk.inj same
    obtain ⟨listed, latest⟩ := Prod.mk.inj rest
    refine ⟨result, st, rfl, status, listed, fun request' asked' => ?_⟩
    rw [← Option.some.inj (asked.symm.trans asked')]
    exact latest

/-- The state in which the engine comes to the probe. -/
def probeStart : RunState ℕ :=
  initialState countingEngine (fakePlan [probeStep]) sampleContext 0

theorem calls_probe {i : ℕ} {step : PlanStep} {st : RunState ℕ}
    (calls : Calls countingEngine (fakePlan [probeStep]) sampleContext 0 i step st) :
    step = probeStep ∧ st = probeStart := by
  have listed : [probeStep][i]? = some step := calls.comes.listed
  have state := calls.comes.state
  rcases i with _ | i
  · have same : probeStep = step := Option.some.inj listed
    have start : probeStart = st := Flow.next.inj state
    exact ⟨same.symm, start.symm⟩
  · cases listed

theorem stepArtifacts_probe : stepArtifacts countingEngine defaultBodyOf probeStep probeStart =
    [("probe.probe_result.json", "artifact_1"), ("probe.stdout.txt", "artifact_2")] := by
  decide +kernel

theorem freshRefs_probe : FreshRefs countingEngine defaultBodyOf probeStep probeStart where
  distinct := by
    rw [stepArtifacts_probe]
    decide
  new := fun _ _ held => by cases held

theorem accounts_probe : Accounts countingEngine defaultBodyOf probeStep probeStart := by
  have mem : (probeStep.kind, executeProbe) ∈ defaultBodies (σ := ℕ) := by
    simp [defaultBodies, probeStep, fakeStep]
  refine accounts_default mem (fun other => ?_) (fun _ _ _ _ listed => by cases listed) ?_
  · exact absurd other (by decide)
  · rw [stepArtifacts_probe]
    decide

theorem failed_probe_accounted : ∃ result st, sampleRun [probeStep] = .returned result st ∧
    result.status = .waitingReplan ∧ RequestAccounts result := by
  have told : account (sampleRun [probeStep]) = some (.waitingReplan,
      ["artifact_1", "artifact_2"], ["artifact_1", "artifact_2"]) := by decide +kernel
  obtain ⟨result, st, returned, waiting, -⟩ := returned_of_account told
  refine ⟨result, st, returned, waiting, ?_⟩
  refine replan_accounts (registered_default rfl) ?_ ?_ returned waiting
  · intro i step st calls
    obtain ⟨rfl, rfl⟩ := calls_probe calls
    exact freshRefs_probe
  · intro i step st calls
    obtain ⟨rfl, rfl⟩ := calls_probe calls
    exact accounts_probe

/-- Of two texts with one name the first is lost, and the report of an environment is there
twice. -/
theorem artifact_lost_and_repeated :
    (∃ result st, sampleRun [collectStep, probeStep] = .returned result st ∧
      result.status = .waitingReplan ∧ ¬ RequestAccounts result) ∧
    ∃ result st, sampleRun [inspectStep, probeStep] = .returned result st ∧
      result.status = .waitingReplan ∧ ¬ RequestAccounts result := by
  have lost : account (sampleRun [collectStep, probeStep]) = some (.waitingReplan,
      ["artifact_1", "artifact_2", "artifact_3", "artifact_5", "artifact_6"],
      ["artifact_2", "artifact_3", "artifact_5", "artifact_6"]) := by decide +kernel
  have repeated : account (sampleRun [inspectStep, probeStep]) = some (.waitingReplan,
      ["artifact_1", "artifact_3", "artifact_4"],
      ["artifact_1", "artifact_1", "artifact_3", "artifact_4"]) := by decide +kernel
  have miscounted : ∀ {ended : RunEnd ℕ} {listed latest : List String},
      account ended = some (.waitingReplan, listed, latest) → "artifact_1" ∈ listed →
      latest.count "artifact_1" ≠ 1 → ∃ result st, ended = .returned result st ∧
        result.status = .waitingReplan ∧ ¬ RequestAccounts result := by
    intro ended listed latest told mem miscount
    obtain ⟨result, st, returned, waiting, lists, asks⟩ := returned_of_account told
    refine ⟨result, st, returned, waiting, ?_⟩
    rintro ⟨request, asked, once⟩
    have one := once "artifact_1" (lists ▸ mem)
    rw [asks request asked] at one
    exact miscount one
  exact ⟨miscounted lost (by decide) (by decide), miscounted repeated (by decide) (by decide)⟩

end Sample

end SthBoring.Execution.ReplanArtifacts
