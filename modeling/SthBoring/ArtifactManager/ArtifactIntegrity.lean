/- Module: SthBoring/ArtifactManager/ArtifactIntegrity
   source: sdk_test_agent/artifact_manager/artifact_manager_service.py
   digest: When the records of the index still describe the files they name. -/

import SthBoring.ArtifactManager.Service

set_option autoImplicit false
set_option relaxedAutoImplicit false

namespace SthBoring.ArtifactManager.ArtifactIntegrity

open SthBoring.Lib.Effect (Computation Keeps Returns)
open SthBoring.Lib.FileTree (Entry FileSystem)
open SthBoring.Lib.FileTree.FileSystem (Extends extends_makedirs extends_put keepsDirectories_put
  locate_of_keeps read_eq_some_iff read_of_extends read_put writable_eq_ok_iff)
open SthBoring.Lib.OrderedDict (PyDict)
open SthBoring.Lib.PosixPath (join)
open SthBoring.Lib.PyValue (PyExc)
open SthBoring.Execution.Models (PersistCall)
open SthBoring.ArtifactManager.Service

attribute [local irreducible] FileSystem.makedirs

variable (service : ArtifactManagerService)

section Outcome

/-- Nothing was written and nothing was indexed; directories may have been made. -/
structure Quiet (before after : Store) : Prop where
  files : Extends before.files after.files
  artifacts : after.artifacts = before.artifacts
  written : after.written = before.written

theorem Quiet.refl (s : Store) : Quiet s s := ⟨.refl s.files, rfl, rfl⟩

theorem Quiet.trans {a b c : Store} (hab : Quiet a b) (hbc : Quiet b c) : Quiet a c :=
  ⟨hab.files.trans hbc.files, hbc.artifacts.trans hab.artifacts, hbc.written.trans hab.written⟩

theorem quiet_newId (s₀ : Store) (pre : String) : Keeps (Quiet s₀) (newId service pre) :=
  Keeps.bind (Keeps.read _) fun _ =>
    Keeps.bind (Keeps.modify fun _ h => ⟨h.files, h.artifacts, h.written⟩) fun _ => Keeps.pure _

theorem quiet_nowIso (s₀ : Store) : Keeps (Quiet s₀) (nowIso service) :=
  Keeps.bind (Keeps.read _) fun _ =>
    Keeps.bind (Keeps.modify fun _ h => ⟨h.files, h.artifacts, h.written⟩) fun _ => Keeps.pure _

theorem quiet_ensureTaskDirs (s₀ : Store) (rootDir taskId : String) :
    Keeps (Quiet s₀) (ensureTaskDirs rootDir taskId) := by
  refine Keeps.bind (Keeps.each ?_) fun _ => Keeps.pure _
  intro path _ s h
  have grown := extends_makedirs path s.files
  have after : Quiet s₀ { s with files := (FileSystem.makedirs path s.files).2 } :=
    ⟨h.files.trans grown, h.artifacts, h.written⟩
  unfold Service.makedirs
  cases made : FileSystem.makedirs path s.files with
  | mk outcome files =>
    rw [made] at after
    cases outcome with
    | error exc => exact after
    | ok done => exact after

theorem quiet_createTask (s₀ : Store) (taskType : String) (inputSummary : Option String) :
    Keeps (Quiet s₀) (createTask service taskType inputSummary) := by
  refine Keeps.bind (quiet_newId service s₀ "task") fun taskId => ?_
  refine Keeps.bind (quiet_nowIso service s₀) fun now => ?_
  refine Keeps.bind ?_ fun _ => Keeps.bind (quiet_ensureTaskDirs s₀ _ _) fun _ => Keeps.pure _
  intro s h
  unfold insertTask
  by_cases taken : taskId ∈ s.tasks.keys
  · rw [if_pos taken]
    exact h
  · rw [if_neg taken]
    exact ⟨h.files, h.artifacts, h.written⟩

theorem quiet_artifactPath (s₀ : Store) (call : PersistCall) :
    Keeps (Quiet s₀) (artifactPath service call) := by
  refine Keeps.bind ?_ fun _ => Keeps.bind (quiet_ensureTaskDirs s₀ _ _) fun _ => Keeps.pure _
  unfold checkKeywords
  by_cases positional : call.positional = true
  · rw [if_pos positional]
    exact Keeps.raise _
  · rw [if_neg positional]
    exact Keeps.pure _

/-- The path a call writes to, once it gets that far. -/
def pathOf (call : PersistCall) : String :=
  join (baseDir service.artifactRootDir call.taskId call.subdir) call.name

/-- The place of the file a call gets to write, if it gets that far. -/
def writesTo (call : PersistCall) (s : Store) : Option (List String) :=
  match artifactPath service call s with
  | (.error _, _) => none
  | (.ok path, s₁) => (s₁.files.writable path).toOption

/-- The file was written at its place, and the store got as far as indexing it. -/
structure Wrote (call : PersistCall) (place : List String) (before after : Store) : Prop where
  target : writesTo service call before = some place
  prepared : ∃ files, Extends before.files files ∧ files.locate (pathOf service call) = .ok place ∧
    files.entries place ≠ some .directory ∧ after.files = files.put place (.file call.content)
  written : after.written =
    before.written ++ [⟨call.taskId, call.subdir, call.name, pathOf service call⟩]

/-- Everything a persist call can do. -/
inductive Outcome (call : PersistCall) (s : Store) : Except PyExc ArtifactRecord × Store → Prop where
  | refused (exc : PyExc) (s' : Store) (none : writesTo service call s = none) (quiet : Quiet s s') :
      Outcome call s (.error exc, s')
  | unindexed (exc : PyExc) (s' : Store) (place : List String) (wrote : Wrote service call place s s')
      (artifacts : s'.artifacts = s.artifacts) : Outcome call s (.error exc, s')
  | indexed (artifactId createdAt : String) (s' : Store) (place : List String)
      (wrote : Wrote service call place s s') (fresh : artifactId ∉ s.artifacts.keys)
      (artifacts : s'.artifacts = s.artifacts.set artifactId
        (artifactRecord service call (pathOf service call) artifactId createdAt)) :
      Outcome call s
        (.ok (artifactRecord service call (pathOf service call) artifactId createdAt), s')

theorem returns_pathOf (call : PersistCall) :
    Returns (fun path => path = pathOf service call) (artifactPath service call) :=
  Returns.bind fun _ => Returns.bind fun _ => Returns.pure rfl

theorem insertArtifact_cases (rec' : ArtifactRecord) (s : Store) :
    insertArtifact rec' s = (.error (integrityError "artifacts.artifact_id"), s) ∨
      (rec'.artifactId ∉ s.artifacts.keys ∧ insertArtifact rec' s =
        (.ok (), { s with artifacts := s.artifacts.set rec'.artifactId rec' })) := by
  unfold insertArtifact
  by_cases taken : rec'.artifactId ∈ s.artifacts.keys
  · exact .inl (if_pos taken)
  · exact .inr ⟨taken, if_neg taken⟩

/-- Indexing what was written: it goes through, or an id is drawn twice. -/
theorem indexArtifact_cases (call : PersistCall) (path : String) (s : Store) :
    ∃ artifactId createdAt s', s'.files = s.files ∧ s'.written = s.written ∧
      ((indexArtifact service call path s = (.error (integrityError "artifacts.artifact_id"), s') ∧
        s'.artifacts = s.artifacts) ∨
      (indexArtifact service call path s =
          (.ok (artifactRecord service call path artifactId createdAt), s') ∧
        artifactId ∉ s.artifacts.keys ∧ s'.artifacts =
          s.artifacts.set artifactId (artifactRecord service call path artifactId createdAt))) := by
  cases hi : newId service "artifact" s with
  | mk outcome s₁ =>
    cases outcome with
    | error exc => cases hi
    | ok artifactId =>
      cases ht : nowIso service s₁ with
      | mk outcome s₂ =>
        cases outcome with
        | error exc => cases ht
        | ok createdAt =>
          have inserted : indexArtifact service call path s =
              (insertArtifact (artifactRecord service call path artifactId createdAt) >>= fun _ =>
                pure (artifactRecord service call path artifactId createdAt)) s₂ :=
            (Computation.bind_of_ok hi _).trans (Computation.bind_of_ok ht _)
          have same : s₂.files = s.files ∧ s₂.written = s.written ∧ s₂.artifacts = s.artifacts := by
            cases hi
            cases ht
            exact ⟨rfl, rfl, rfl⟩
          rw [inserted]
          rcases insertArtifact_cases (artifactRecord service call path artifactId createdAt) s₂ with
            stopped | ⟨fresh, set⟩
          · exact ⟨artifactId, createdAt, s₂, same.1, same.2.1,
              .inl ⟨Computation.bind_of_error stopped _, same.2.2⟩⟩
          · rw [same.2.2] at fresh set
            refine ⟨artifactId, createdAt, _, ?_, ?_,
              .inr ⟨Computation.bind_of_ok set _, fresh, rfl⟩⟩
            · exact same.1
            · exact same.2.1

theorem persist_outcome (call : PersistCall) (s : Store) :
    Outcome service call s (persistArtifactBytes service call s) := by
  cases hp : artifactPath service call s with
  | mk outcome s₁ =>
    have quiet : Quiet s s₁ := by
      have after := (quiet_artifactPath service s call).after (Quiet.refl s)
      rwa [hp] at after
    cases outcome with
    | error exc =>
      have stopped : persistArtifactBytes service call s = (.error exc, s₁) :=
        Computation.bind_of_error hp _
      rw [stopped]
      exact .refused exc s₁ (by rw [writesTo, hp]) quiet
    | ok path =>
      obtain rfl : path = pathOf service call := (returns_pathOf service call).of_ok hp
      have going : persistArtifactBytes service call s =
          (writeFile call (pathOf service call) >>= fun _ =>
            indexArtifact service call (pathOf service call)) s₁ := Computation.bind_of_ok hp _
      rw [going]
      cases hw : s₁.files.writable (pathOf service call) with
      | error exc =>
        have stopped : writeFile call (pathOf service call) s₁ = (.error exc, s₁) := by
          rw [writeFile, hw]
        rw [Computation.bind_of_error stopped]
        exact .refused exc s₁ (by rw [writesTo, hp]; dsimp only; rw [hw]; rfl) quiet
      | ok place =>
        have done : ∃ s₂, writeFile call (pathOf service call) s₁ = (.ok (), s₂) ∧
            s₂.files = s₁.files.put place (.file call.content) ∧ s₂.artifacts = s₁.artifacts ∧
            s₂.written = s₁.written ++
              [⟨call.taskId, call.subdir, call.name, pathOf service call⟩] := by
          rw [writeFile, hw]
          exact ⟨_, rfl, rfl, rfl, rfl⟩
        obtain ⟨s₂, wrote, files, artifacts, written⟩ := done
        rw [Computation.bind_of_ok wrote]
        obtain ⟨located, free⟩ := writable_eq_ok_iff.mp hw
        obtain ⟨artifactId, createdAt, s', files', written', ended⟩ :=
          indexArtifact_cases service call (pathOf service call) s₂
        have record : Wrote service call place s s' := by
          refine ⟨by rw [writesTo, hp]; dsimp only; rw [hw]; rfl, ?_, ?_⟩
          · exact ⟨s₁.files, quiet.files, located, free, files'.trans files⟩
          · rw [written', written, quiet.written]
        rcases ended with ⟨stopped, kept⟩ | ⟨indexed, fresh, set⟩
        · rw [stopped]
          exact .unindexed _ s' place record (kept.trans (artifacts.trans quiet.artifacts))
        · rw [artifacts, quiet.artifacts] at fresh set
          rw [indexed]
          exact .indexed artifactId createdAt s' place record fresh set

end Outcome

section Integrity

/-- The record has the hash and the length of these bytes. -/
def Matches (rec : ArtifactRecord) (content : ByteArray) : Prop :=
  rec.contentHash = some (service.sha256Hex content) ∧ rec.sizeBytes = some content.size

/-- The file of the record's name holds the bytes the record describes. -/
def Describes (files : FileSystem) (rec : ArtifactRecord) : Prop :=
  ∃ content, files.read rec.storagePath = some content ∧ Matches service rec content

/-- Every record of the index still describes its file. -/
def Integrity (s : Store) : Prop := ∀ rec ∈ s.artifacts.values, Describes service s.files rec

/-- When the call gets to write a file, every record of that file has the hash and the length
of what is written. -/
def Harmless (call : PersistCall) (s : Store) : Prop :=
  ∀ place, writesTo service call s = some place → ∀ rec ∈ s.artifacts.values,
    s.files.locate rec.storagePath = .ok place → Matches service rec call.content

variable {service} {call : PersistCall} {s s' : Store} {place : List String}

theorem Integrity.of_quiet (h : Integrity service s) (quiet : Quiet s s') : Integrity service s' := by
  intro rec mem
  rw [quiet.artifacts] at mem
  obtain ⟨content, held, matches'⟩ := h rec mem
  exact ⟨content, read_of_extends quiet.files held, matches'⟩

/-- What a record's name reads as once the call has written its file. -/
theorem Wrote.read_eq (wrote : Wrote service call place s s') {rec : ArtifactRecord}
    {content : ByteArray} {home : List String} (located : s.files.locate rec.storagePath = .ok home)
    (held : s.files.read rec.storagePath = some content) :
    s'.files.read rec.storagePath = some (if home = place then call.content else content) := by
  obtain ⟨files, grown, _, free, after⟩ := wrote.prepared
  have there := locate_of_keeps grown.keepsDirectories located
  rw [after, read_put free call.content there]
  by_cases same : home = place
  · rw [if_pos same, if_pos same]
  · rw [if_neg same, if_neg same]
    exact read_of_extends grown held

theorem Wrote.reads_own (wrote : Wrote service call place s s') :
    s'.files.read (pathOf service call) = some call.content := by
  obtain ⟨files, _, located, free, after⟩ := wrote.prepared
  rw [after, read_put free call.content located, if_pos rfl]

/-- Writing a file keeps the old records right exactly when it does no harm. -/
theorem Wrote.describes_iff (wrote : Wrote service call place s s') (before : Integrity service s) :
    (∀ rec ∈ s.artifacts.values, Describes service s'.files rec) ↔ Harmless service call s := by
  constructor
  · intro after place' target rec mem located
    cases wrote.target.symm.trans target
    obtain ⟨content, held, _⟩ := before rec mem
    obtain ⟨now, reads, matches'⟩ := after rec mem
    rw [wrote.read_eq located held, if_pos rfl] at reads
    cases reads
    exact matches'
  · intro harmless rec mem
    obtain ⟨content, held, matches'⟩ := before rec mem
    obtain ⟨home, located, _⟩ := read_eq_some_iff.mp held
    refine ⟨_, wrote.read_eq located held, ?_⟩
    by_cases same : home = place
    · rw [if_pos same]
      exact harmless place wrote.target rec mem (same ▸ located)
    · rw [if_neg same]
      exact matches'

/-- One persist call keeps the integrity of the store exactly when it does no harm. -/
theorem integrity_persist_iff (before : Integrity service s) :
    Integrity service (persistArtifactBytes service call s).2 ↔ Harmless service call s := by
  have outcome := persist_outcome service call s
  generalize persistArtifactBytes service call s = ended at outcome
  cases outcome with
  | refused exc s' nothing quiet =>
    refine ⟨fun _ place target => ?_, fun _ => before.of_quiet quiet⟩
    cases nothing.symm.trans target
  | unindexed exc s' place wrote artifacts =>
    rw [← wrote.describes_iff before]
    unfold Integrity
    rw [artifacts]
  | indexed artifactId createdAt s' place wrote fresh artifacts =>
    have own : Describes service s'.files
        (artifactRecord service call (pathOf service call) artifactId createdAt) :=
      ⟨call.content, wrote.reads_own, rfl, rfl⟩
    rw [← wrote.describes_iff before]
    unfold Integrity
    rw [artifacts, PyDict.values_set_of_notMem _ _ fresh]
    constructor
    · intro after rec mem
      exact after rec (List.mem_append_left _ mem)
    · intro after rec mem
      rcases List.mem_append.mp mem with mem | mem
      · exact after rec mem
      · rw [List.mem_singleton.mp mem]
        exact own

end Integrity

section Sequences

/-- A call of the service. What it raises is up to its caller; what it did to the store stays. -/
inductive Call where
  | createTask (taskType : String) (inputSummary : Option String)
  | persist (call : PersistCall)

def perform (s : Store) : Call → Store
  | .createTask taskType inputSummary => (createTask service taskType inputSummary s).2
  | .persist call => (persistArtifactBytes service call s).2

def performAll (calls : List Call) (s : Store) : Store := calls.foldl (perform service) s

theorem performAll_append_singleton (calls : List Call) (call : Call) (s : Store) :
    performAll service (calls ++ [call]) s = perform service (performAll service calls s) call := by
  rw [performAll, List.foldl_append]
  rfl

/-- On a store with a new index, integrity holds after each call of a sequence exactly when no
persist call of it does harm. -/
theorem integrity_iff (files : FileSystem) (calls : List Call) :
    (∀ done, done <+: calls → Integrity service (performAll service done (Store.new files))) ↔
      ∀ done call, done ++ [.persist call] <+: calls →
        Harmless service call (performAll service done (Store.new files)) := by
  constructor
  · intro holds done call next
    have before := holds done ((List.prefix_append done _).trans next)
    have after := holds _ next
    rw [performAll_append_singleton] at after
    exact (integrity_persist_iff before).mp after
  · intro harmless done
    -- induction on the calls behind us, the last one singled out
    induction done using List.reverseRecOn with
    | nil =>
      intro _ rec mem
      cases mem
    | append_singleton done call ih =>
      intro next
      have before := ih ((List.prefix_append done _).trans next)
      rw [performAll_append_singleton]
      cases call with
      | createTask taskType inputSummary =>
        have quiet := (quiet_createTask service _ taskType inputSummary).after
          (Quiet.refl (performAll service done (Store.new files)))
        exact before.of_quiet quiet
      | persist call => exact (integrity_persist_iff before).mpr (harmless done call next)

end Sequences

section Examples

def testDisk : FileSystem := ⟨["work"], fun p => if p = ["work"] then some .directory else none⟩

def testService : ArtifactManagerService where
  artifactRootDir := "artifacts"
  sha256Hex content := toString content.size
  uuidHex n := toString n
  isoTime n := toString n

/-- What the engine persists of a step's output. -/
def stdoutCall (stepId text : String) : PersistCall where
  taskId := "task_0"
  stageId := none
  kind := "exec.stdout"
  name := s!"{stepId}.stdout.txt"
  content := text.toUTF8
  subdir := "outputs"
  mimeType := some "text/plain"
  createdByAction := some "execution"

/-- Two executions of one step of a task, as after a replan. -/
def repeatedStep : List Call :=
  [.createTask "sdk_test" none, .persist (stdoutCall "s1" "one"), .persist (stdoutCall "s1" "other")]

theorem repeated_step_overwrites :
    (performAll testService repeatedStep (Store.new testDisk)).artifacts.values.map
        (fun rec => (rec.storagePath, rec.sizeBytes)) =
      [("artifacts/task_0/s1.stdout.txt", some 3), ("artifacts/task_0/s1.stdout.txt", some 5)] ∧
    ((performAll testService repeatedStep (Store.new testDisk)).files.read
        "artifacts/task_0/s1.stdout.txt").map ByteArray.size = some 5 ∧
    ¬ Integrity testService (performAll testService repeatedStep (Store.new testDisk)) := by
  -- the two executions are computed once, for both facts
  have computed : ((performAll testService repeatedStep (Store.new testDisk)).artifacts.values.map
      (fun rec => (rec.storagePath, rec.sizeBytes)),
      ((performAll testService repeatedStep (Store.new testDisk)).files.read
        "artifacts/task_0/s1.stdout.txt").map ByteArray.size) =
      ([("artifacts/task_0/s1.stdout.txt", some 3), ("artifacts/task_0/s1.stdout.txt", some 5)],
        some 5) := by
    decide +kernel
  obtain ⟨records, onDisk⟩ := Prod.mk.inj computed
  refine ⟨records, onDisk, ?_⟩
  intro holds
  have first : ("artifacts/task_0/s1.stdout.txt", some 3) ∈
      (performAll testService repeatedStep (Store.new testDisk)).artifacts.values.map
        (fun rec => (rec.storagePath, rec.sizeBytes)) := records ▸ List.mem_cons_self
  obtain ⟨rec', mem, shown⟩ := List.mem_map.mp first
  obtain ⟨path, size⟩ := Prod.mk.inj shown
  obtain ⟨content, held, _, described⟩ := holds rec' mem
  rw [path] at held
  rw [held] at onDisk
  have five : content.size = 5 := Option.some.inj onDisk
  have three : 3 = content.size := Option.some.inj (size.symm.trans described)
  omega

end Examples

end SthBoring.ArtifactManager.ArtifactIntegrity
