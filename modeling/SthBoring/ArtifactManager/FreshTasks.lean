/- Module: SthBoring/ArtifactManager/FreshTasks
   source: sdk_test_agent/artifact_manager/artifact_manager_service.py, artifact_manager_utils.py
   digest: A task under a fresh id can always be created, and its artifacts can be persisted. -/

import SthBoring.Lib.MadeDirectories
import SthBoring.ArtifactManager.Service

set_option autoImplicit false
set_option relaxedAutoImplicit false

namespace SthBoring.ArtifactManager.FreshTasks

open SthBoring.Lib.Effect (Computation Completes Triple)
open SthBoring.Lib.FileTree (Entry FileSystem)
open SthBoring.Lib.FileTree.FileSystem (KeepsDirectories put_entries_self put_entries_of_ne
  keepsDirectories_put writable_eq_ok_iff)
open SthBoring.Lib.MadeDirectories
open SthBoring.Lib.OrderedDict (PyDict)
open SthBoring.Lib.PosixPath (canonical canonical_pathStr join pathJoin isPart)
open SthBoring.Lib.PyValue (PyExc)
open SthBoring.Execution.Models (PersistCall)
open SthBoring.ArtifactManager.Service

variable (service : ArtifactManagerService)

section Ids

/-- The digits of an id, by its draw. -/
def digits (n : ℕ) : String :=
  String.ofList (((service.uuidHex n).toList.take 26).map Char.toUpper)

def idAt (pre : String) (n : ℕ) : String := s!"{pre}_{digits service n}"

/-- `uuid4().hex`. -/
def Hexadecimal : Prop :=
  ∀ n, ∀ c ∈ (service.uuidHex n).toList, c ∈ "0123456789abcdef".toList

theorem newId_eq (pre : String) (s : Store) :
    newId service pre s = (.ok (idAt service pre s.idsDrawn), { s with idsDrawn := s.idsDrawn + 1 }) :=
  rfl

theorem nowIso_eq (s : Store) :
    nowIso service s = (.ok (service.isoTime s.ticks), { s with ticks := s.ticks + 1 }) :=
  rfl

theorem idAt_toList (pre : String) (n : ℕ) :
    (idAt service pre n).toList = pre.toList ++ '_' :: (digits service n).toList := by
  have text : idAt service pre n = pre ++ "_" ++ digits service n := rfl
  rw [text, String.toList_append, String.toList_append, List.append_assoc]
  rfl

variable {service}

theorem digits_of_idAt {pre : String} {i j : ℕ} (h : idAt service pre i = idAt service pre j) :
    digits service i = digits service j := by
  have chars := congrArg String.toList h
  rw [idAt_toList, idAt_toList] at chars
  exact String.toList_inj.mp (List.cons_inj_right _ |>.mp (List.append_cancel_left chars))

theorem hex_digits (hex : Hexadecimal service) {n : ℕ} {c : Char}
    (mem : c ∈ (digits service n).toList) : c ≠ '/' ∧ c ≠ Char.ofNat 0 := by
  have upper : ∀ d ∈ "0123456789abcdef".toList, d.toUpper ≠ '/' ∧ d.toUpper ≠ Char.ofNat 0 := by
    have checked : ("0123456789abcdef".toList.all
        fun d => d.toUpper != '/' && d.toUpper != Char.ofNat 0) = true := by decide
    intro d mem
    have apart := List.all_eq_true.mp checked d mem
    rwa [Bool.and_eq_true, bne_iff_ne, bne_iff_ne] at apart
  rw [digits, String.toList_ofList] at mem
  obtain ⟨d, taken, rfl⟩ := List.mem_map.mp mem
  exact upper d (hex n d (List.mem_of_mem_take taken))

/-- The id of a task names a directory. -/
theorem plain_task (hex : Hexadecimal service) (n : ℕ) : Plain (idAt service "task" n) := by
  have chars := idAt_toList service "task" n
  refine ⟨?_, ?_, ?_, ?_⟩
  · have named : idAt service "task" n ≠ "" ∧ idAt service "task" n ≠ "." := by
      constructor <;> intro same <;> rw [same] at chars <;> simp at chars
    simp [isPart, named.1, named.2]
  · intro same
    rw [same] at chars
    simp at chars
  · rw [chars]
    intro mem
    rcases List.mem_append.mp mem with front | back
    · exact absurd front (by decide)
    · rcases List.mem_cons.mp back with line | digit
      · exact absurd line (by decide)
      · exact (hex_digits hex digit).1 rfl
  · unfold Lib.FileTree.hasNull
    rw [chars]
    simp only [List.contains_eq_mem, decide_eq_false_iff_not]
    intro mem
    rcases List.mem_append.mp mem with front | back
    · exact absurd front (by decide)
    · rcases List.mem_cons.mp back with line | digit
      · exact absurd line (by decide)
      · exact (hex_digits hex digit).2 rfl

end Ids

section Directories

def subdirs : List String := ["generated", "logs", "reports", "inputs"]

theorem plain_subdirs : ∀ sub ∈ subdirs, Plain sub := by decide

theorem makedirs_eq {path : String} {s : Store} {files : FileSystem} (h : Made path s.files files) :
    Service.makedirs (Lib.PosixPath.pathStr path) s = (.ok (), { s with files := files }) := by
  unfold Service.makedirs
  rw [makedirs_of_made h]

variable {base : String}

/-- Directories are made in a directory that is there, and nothing else is changed. -/
theorem each_makedirs {subs : List String} (plain : ∀ sub ∈ subs, Plain sub) {s : Store}
    (stands : Stands base s.files)
    (free : ∀ sub ∈ subs, ∀ content,
      s.files.entries (canonical s.files.cwd base ++ [sub]) ≠ some (.file content)) :
    ∃ done files, Computation.each Service.makedirs (subs.map (pathJoin base)) s =
        (.ok done, { s with files := files }) ∧ KeepsDirectories s.files files ∧
      (∀ sub ∈ subs, Stands (pathJoin base sub) files ∧
        files.entries (canonical s.files.cwd base ++ [sub]) = some .directory) ∧
      ∀ p, (∀ sub ∈ subs, p ≠ canonical s.files.cwd base ++ [sub]) →
        files.entries p = s.files.entries p := by
  induction subs generalizing s with
  | nil => exact ⟨[], s.files, rfl, ⟨rfl, fun _ h => h⟩, nofun, fun _ _ => rfl⟩
  | cons sub subs ih =>
    have here := free sub List.mem_cons_self
    have made := Made.child stands (plain sub List.mem_cons_self) here
    have first := makedirs_eq (s := s) (made_pathStr.mp made)
    have keeps : KeepsDirectories s.files
        (s.files.put (canonical s.files.cwd base ++ [sub]) .directory) := made.extends.keepsDirectories
    have free' : ∀ sub' ∈ subs, ∀ content,
        (s.files.put (canonical s.files.cwd base ++ [sub]) .directory).entries
          (canonical s.files.cwd base ++ [sub']) ≠ some (.file content) := by
      intro sub' mem content
      by_cases again : canonical s.files.cwd base ++ [sub'] = canonical s.files.cwd base ++ [sub]
      · rw [again, put_entries_self]
        exact nofun
      · rw [put_entries_of_ne _ _ again]
        exact free sub' (List.mem_cons_of_mem sub mem) content
    obtain ⟨done, files, rest, kept, standing, same⟩ := ih
      (fun sub' mem => plain sub' (List.mem_cons_of_mem sub mem))
      (s := { s with files := s.files.put (canonical s.files.cwd base ++ [sub]) .directory })
      (stands.of_keeps keeps) free'
    refine ⟨() :: done, files, ?_, ⟨kept.cwd, fun p h => kept.directories p (keeps.directories p h)⟩,
      ?_, fun p apart => ?_⟩
    · exact Computation.each_cons_of_ok first rest
    · intro sub' mem
      rcases List.mem_cons.mp mem with rfl | later
      · exact ⟨made.stands.of_keeps kept, kept.directories _ (put_entries_self _ _ _)⟩
      · exact standing sub' later
    · rw [same p fun sub' mem => apart sub' (List.mem_cons_of_mem sub mem)]
      exact put_entries_of_ne _ _ (apart sub List.mem_cons_self)

/-- Where the files of a task are to be, nothing is in the way. -/
structure Clear (home : List String) (files : FileSystem) : Prop where
  base : ∀ content, files.entries home ≠ some (.file content)
  subdirs : ∀ sub ∈ subdirs, ∀ content, files.entries (home ++ [sub]) ≠ some (.file content)
  names : ∀ sub name, files.entries (home ++ [sub] ++ [name]) ≠ some .directory

/-- The directories of a task are made, and nothing but these is changed. -/
theorem ensureTaskDirs_spec {rootDir taskId : String} {s : Store} {files : FileSystem}
    (made : Made rootDir s.files files) (plain : Plain taskId)
    (clear : Clear (canonical s.files.cwd rootDir ++ [taskId]) files) :
    ∃ files', ensureTaskDirs rootDir taskId s =
        (.ok (taskDirs rootDir taskId), { s with files := files' }) ∧
      KeepsDirectories files files' ∧
      (∀ sub ∈ subdirs, Stands (pathJoin (pathJoin rootDir taskId) sub) files') ∧
      Clear (canonical s.files.cwd rootDir ++ [taskId]) files' ∧
      ∀ p, p ≠ canonical s.files.cwd rootDir ++ [taskId] →
        (∀ sub ∈ subdirs, p ≠ canonical s.files.cwd rootDir ++ [taskId] ++ [sub]) →
        files'.entries p = files.entries p := by
  have base := Made.child made plain clear.base
  have first := makedirs_eq (s := s) (made_pathStr.mp base)
  generalize opened : files.put (canonical s.files.cwd rootDir ++ [taskId]) .directory = files₁ at *
  have cwd : files₁.cwd = s.files.cwd := base.extends.cwd
  have home : canonical files₁.cwd (pathJoin rootDir taskId) =
      canonical s.files.cwd rootDir ++ [taskId] := by
    rw [cwd, canonical_child _ _ plain]
  have apart : ∀ p, p ≠ canonical s.files.cwd rootDir ++ [taskId] →
      files₁.entries p = files.entries p := by
    intro p other
    rw [← opened, put_entries_of_ne _ _ other]
  have free : ∀ sub ∈ subdirs, ∀ content,
      files₁.entries (canonical files₁.cwd (pathJoin rootDir taskId) ++ [sub]) ≠
        some (.file content) := by
    intro sub mem content
    rw [home, apart _ (by simp)]
    exact clear.subdirs sub mem content
  obtain ⟨done, files', rest, kept, standing, same⟩ := each_makedirs plain_subdirs
    (s := { s with files := files₁ }) base.stands free
  rw [home] at standing same
  refine ⟨files', ?_, ⟨kept.cwd.trans (cwd.trans ?_), fun p there => kept.directories p ?_⟩,
    fun sub mem => (standing sub mem).1, ⟨fun content => ?_, fun sub mem content => ?_, fun sub name => ?_⟩,
    fun p other subs => ?_⟩
  · have paths : (taskDirs rootDir taskId).map (·.2) =
        pathJoin rootDir taskId :: subdirs.map (pathJoin (pathJoin rootDir taskId)) := by
      simp [taskDirs, subdirs]
    unfold ensureTaskDirs
    rw [paths]
    exact Computation.bind_of_ok (Computation.each_cons_of_ok first rest) _
  · exact made.extends.cwd.symm
  · rw [← opened]
    by_cases here : p = canonical s.files.cwd rootDir ++ [taskId]
    · rw [here, put_entries_self]
    · rw [put_entries_of_ne _ _ here]
      exact there
  · have there : files₁.entries (canonical s.files.cwd rootDir ++ [taskId]) = some .directory := by
      rw [← opened, put_entries_self]
    rw [kept.directories _ there]
    exact nofun
  · rw [(standing sub mem).2]
    exact nofun
  · rw [same _ (by simp), apart _ (by simp)]
    exact clear.names sub name
  · rw [same p subs]
    exact apart p other

end Directories

section Tasks

/-- Where the tasks have their directories. -/
def place (s : Store) : List String := canonical s.files.cwd service.artifactRootDir

/-- The next ids to be drawn are new: to each other, to the index, and to the disk. -/
structure NewIds (m : ℕ) (s : Store) (files : FileSystem) : Prop where
  distinct : ∀ i j, s.idsDrawn ≤ i → i < j → j < s.idsDrawn + m →
    digits service i ≠ digits service j
  tasks : ∀ i, s.idsDrawn ≤ i → i < s.idsDrawn + m → idAt service "task" i ∉ s.tasks.keys
  artifacts : ∀ i, s.idsDrawn ≤ i → i < s.idsDrawn + m →
    idAt service "artifact" i ∉ s.artifacts.keys
  disk : ∀ i, s.idsDrawn ≤ i → i < s.idsDrawn + m → ∀ rest,
    files.entries (place service s ++ [idAt service "task" i] ++ rest) = none

/-- The root directory is there or can be made, and the next ids are new. -/
def Ahead (m : ℕ) (s : Store) : Prop :=
  ∃ files, Made service.artifactRootDir s.files files ∧ NewIds service m s files

/-- A task was created, and the next ids are new beside it. -/
structure Working (taskId : String) (m : ℕ) (s : Store) : Prop where
  stands : Stands service.artifactRootDir s.files
  ids : NewIds service m s s.files
  clear : Clear (place service s ++ [taskId]) s.files
  other : ∀ i, s.idsDrawn ≤ i → i < s.idsDrawn + m → idAt service "task" i ≠ taskId

variable {service} {m : ℕ} {taskId : String} {s : Store}

theorem Working.ahead (h : Working service taskId m s) : Ahead service m s :=
  ⟨s.files, h.stands, h.ids⟩

/-- One id is drawn. -/
theorem NewIds.drawn {files : FileSystem} (h : NewIds service (m + 1) s files) :
    NewIds service m { s with idsDrawn := s.idsDrawn + 1 } files := by
  constructor
  · intro i j low apart high
    dsimp only at low high
    exact h.distinct i j (by omega) apart (by omega)
  · intro i low high
    dsimp only at low high
    exact h.tasks i (by omega) (by omega)
  · intro i low high
    dsimp only at low high
    exact h.artifacts i (by omega) (by omega)
  · intro i low high
    dsimp only at low high
    exact h.disk i (by omega) (by omega)

theorem Working.drawn (h : Working service taskId (m + 1) s) :
    Working service taskId m { s with idsDrawn := s.idsDrawn + 1 } := by
  refine ⟨h.stands, h.ids.drawn, h.clear, fun i low high => ?_⟩
  dsimp only at low high
  exact h.other i (by omega) (by omega)

/-- What changes beside the ids to come leaves them new. -/
theorem NewIds.of_same {s' : Store} {files files' : FileSystem} (h : NewIds service m s files)
    (drawn : s'.idsDrawn = s.idsDrawn) (cwd : s'.files.cwd = s.files.cwd)
    (tasks : ∀ i, s.idsDrawn ≤ i → i < s.idsDrawn + m → idAt service "task" i ∉ s'.tasks.keys)
    (artifacts : ∀ i, s.idsDrawn ≤ i → i < s.idsDrawn + m →
      idAt service "artifact" i ∉ s'.artifacts.keys)
    (disk : ∀ i, s.idsDrawn ≤ i → i < s.idsDrawn + m → ∀ rest,
      files'.entries (place service s ++ [idAt service "task" i] ++ rest) =
        files.entries (place service s ++ [idAt service "task" i] ++ rest)) :
    NewIds service m s' files' := by
  have here : place service s' = place service s := by rw [place, place, cwd]
  constructor
  · rw [drawn]
    exact h.distinct
  · rw [drawn]
    exact tasks
  · rw [drawn]
    exact artifacts
  · rw [drawn, here]
    intro i low high rest
    rw [disk i low high rest]
    exact h.disk i low high rest

theorem Working.ticked (h : Working service taskId m s) (ticks : ℕ) :
    Working service taskId m { s with ticks := ticks } :=
  ⟨h.stands, h.ids.of_same rfl rfl h.ids.tasks h.ids.artifacts fun _ _ _ _ => rfl, h.clear, h.other⟩

/-- An id need not be drawn. -/
theorem Working.spare (h : Working service taskId (m + 1) s) : Working service taskId m s where
  stands := h.stands
  ids := {
    distinct := fun i j low apart high => h.ids.distinct i j low apart (by omega)
    tasks := fun i low high => h.ids.tasks i low (by omega)
    artifacts := fun i low high => h.ids.artifacts i low (by omega)
    disk := fun i low high => h.ids.disk i low (by omega) }
  clear := h.clear
  other i low high := h.other i low (by omega)

/-- A later id is none that is drawn now. -/
theorem NewIds.ne {files : FileSystem} (h : NewIds service (m + 1) s files) (pre : String) {i : ℕ}
    (low : s.idsDrawn + 1 ≤ i) (high : i < s.idsDrawn + 1 + m) :
    idAt service pre i ≠ idAt service pre s.idsDrawn := by
  intro same
  exact h.distinct s.idsDrawn i le_rfl (by omega) (by omega) (digits_of_idAt same).symm

/-- A place of one task is none of another. -/
theorem apart {home : List String} {t u : String} (h : t ≠ u) (xs ys : List String) :
    home ++ [t] ++ xs ≠ home ++ [u] ++ ys := by
  intro same
  rw [List.append_assoc, List.append_assoc] at same
  exact h (List.cons.inj (List.append_cancel_left same)).1

/-- Where nothing is, nothing is in the way. -/
theorem clear_of_none {home : List String} {files : FileSystem}
    (h : ∀ rest, files.entries (home ++ rest) = none) : Clear home files := by
  constructor
  · intro content
    have base := h []
    rw [List.append_nil] at base
    rw [base]
    exact nofun
  · intro sub _ content
    rw [h [sub]]
    exact nofun
  · intro sub name
    rw [List.append_assoc, h]
    exact nofun

theorem insertTask_of_new {rec' : TaskRecord} (new : rec'.taskId ∉ s.tasks.keys) :
    insertTask rec' s = (.ok (), { s with tasks := s.tasks.set rec'.taskId rec' }) :=
  if_neg new

/-- The lines of `create_task` behind the clock. -/
def openTask (rootDir : String) (rec' : TaskRecord) : Storing TaskRecord := do
  insertTask rec'
  let _ ← ensureTaskDirs rootDir rec'.taskId
  return rec'

theorem createTask_eq (taskType : String) (inputSummary : Option String) :
    createTask service taskType inputSummary s =
      openTask service.artifactRootDir ⟨idAt service "task" s.idsDrawn, taskType, "created",
          inputSummary, service.isoTime s.ticks, service.isoTime s.ticks⟩
        { s with idsDrawn := s.idsDrawn + 1, ticks := s.ticks + 1 } := by
  unfold createTask openTask
  rw [Computation.bind_of_ok (newId_eq service "task" s), Computation.bind_of_ok (nowIso_eq service _)]

/-- The directories of a task are no place of another task. -/
theorem aside_of_task {home : List String} {t u : String} {rest : List String} (h : u ≠ t) :
    home ++ [u] ++ rest ≠ home ++ [t] ∧ ∀ sub ∈ subdirs, home ++ [u] ++ rest ≠ home ++ [t] ++ [sub] := by
  refine ⟨fun same => ?_, fun sub _ => apart h _ _⟩
  exact apart h rest [] (same.trans (List.append_nil _).symm)

/-- A record under a fresh id is inserted, and the directories of its task are made. -/
theorem openTask_spec {rec' : TaskRecord} {files : FileSystem} (plain : Plain rec'.taskId)
    (made : Made service.artifactRootDir s.files files) (new : rec'.taskId ∉ s.tasks.keys)
    (nothing : ∀ rest, files.entries (place service s ++ [rec'.taskId] ++ rest) = none)
    (ids : NewIds service m s files)
    (other : ∀ i, s.idsDrawn ≤ i → i < s.idsDrawn + m → idAt service "task" i ≠ rec'.taskId) :
    ∃ s', openTask service.artifactRootDir rec' s = (.ok rec', s') ∧
      Working service rec'.taskId m s' ∧ s'.idsDrawn = s.idsDrawn := by
  let s₁ : Store := { s with tasks := s.tasks.set rec'.taskId rec' }
  obtain ⟨files', dirs, keeps, -, clear, same⟩ :=
    ensureTaskDirs_spec (s := s₁) made plain (clear_of_none nothing)
  have kept : ∀ u rest, u ≠ rec'.taskId →
      files'.entries (place service s ++ [u] ++ rest) = files.entries (place service s ++ [u] ++ rest) :=
    fun u rest h => same _ (aside_of_task h).1 (aside_of_task h).2
  have cwd : files'.cwd = s.files.cwd := keeps.cwd.trans made.extends.cwd
  refine ⟨{ s₁ with files := files' }, ?_, ?_, rfl⟩
  · unfold openTask
    rw [Computation.bind_of_ok (insertTask_of_new new), Computation.bind_of_ok dirs]
    rfl
  · have here : place service { s₁ with files := files' } = place service s := by
      rw [place, place, cwd]
    refine ⟨made.stands.of_keeps keeps, ids.of_same rfl cwd ?_ ids.artifacts ?_, ?_, other⟩
    · intro i low high mem
      rcases (PyDict.mem_keys_set _ _ _ _).mp mem with own | old
      · exact other i low high own
      · exact ids.tasks i low high old
    · exact fun i low high rest => kept _ rest (other i low high)
    · rw [here]
      exact clear

/-- A task under a fresh id is created, with its directories. -/
theorem createTask_completes (hex : Hexadecimal service) (taskType : String)
    (inputSummary : Option String) (n : ℕ) :
    Completes (fun s => Ahead service (m + 1) s ∧ s.idsDrawn = n)
      (createTask service taskType inputSummary)
      (fun task s => task.taskId = idAt service "task" n ∧
        Working service (idAt service "task" n) m s ∧ s.idsDrawn = n + 1) := by
  constructor
  rintro s ⟨⟨files, made, ids⟩, rfl⟩
  have plain := plain_task hex s.idsDrawn
  have new := ids.tasks s.idsDrawn le_rfl (by omega)
  have nothing := ids.disk s.idsDrawn le_rfl (by omega)
  rw [createTask_eq]
  generalize named : (TaskRecord.mk (idAt service "task" s.idsDrawn) taskType "created" inputSummary
    (service.isoTime s.ticks) (service.isoTime s.ticks)) = rec'
  have id : rec'.taskId = idAt service "task" s.idsDrawn := by rw [← named]
  rw [← id] at plain new nothing ⊢
  have other : ∀ i, s.idsDrawn + 1 ≤ i → i < s.idsDrawn + 1 + m →
      idAt service "task" i ≠ rec'.taskId := by
    intro i low high
    rw [id]
    exact ids.ne "task" low high
  obtain ⟨s', ran, working, drawn⟩ :=
    openTask_spec (s := { s with idsDrawn := s.idsDrawn + 1, ticks := s.ticks + 1 }) plain made new
      nothing (ids.drawn.of_same rfl rfl ids.drawn.tasks ids.drawn.artifacts fun _ _ _ _ => rfl) other
  exact ⟨rec', s', ran, rfl, working, drawn⟩

end Tasks

section Artifacts

/-- A call that persists a named file in a directory of the task. -/
structure Files (taskId : String) (call : PersistCall) : Prop where
  keywords : call.positional = false
  task : call.taskId = taskId
  subdir : call.subdir ∈ subdirs
  name : Plain call.name

variable {service} {m : ℕ} {taskId : String} {s : Store} {call : PersistCall}

theorem baseDir_of_mem {rootDir sub : String} (mem : sub ∈ subdirs) :
    baseDir rootDir taskId sub = pathJoin (pathJoin rootDir taskId) sub := by
  simp only [subdirs, List.mem_cons, List.not_mem_nil, or_false] at mem
  rcases mem with rfl | rfl | rfl | rfl <;>
    simp [baseDir, taskDirs, Lib.OrderedDict.assocGet]

/-- The directories are there, and the file is opened for writing. -/
theorem artifactPath_spec (h : Working service taskId m s) (plain : Plain taskId)
    (filed : Files taskId call) :
    ∃ path s', artifactPath service call s = (.ok path, s') ∧ Working service taskId m s' ∧
      s'.idsDrawn = s.idsDrawn ∧
      s'.files.writable path =
        .ok (place service s' ++ [taskId] ++ [call.subdir] ++ [call.name]) := by
  obtain ⟨files', dirs, keeps, standing, clear, same⟩ :=
    ensureTaskDirs_spec h.stands plain h.clear
  have kept : ∀ u rest, u ≠ taskId →
      files'.entries (place service s ++ [u] ++ rest) =
        s.files.entries (place service s ++ [u] ++ rest) :=
    fun u rest other => same _ (aside_of_task other).1 (aside_of_task other).2
  have here : place service { s with files := files' } = place service s := by
    rw [place, place, keeps.cwd]
  refine ⟨join (pathJoin (pathJoin service.artifactRootDir taskId) call.subdir) call.name,
    { s with files := files' }, ?_, ⟨h.stands.of_keeps keeps, ?_, ?_, h.other⟩, rfl, ?_⟩
  · unfold artifactPath checkKeywords
    rw [filed.keywords, filed.task, if_neg Bool.false_ne_true, pure_bind,
      Computation.bind_of_ok dirs, baseDir_of_mem filed.subdir]
    rfl
  · exact h.ids.of_same rfl keeps.cwd h.ids.tasks h.ids.artifacts
      fun i low high rest => kept _ rest (h.other i low high)
  · rw [here]
    exact clear
  · have stands := standing call.subdir filed.subdir
    have home : canonical files'.cwd (pathJoin (pathJoin service.artifactRootDir taskId) call.subdir) =
        place service s ++ [taskId] ++ [call.subdir] := by
      rw [canonical_child _ _ (plain_subdirs _ filed.subdir), canonical_child _ _ plain, keeps.cwd]
      rfl
    have located := (made_pathStr.mp stands).locate filed.name
    rw [← canonical_pathStr] at located
    change _ = Except.ok (canonical _ (pathJoin _ _) ++ _) at located
    rw [home] at located
    rw [here]
    exact writable_eq_ok_iff.mpr ⟨located, clear.names call.subdir call.name⟩

/-- Writing a file of the task leaves the task and the ids to come as they are. -/
theorem Working.put (h : Working service taskId m s) (sub name : String) (content : ByteArray)
    (written : List WrittenFile) :
    Working service taskId m { s with
      files := s.files.put (place service s ++ [taskId] ++ [sub] ++ [name]) (.file content)
      written := written } := by
  have free := h.clear.names sub name
  have keeps := keepsDirectories_put (.file content) free
  have same : ∀ p, p ≠ place service s ++ [taskId] ++ [sub] ++ [name] →
      (s.files.put (place service s ++ [taskId] ++ [sub] ++ [name]) (.file content)).entries p =
        s.files.entries p :=
    fun p other => put_entries_of_ne s.files _ other
  refine ⟨h.stands.of_keeps keeps, ?_, ⟨?_, ?_, ?_⟩, h.other⟩
  · refine h.ids.of_same rfl rfl h.ids.tasks h.ids.artifacts fun i low high rest => same _ ?_
    rw [List.append_assoc (_ ++ [taskId])]
    exact apart (h.other i low high) _ _
  · intro content'
    change (s.files.put _ _).entries (place service s ++ [taskId]) ≠ _
    rw [same _ (by simp)]
    exact h.clear.base content'
  · intro sub' mem content'
    change (s.files.put _ _).entries (place service s ++ [taskId] ++ [sub']) ≠ _
    rw [same _ (by simp)]
    exact h.clear.subdirs sub' mem content'
  · intro sub' name'
    change (s.files.put _ _).entries (place service s ++ [taskId] ++ [sub'] ++ [name']) ≠ _
    by_cases here : place service s ++ [taskId] ++ [sub'] ++ [name'] =
        place service s ++ [taskId] ++ [sub] ++ [name]
    · rw [here, put_entries_self]
      exact nofun
    · rw [same _ here]
      exact h.clear.names sub' name'

/-- A file of the task is indexed under the next id. -/
theorem indexArtifact_spec (h : Working service taskId (m + 1) s) (call : PersistCall) (path : String) :
    ∃ rec' s', indexArtifact service call path s = (.ok rec', s') ∧
      Working service taskId m s' ∧ s'.idsDrawn = s.idsDrawn + 1 := by
  generalize made : artifactRecord service call path (idAt service "artifact" s.idsDrawn)
    (service.isoTime s.ticks) = rec'
  have id : rec'.artifactId = idAt service "artifact" s.idsDrawn := by
    rw [← made]
    rfl
  have new : rec'.artifactId ∉ s.artifacts.keys := by
    rw [id]
    exact h.ids.artifacts s.idsDrawn le_rfl (by omega)
  let s₁ : Store := { s with idsDrawn := s.idsDrawn + 1, ticks := s.ticks + 1 }
  have inserted : insertArtifact rec' s₁ =
      (.ok (), { s₁ with artifacts := s.artifacts.set rec'.artifactId rec' }) := if_neg new
  refine ⟨rec', { s₁ with artifacts := s.artifacts.set rec'.artifactId rec' }, ?_, ?_, rfl⟩
  · unfold indexArtifact
    rw [Computation.bind_of_ok (newId_eq service "artifact" s),
      Computation.bind_of_ok (nowIso_eq service _)]
    dsimp only
    rw [made]
    exact Computation.bind_of_ok inserted _
  · have drawn := h.drawn
    refine ⟨drawn.stands, ?_, drawn.clear, drawn.other⟩
    refine drawn.ids.of_same rfl rfl drawn.ids.tasks (fun i low high mem => ?_) fun _ _ _ _ => rfl
    rcases (PyDict.mem_keys_set _ _ _ _).mp mem with own | old
    · exact h.ids.ne "artifact" low high (own.trans id)
    · exact drawn.ids.artifacts i low high old

/-- A file of a task that was created is persisted. -/
theorem persist_completes (plain : Plain taskId) (filed : Files taskId call) (n : ℕ) :
    Completes (fun s => Working service taskId (m + 1) s ∧ s.idsDrawn = n)
      (persistArtifactBytes service call)
      (fun _ s => Working service taskId m s ∧ s.idsDrawn = n + 1) := by
  constructor
  rintro s ⟨h, rfl⟩
  obtain ⟨path, s₁, located, working, drawn, writable⟩ := artifactPath_spec h plain filed
  have wrote : ∃ written, writeFile call path s₁ = (.ok (), { s₁ with
      files := s₁.files.put (place service s₁ ++ [taskId] ++ [call.subdir] ++ [call.name])
        (.file call.content)
      written := written }) := by
    unfold writeFile
    rw [writable]
    exact ⟨_, rfl⟩
  obtain ⟨written, wrote⟩ := wrote
  obtain ⟨rec', s', indexed, working', drawn'⟩ :=
    indexArtifact_spec (working.put call.subdir call.name call.content written) call path
  refine ⟨rec', s', ?_, working', by rw [drawn', ← drawn]⟩
  unfold persistArtifactBytes
  rw [Computation.bind_of_ok located, Computation.bind_of_ok wrote]
  exact indexed

end Artifacts

end SthBoring.ArtifactManager.FreshTasks
