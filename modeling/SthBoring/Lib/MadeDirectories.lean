/- Module: SthBoring/Lib/MadeDirectories
   source: os.makedirs and open
   digest: When directories can be made and files opened in them. -/

import SthBoring.Lib.FileTree

set_option autoImplicit false
set_option relaxedAutoImplicit false

namespace SthBoring.Lib.MadeDirectories

open SthBoring.Lib.PyValue (PyExc joinWith)
open SthBoring.Lib.PosixPath
open SthBoring.Lib.FileTree
open SthBoring.Lib.FileTree.FileSystem

/-- A name for an entry of a directory. -/
structure Plain (name : String) : Prop where
  part : isPart name = true
  down : name ≠ ".."
  flat : '/' ∉ name.toList
  noNull : hasNull name = false

instance (name : String) : Decidable (Plain name) :=
  decidable_of_iff
    (isPart name = true ∧ name ≠ ".." ∧ '/' ∉ name.toList ∧ hasNull name = false)
    ⟨fun h => ⟨h.1, h.2.1, h.2.2.1, h.2.2.2⟩, fun h => ⟨h.part, h.down, h.flat, h.noNull⟩⟩

section Text

theorem hasNull_append (a b : String) : hasNull (a ++ b) = (hasNull a || hasNull b) := by
  simp [hasNull, String.toList_append]

theorem hasNull_joinWith {ps : List String} (h : ∀ part ∈ ps, hasNull part = false) :
    hasNull (joinWith "/" ps) = false := by
  induction ps with
  | nil => rfl
  | cons part ps ih =>
    have first := h part List.mem_cons_self
    have rest := ih fun p hp => h p (List.mem_cons_of_mem part hp)
    cases ps with
    | nil => exact first
    | cons next ps =>
      rw [joinWith, hasNull_append, hasNull_append, first, rest]
      rfl

theorem hasNull_pathStr {path : String} (h : ∀ part ∈ parts path, hasNull part = false) :
    hasNull (pathStr path) = false := by
  have joined := hasNull_joinWith h
  unfold pathStr
  dsimp only
  split
  · rfl
  · rw [hasNull_append, joined]
    rcases rootOf_cases path with ⟨root, -⟩ | ⟨root | root, -⟩ <;> rw [root] <;> rfl

theorem Plain.relative {name : String} (h : Plain name) : isAbs name = false :=
  isAbs_of_flat h.flat

theorem Plain.parts {name : String} (h : Plain name) : parts name = [name] :=
  parts_of_part h.part h.flat

/-- The last component of a joined path is the name, and the others are those of the base. -/
theorem rawParts_join (base : String) {name : String} (h : Plain name) :
    ∃ front, rawParts (join base name) = front ++ [name] ∧ front.filter isPart = parts base := by
  have slashed : ∀ a : String, rawParts (a ++ "/" ++ name) = rawParts a ++ [name] := by
    intro a
    have chars : (a ++ "/" ++ name).toList = a.toList ++ '/' :: name.toList := by
      simp [String.toList_append]
    rw [rawParts, chars, List.splitOn_append_cons_self, List.map_append,
      List.splitOn_eq_singleton h.flat, List.map_singleton, String.ofList_toList]
    rfl
  rw [join, h.relative, if_neg Bool.false_ne_true]
  by_cases empty : base = ""
  · rw [if_pos (by simp [empty]), empty, String.empty_append, rawParts,
      List.splitOn_eq_singleton h.flat, List.map_singleton, String.ofList_toList]
    exact ⟨[], rfl, rfl⟩
  by_cases slash : (base.toList.getLast? == some '/') = true
  · rw [if_pos (by simp [slash])]
    obtain ⟨front, split⟩ := List.getLast?_eq_some_iff.mp (eq_of_beq slash)
    have shape : base = String.ofList front ++ "/" := by
      rw [← String.toList_inj, split, String.toList_append, String.toList_ofList]
      rfl
    refine ⟨rawParts (String.ofList front), by rw [shape, slashed], ?_⟩
    have own := parts_append_slash (String.ofList front) ""
    rw [String.append_empty, ← shape, parts_empty, List.append_nil] at own
    exact own.symm
  · rw [if_neg (by simp [slash, empty]), slashed]
    exact ⟨rawParts base, rfl, rfl⟩

theorem hasNull_join {base name : String} (hb : hasNull base = false) (h : Plain name) :
    hasNull (join base name) = false := by
  rw [join, h.relative, if_neg Bool.false_ne_true]
  split
  · rw [hasNull_append, hb, h.noNull]
    rfl
  · rw [hasNull_append, hasNull_append, hb, h.noNull]
    rfl

theorem pathStr_ne_empty (path : String) : pathStr path ≠ "" := by
  unfold pathStr
  dsimp only
  split
  · decide
  · assumption

end Text

section Lookup

variable {fs fs' : FileSystem} {path : String}

/-- Only the components that name something count. -/
theorem follow_filter (dir ps : List String) :
    fs.follow path dir ps = fs.follow path dir (ps.filter isPart) := by
  induction ps generalizing dir with
  | nil => rfl
  | cons part ps ih =>
    by_cases skipped : isPart part = false
    · rw [List.filter_cons_of_neg (by simp [skipped]), follow, if_pos skipped]
      exact ih dir
    · rw [List.filter_cons_of_pos (by simpa using skipped), follow, follow, if_neg skipped,
        if_neg skipped]
      split
      · exact ih _
      · split
        · exact ih _
        · rfl
        · rfl

/-- Behind a lookup that succeeds, whatever path it was for, the next one goes on. -/
theorem follow_append {dir ps found : List String} (h : fs.follow path dir ps = .ok found)
    (other : String) (qs : List String) :
    fs.follow other dir (ps ++ qs) = fs.follow other found qs := by
  induction ps generalizing dir with
  | nil =>
    cases h
    rfl
  | cons part ps ih =>
    obtain ⟨next, leads, rest⟩ := leads_of_follow_cons h
    rw [List.cons_append, leads.follow_cons]
    exact ih rest

end Lookup

section Making

variable {fs fs' : FileSystem} {path : String}

/-- One component of a way that is made: the directory it leads to is there afterwards. -/
theorem makeDirectories_cons {dir ps : List String} {part : String}
    (h : makeDirectories path dir (part :: ps) fs = (.ok (), fs')) :
    hasNull part = false ∧ ∃ next mid,
      (∀ other qs, makeDirectories other dir (part :: qs) fs = makeDirectories other next qs mid) ∧
      Leads mid dir part next ∧ Extends fs mid ∧
      makeDirectories path next ps mid = (.ok (), fs') := by
  unfold makeDirectories at h
  by_cases null : hasNull part = true
  · rw [if_pos null] at h
    cases h
  rw [if_neg null] at h
  refine ⟨by simpa using null, ?_⟩
  by_cases skipped : isPart part = false
  · rw [if_pos skipped] at h
    refine ⟨dir, fs, fun other qs => ?_, .here skipped, .refl fs, h⟩
    rw [makeDirectories, if_neg null, if_pos skipped]
  rw [if_neg skipped] at h
  have named : isPart part = true := Bool.eq_true_of_not_eq_false skipped
  by_cases up : part = ".."
  · rw [if_pos up] at h
    refine ⟨dir.dropLast, fs, fun other qs => ?_, .up named up, .refl fs, h⟩
    rw [makeDirectories, if_neg null, if_neg skipped, if_pos up]
  rw [if_neg up] at h
  refine ⟨dir ++ [part], ?_⟩
  cases he : fs.entries (dir ++ [part]) with
  | none =>
    rw [he] at h
    have there : (fs.put (dir ++ [part]) .directory).entries (dir ++ [part]) = some .directory :=
      put_entries_self fs _ _
    refine ⟨_, fun other qs => ?_, .down named up there, extends_put he .directory, h⟩
    rw [makeDirectories, if_neg null, if_neg skipped, if_neg up, he]
  | some entry =>
    rw [he] at h
    cases entry with
    | directory =>
      refine ⟨fs, fun other qs => ?_, .down named up he, .refl fs, h⟩
      rw [makeDirectories, if_neg null, if_neg skipped, if_neg up, he]
    | file content => cases h

/-- What was made can be looked up, and a longer way goes on from there. -/
theorem makeDirectories_append {dir ps : List String}
    (h : makeDirectories path dir ps fs = (.ok (), fs')) :
    ∃ found, fs'.follow path dir ps = .ok found ∧
      ∀ other qs, makeDirectories other dir (ps ++ qs) fs = makeDirectories other found qs fs' := by
  induction ps generalizing dir fs with
  | nil =>
    cases h
    exact ⟨dir, rfl, fun _ _ => rfl⟩
  | cons part ps ih =>
    obtain ⟨-, next, mid, made, leads, -, rest⟩ := makeDirectories_cons h
    obtain ⟨found, followed, onward⟩ := ih rest
    have grown : Extends mid (makeDirectories path next ps mid).2 := extends_makeDirectories _ _ _
    rw [rest] at grown
    refine ⟨found, ?_, fun other qs => ?_⟩
    · rw [(leads.of_keeps grown.keepsDirectories).follow_cons]
      exact followed
    · rw [List.cons_append, made]
      exact onward other qs

theorem hasNull_of_made {dir ps : List String}
    (h : makeDirectories path dir ps fs = (.ok (), fs')) : ∀ part ∈ ps, hasNull part = false := by
  induction ps generalizing dir fs with
  | nil => exact fun _ mem => nomatch mem
  | cons part ps ih =>
    obtain ⟨plain, next, mid, -, -, -, rest⟩ := makeDirectories_cons h
    intro other mem
    rcases List.mem_cons.mp mem with rfl | later
    · exact plain
    · exact ih rest other later

theorem hasNull_of_skipped {part : String} (h : isPart part = false) : hasNull part = false := by
  have cases' : part = "" ∨ part = "." := by
    by_contra other
    push Not at other
    simp [isPart, other.1, other.2] at h
  rcases cases' with rfl | rfl <;> decide

/-- What is made of a path is made of the components that name something. -/
theorem makeDirectories_filter {dir ps : List String} :
    makeDirectories path dir ps fs = (.ok (), fs') ↔
      makeDirectories path dir (ps.filter isPart) fs = (.ok (), fs') := by
  induction ps generalizing dir fs with
  | nil => exact Iff.rfl
  | cons part ps ih =>
    by_cases skipped : isPart part = false
    · rw [List.filter_cons_of_neg (by simp [skipped]), makeDirectories,
        if_neg (by simp [hasNull_of_skipped skipped]), if_pos skipped]
      exact ih
    rw [List.filter_cons_of_pos (by simpa using skipped)]
    unfold makeDirectories
    by_cases null : hasNull part = true
    · rw [if_pos null, if_pos null]
    rw [if_neg null, if_neg null, if_neg skipped, if_neg skipped]
    by_cases up : part = ".."
    · rw [if_pos up, if_pos up]
      exact ih
    rw [if_neg up, if_neg up]
    cases he : fs.entries (dir ++ [part]) with
    | none => exact ih
    | some entry =>
      cases entry with
      | directory => exact ih
      | file content => exact iff_of_false nofun nofun

/-- Where a directory is there, it is not made. -/
theorem makeDirectories_of_leads {dir next : List String} {part : String}
    (leads : Leads fs dir part next) (plain : hasNull part = false) (ps : List String) :
    makeDirectories path dir (part :: ps) fs = makeDirectories path next ps fs := by
  rw [makeDirectories, if_neg (by simp [plain])]
  cases leads with
  | here skipped => rw [if_pos skipped]
  | up named dots => rw [if_neg (by simp [named]), if_pos dots]
  | down named ne there => rw [if_neg (by simp [named]), if_neg ne, there]

theorem makeDirectories_of_follow {dir ps found : List String}
    (h : fs.follow path dir ps = .ok found) (plain : ∀ part ∈ ps, hasNull part = false) :
    makeDirectories path dir ps fs = (.ok (), fs) := by
  induction ps generalizing dir with
  | nil => rfl
  | cons part ps ih =>
    obtain ⟨next, leads, rest⟩ := leads_of_follow_cons h
    rw [makeDirectories_of_leads leads (plain part List.mem_cons_self)]
    exact ih rest fun p hp => plain p (List.mem_cons_of_mem part hp)

theorem makeDirectories_singleton {dir : List String} {name : String} (plain : Plain name)
    (free : ∀ content, fs.entries (dir ++ [name]) ≠ some (.file content)) (path : String) :
    makeDirectories path dir [name] fs = (.ok (), fs.put (dir ++ [name]) .directory) := by
  have noNull : hasNull name ≠ true := by simp [plain.noNull]
  have named : isPart name ≠ false := by simp [plain.part]
  rw [makeDirectories, if_neg noNull, if_neg named, if_neg plain.down]
  cases he : fs.entries (dir ++ [name]) with
  | none => rfl
  | some entry =>
    cases entry with
    | directory =>
      have same : fs.put (dir ++ [name]) .directory = fs := by
        unfold put
        congr 1
        funext p
        split
        · next here => rw [here, he]
        · rfl
      rw [same]
      rfl
    | file content => exact absurd he (free content)

end Making

section Made

variable {fs fs' : FileSystem} {path name : String}

/-- The directories of a path are made, whatever is said where that fails. -/
def Made (path : String) (fs fs' : FileSystem) : Prop :=
  makeDirectories "" (fs.startOf path) (parts path) fs = (.ok (), fs')

/-- The directories of a path are there already. -/
abbrev Stands (path : String) (fs : FileSystem) : Prop := Made path fs fs

theorem made_pathStr : Made (pathStr path) fs fs' ↔ Made path fs fs' := by
  unfold Made startOf
  rw [isAbs_pathStr, parts_pathStr]

theorem makedirs_of_made (h : Made path fs fs') :
    FileSystem.makedirs (pathStr path) fs = (.ok (), fs') := by
  obtain ⟨found, -, onward⟩ := makeDirectories_append (made_pathStr.mpr h)
  unfold FileSystem.makedirs
  rw [if_neg (pathStr_ne_empty path), makeDirectories_filter]
  have made := onward (pathStr path) []
  rw [List.append_nil] at made
  exact made

theorem Made.extends (h : Made path fs fs') : Extends fs fs' := by
  have grown : Extends fs (makeDirectories "" (fs.startOf path) (parts path) fs).2 :=
    extends_makeDirectories _ _ _
  rwa [h] at grown

theorem parts_filter (path : String) : (parts path).filter isPart = parts path := by
  rw [parts, List.filter_filter]
  simp

theorem Made.found (h : Made path fs fs') (shown : String) :
    fs'.follow shown (fs'.startOf path) (parts path) = .ok (canonical fs.cwd path) := by
  obtain ⟨found, followed, -⟩ := makeDirectories_append h
  have place := follow_eq_descend followed
  rw [parts_filter] at place
  have start : fs'.startOf path = fs.startOf path := by rw [startOf, startOf, h.extends.cwd]
  have again := follow_append followed shown []
  rw [List.append_nil] at again
  rw [start, again, place]
  rfl

theorem Made.noNull (h : Made path fs fs') : hasNull (pathStr path) = false :=
  hasNull_pathStr (hasNull_of_made h)

theorem Stands.of_keeps (h : Stands path fs) (keeps : KeepsDirectories fs fs') :
    Stands path fs' := by
  have start : fs'.startOf path = fs.startOf path := by rw [startOf, startOf, keeps.cwd]
  have followed := follow_of_keeps keeps (h.found "")
  rw [← start] at followed
  exact makeDirectories_of_follow followed (hasNull_of_made h)

theorem Made.stands (h : Made path fs fs') : Stands path fs' :=
  makeDirectories_of_follow (h.found "") (hasNull_of_made h)

theorem canonical_child (cwd : List String) (path : String) (plain : Plain name) :
    canonical cwd (pathJoin path name) = canonical cwd path ++ [name] := by
  have down : ".." ∉ [name] := by simpa using plain.down.symm
  rw [pathJoin, canonical_pathStr, canonical_join, plain.relative, if_neg Bool.false_ne_true,
    plain.parts, descend_of_not_mem down]

/-- One more directory is made where no file is in the way. -/
theorem Made.child (h : Made path fs fs') (plain : Plain name)
    (free : ∀ content, fs'.entries (canonical fs.cwd path ++ [name]) ≠ some (.file content)) :
    Made (pathJoin path name) fs (fs'.put (canonical fs.cwd path ++ [name]) .directory) := by
  obtain ⟨found, followed, onward⟩ := makeDirectories_append h
  have place := follow_eq_descend followed
  rw [parts_filter] at place
  have here : found = canonical fs.cwd path := place
  refine made_pathStr.mpr ?_
  unfold Made startOf
  rw [isAbs_join plain.relative, parts_join plain.relative, plain.parts, ← startOf, onward, here]
  exact makeDirectories_singleton plain free ""

/-- A file is looked for in the directory of its path. -/
theorem Made.locate (h : Made path fs fs') (plain : Plain name) :
    fs'.locate (join (pathStr path) name) = .ok (canonical fs.cwd path ++ [name]) := by
  obtain ⟨front, split, named⟩ := rawParts_join (pathStr path) plain
  have last : (rawParts (join (pathStr path) name)).getLastD "" = name := by simp [split]
  have nonempty : join (pathStr path) name ≠ "" := by
    intro empty
    have single : rawParts "" = [""] := by decide
    rw [empty, single] at split
    have same : name = "" := by
      rcases front with _ | ⟨first, front⟩
      · simpa using split.symm
      · simp at split
    exact absurd plain.part (by rw [same]; decide)
  refine locate_eq_ok_iff.mpr ⟨⟨hasNull_join h.noNull plain, nonempty⟩, ?_, canonical fs.cwd path, ?_, ?_⟩
  · rw [last]
    exact ⟨plain.part, plain.down⟩
  · rw [split, List.dropLast_concat, follow_filter, named, parts_pathStr, startOf,
      isAbs_join plain.relative, isAbs_pathStr, ← startOf]
    exact h.found _
  · rw [last]

end Made

end SthBoring.Lib.MadeDirectories
