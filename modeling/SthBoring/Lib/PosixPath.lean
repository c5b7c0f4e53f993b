/- Module: SthBoring/Lib/PosixPath
   source: posixpath and pathlib of the standard library
   digest: Joining paths, and the place a path names once its dots are worked out. -/

import Mathlib.Data.List.Induction
import Mathlib.Data.List.Infix
import SthBoring.Lib.PyValue
import SthBoring.Lib.Segments

set_option autoImplicit false
set_option relaxedAutoImplicit false

namespace SthBoring.Lib.PosixPath

open SthBoring.Lib.PyValue (joinWith)
open SthBoring.Lib.Segments (plain_of_mem_splitOn)

def isAbs (path : String) : Bool := path.toList.head? == some '/'

/-- What stands between the slashes of a path, empty and dot components included. -/
def rawParts (path : String) : List String := (path.toList.splitOn '/').map String.ofList

/-- A component that names something: an entry of a directory, or its parent. -/
def isPart (part : String) : Bool := part != "" && part != "."

def parts (path : String) : List String := (rawParts path).filter isPart

/-- `os.path.join(a, b)`. -/
def join (a b : String) : String :=
  if isAbs b then b
  else if a = "" || a.toList.getLast? == some '/' then a ++ b
  else a ++ "/" ++ b

/-- The root that pathlib reads off a path: two leading slashes are kept, three are one. -/
def rootOf (path : String) : String :=
  match path.toList with
  | '/' :: '/' :: '/' :: _ => "/"
  | '/' :: '/' :: _ => "//"
  | '/' :: _ => "/"
  | _ => ""

/-- `str(Path(path))`. -/
def pathStr (path : String) : String :=
  let shown := rootOf path ++ joinWith "/" (parts path)
  if shown = "" then "." else shown

/-- `str(Path(base) / name)`. -/
def pathJoin (base name : String) : String := pathStr (join base name)

/-- One component further from a directory; the parent of the root is the root. -/
def enter (dir : List String) (part : String) : List String :=
  if part = ".." then dir.dropLast else dir ++ [part]

def descend (dir : List String) (ps : List String) : List String := ps.foldl enter dir

/-- The place a path names, seen from a working directory, links aside. -/
def canonical (cwd : List String) (path : String) : List String :=
  descend (if isAbs path then [] else cwd) (parts path)

theorem descend_append (dir ps qs : List String) :
    descend dir (ps ++ qs) = descend (descend dir ps) qs := by
  rw [descend, List.foldl_append]
  rfl

/-- A way down without a dotdot only adds to the directory. -/
theorem descend_of_not_mem {ps : List String} (h : ".." ∉ ps) (dir : List String) :
    descend dir ps = dir ++ ps := by
  induction ps using List.reverseRecOn with
  | nil => exact (List.append_nil dir).symm
  | append_singleton ps part ih =>
    rw [List.mem_append, not_or, List.mem_singleton] at h
    rw [descend_append, ih h.1]
    change enter (dir ++ ps) part = _
    rw [enter, if_neg (Ne.symm h.2), List.append_assoc]

section Parts

theorem dotdot_mem_parts {path : String} : ".." ∈ parts path ↔ ".." ∈ rawParts path := by
  rw [parts, List.mem_filter]
  exact and_iff_left rfl

theorem parts_append_slash (a b : String) : parts (a ++ "/" ++ b) = parts a ++ parts b := by
  have split : rawParts (a ++ "/" ++ b) = rawParts a ++ rawParts b := by
    have chars : (a ++ "/" ++ b).toList = a.toList ++ '/' :: b.toList := by
      simp [String.toList_append]
    rw [rawParts, chars, List.splitOn_append_cons_self, List.map_append]
    rfl
  rw [parts, split, List.filter_append]
  rfl

@[simp] theorem parts_empty : parts "" = [] := by decide

theorem parts_slash (b : String) : parts ("/" ++ b) = parts b := by
  have h := parts_append_slash "" b
  rwa [parts_empty, List.nil_append, String.empty_append] at h

/-- A component without a slash is its own only part. -/
theorem parts_of_part {part : String} (named : isPart part = true) (flat : '/' ∉ part.toList) :
    parts part = [part] := by
  rw [parts, rawParts, List.splitOn_eq_singleton flat, List.map_singleton, String.ofList_toList,
    List.filter_singleton, named]
  rfl

theorem mem_parts {path part : String} (h : part ∈ parts path) :
    isPart part = true ∧ '/' ∉ part.toList := by
  obtain ⟨raw, named⟩ := List.mem_filter.mp h
  obtain ⟨piece, hp, rfl⟩ := List.mem_map.mp raw
  refine ⟨named, ?_⟩
  rw [String.toList_ofList]
  exact (plain_of_mem_splitOn hp).1

/-- Parts put together with slashes are found again. -/
theorem parts_joinWith (ps : List String)
    (h : ∀ part ∈ ps, isPart part = true ∧ '/' ∉ part.toList) :
    parts (joinWith "/" ps) = ps := by
  induction ps with
  | nil => exact parts_empty
  | cons part ps ih =>
    obtain ⟨named, flat⟩ := h part List.mem_cons_self
    have rest := ih (fun p hp => h p (List.mem_cons_of_mem part hp))
    cases ps with
    | nil => exact parts_of_part named flat
    | cons next ps =>
      rw [joinWith, parts_append_slash, parts_of_part named flat, rest]
      rfl

end Parts

section Pathlib

/-- What pathlib keeps of a path: where it starts, and its parts. -/
theorem rootOf_cases (path : String) :
    (rootOf path = "" ∧ isAbs path = false) ∨
      ((rootOf path = "/" ∨ rootOf path = "//") ∧ isAbs path = true) := by
  unfold rootOf isAbs
  split
  · rename_i h
    exact .inr ⟨.inl rfl, by rw [h]; rfl⟩
  · rename_i h
    exact .inr ⟨.inr rfl, by rw [h]; rfl⟩
  · rename_i h
    exact .inr ⟨.inl rfl, by rw [h]; rfl⟩
  · rename_i other
    refine .inl ⟨rfl, ?_⟩
    cases h : path.toList with
    | nil => rfl
    | cons c cs =>
      have ne : c ≠ '/' := by
        rintro rfl
        exact other cs h
      simpa using ne

private theorem isAbs_append {a b : String} (h : isAbs a = true) : isAbs (a ++ b) = true := by
  unfold isAbs at h ⊢
  rw [String.toList_append]
  cases ha : a.toList with
  | nil => rw [ha] at h; cases h
  | cons c cs => rw [ha] at h; exact h

theorem isAbs_of_flat {name : String} (flat : '/' ∉ name.toList) : isAbs name = false := by
  unfold isAbs
  cases chars : name.toList with
  | nil => rfl
  | cons c cs =>
    rw [chars] at flat
    have other : c ≠ '/' := by
      rintro rfl
      exact flat List.mem_cons_self
    simpa using other

private theorem isAbs_joinWith (ps : List String)
    (h : ∀ part ∈ ps, isPart part = true ∧ '/' ∉ part.toList) :
    isAbs (joinWith "/" ps) = false := by
  cases ps with
  | nil => rfl
  | cons part ps =>
    obtain ⟨named, flat⟩ := h part List.mem_cons_self
    have relative := isAbs_of_flat flat
    have nonempty : part.toList ≠ [] := by
      intro empty
      have none : part = "" := String.toList_eq_nil_iff.mp empty
      rw [none] at named
      cases named
    obtain ⟨c, cs, hc⟩ := List.exists_cons_of_ne_nil nonempty
    unfold isAbs at relative ⊢
    cases ps with
    | nil => exact relative
    | cons next ps =>
      rw [joinWith, String.toList_append, String.toList_append, hc]
      rw [hc] at relative
      exact relative

theorem isAbs_pathStr (path : String) : isAbs (pathStr path) = isAbs path := by
  have joined := isAbs_joinWith (parts path) (fun part hp => mem_parts hp)
  unfold pathStr
  dsimp only
  rcases rootOf_cases path with ⟨root, rel⟩ | ⟨root | root, abs⟩
  · rw [root, String.empty_append, rel]
    by_cases empty : joinWith "/" (parts path) = ""
    · rw [if_pos empty]
      rfl
    · rw [if_neg empty]
      exact joined
  · rw [root, abs, if_neg (by simp), isAbs_append rfl]
  · rw [root, abs, if_neg (by simp), isAbs_append rfl]

/-- The parts behind a root are found again. -/
theorem parts_root_append (path : String) {ps : List String}
    (h : ∀ part ∈ ps, isPart part = true ∧ '/' ∉ part.toList) :
    parts (rootOf path ++ joinWith "/" ps) = ps := by
  have joined := parts_joinWith ps h
  rcases rootOf_cases path with ⟨root, -⟩ | ⟨root | root, -⟩
  · rw [root, String.empty_append, joined]
  · rw [root, parts_slash, joined]
  · have two : "//" ++ joinWith "/" ps = "/" ++ ("/" ++ joinWith "/" ps) := by
      rw [← String.append_assoc]
      rfl
    rw [root, two, parts_slash, parts_slash, joined]

/-- A shown path without text is shown as a dot, which has no parts either. -/
theorem parts_dot_of_empty {shown : String} : parts (if shown = "" then "." else shown) = parts shown := by
  split
  · rename_i empty
    rw [empty]
    decide
  · rfl

theorem parts_pathStr (path : String) : parts (pathStr path) = parts path :=
  parts_dot_of_empty.trans (parts_root_append path (fun _ hp => mem_parts hp))

@[simp] theorem canonical_pathStr (cwd : List String) (path : String) :
    canonical cwd (pathStr path) = canonical cwd path := by
  rw [canonical, canonical, isAbs_pathStr, parts_pathStr]

end Pathlib

section Join

private theorem parts_append_of_slash {a : String} (h : a.toList.getLast? = some '/') (b : String) :
    parts (a ++ b) = parts a ++ parts b := by
  obtain ⟨front, split⟩ := List.getLast?_eq_some_iff.mp h
  have shape : a = String.ofList front ++ "/" := by
    rw [← String.toList_inj, split, String.toList_append, String.toList_ofList]
    rfl
  have own : parts a = parts (String.ofList front) := by
    have h := parts_append_slash (String.ofList front) ""
    rwa [String.append_empty, ← shape, parts_empty, List.append_nil] at h
  rw [own, shape, parts_append_slash]

theorem parts_join {a b : String} (relative : isAbs b = false) :
    parts (join a b) = parts a ++ parts b := by
  rw [join, relative, if_neg Bool.false_ne_true]
  by_cases bare : a = "" ∨ (a.toList.getLast? == some '/') = true
  · rw [if_pos (by simpa using bare)]
    rcases bare with rfl | slash
    · rw [String.empty_append, parts_empty, List.nil_append]
    · exact parts_append_of_slash (eq_of_beq slash) b
  · rw [if_neg (by simpa using bare), parts_append_slash]

theorem isAbs_join {a b : String} (relative : isAbs b = false) : isAbs (join a b) = isAbs a := by
  rw [join, relative, if_neg Bool.false_ne_true]
  have keep : ∀ {t : String}, a ≠ "" → isAbs (a ++ t) = isAbs a := by
    intro t nonempty
    have chars : a.toList ≠ [] := fun h => nonempty (String.toList_eq_nil_iff.mp h)
    obtain ⟨c, cs, hc⟩ := List.exists_cons_of_ne_nil chars
    rw [isAbs, isAbs, String.toList_append, hc]
    rfl
  by_cases empty : a = ""
  · rw [empty, if_pos (by simp), String.empty_append, relative]
    rfl
  · by_cases slash : (a.toList.getLast? == some '/') = true
    · rw [if_pos (by simp [slash]), keep empty]
    · rw [if_neg (by simp [slash, empty]), String.append_assoc, keep empty]

/-- A joined path names a place below the first, unless the second starts at the root. -/
theorem canonical_join (cwd : List String) (a b : String) :
    canonical cwd (join a b) =
      if isAbs b then descend [] (parts b) else descend (canonical cwd a) (parts b) := by
  by_cases absolute : isAbs b = true
  · rw [join, if_pos absolute, if_pos absolute, canonical, if_pos absolute]
  · have relative : isAbs b = false := by simpa using absolute
    rw [if_neg absolute, canonical, isAbs_join relative, parts_join relative, descend_append]
    rfl

end Join

section Climbing

/-- How often a relative path climbs above where it starts, and the way down from there. -/
def climb (ps : List String) : ℕ × List String :=
  ps.foldl (fun way part =>
    if part = ".." then
      if way.2 = [] then (way.1 + 1, []) else (way.1, way.2.dropLast)
    else (way.1, way.2 ++ [part])) (0, [])

theorem climb_append_singleton (ps : List String) (part : String) :
    climb (ps ++ [part]) =
      if part = ".." then
        if (climb ps).2 = [] then ((climb ps).1 + 1, []) else ((climb ps).1, (climb ps).2.dropLast)
      else ((climb ps).1, (climb ps).2 ++ [part]) := by
  rw [climb, List.foldl_append]
  rfl

/-- A relative path first climbs, then goes down. -/
theorem descend_eq_climb (dir ps : List String) :
    descend dir ps = dir.take (dir.length - (climb ps).1) ++ (climb ps).2 := by
  induction ps using List.reverseRecOn with
  | nil => simp [descend, climb]
  | append_singleton ps part ih =>
    rw [descend_append, ih, climb_append_singleton]
    change enter _ part = _
    by_cases up : part = ".."
    · rw [enter, if_pos up, if_pos up]
      by_cases bottom : (climb ps).2 = []
      · rw [if_pos bottom, bottom, List.append_nil, List.append_nil, List.dropLast_eq_take,
          List.take_take, List.length_take]
        congr 1
        omega
      · rw [if_neg bottom, List.dropLast_append_of_ne_nil bottom]
    · rw [enter, if_neg up, if_neg up, List.append_assoc]

/-- Below a directory that lies under `top`, a relative path stays under `top` exactly when it
does not climb out of it, or climbs out and takes the way back in. -/
theorem isPrefix_descend_iff {top dir : List String} (under : top <+: dir) (ps : List String) :
    top <+: descend dir ps ↔ top.drop (dir.length - (climb ps).1) <+: (climb ps).2 := by
  obtain ⟨rest, rfl⟩ := under
  rw [descend_eq_climb]
  by_cases inside : top.length ≤ (top ++ rest).length - (climb ps).1
  · rw [List.drop_eq_nil_of_le inside, List.take_append, List.take_of_length_le inside]
    constructor
    · intro _
      exact List.nil_prefix
    · intro _
      rw [List.append_assoc]
      exact List.prefix_append _ _
  · have cut : (top ++ rest).length - (climb ps).1 ≤ top.length := by omega
    rw [List.take_append_of_le_length cut]
    generalize (top ++ rest).length - (climb ps).1 = k at cut
    conv_lhs => rw [← List.take_append_drop k top]
    rw [List.take_append_of_le_length (by rw [List.length_take]; omega), List.take_take, min_self,
      List.prefix_append_right_inj]

end Climbing

end SthBoring.Lib.PosixPath
