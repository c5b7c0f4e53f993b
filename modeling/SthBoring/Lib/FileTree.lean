/- Module: SthBoring/Lib/FileTree
   source: os.makedirs, open and the path lookup of a POSIX file system
   digest: A tree of directories and files, without links and without other failures. -/

import SthBoring.Lib.PosixPath

set_option autoImplicit false
set_option relaxedAutoImplicit false

namespace SthBoring.Lib.FileTree

open SthBoring.Lib.PyValue (Value PyExc valueError)
open SthBoring.Lib.PosixPath

section Entries

-- Batteries has another instance, which depends on what is imported.
local instance bytesEq : DecidableEq ByteArray := ByteArray.instDecidableEq

inductive Entry where
  | directory
  | file (content : ByteArray)
  deriving DecidableEq

end Entries

/-- Entries under their place below the root, which is always there. -/
structure FileSystem where
  cwd : List String
  entries : List String → Option Entry

def osError (className : String) (errno : ℕ) (reason path : String) : PyExc :=
  ⟨className, ["OSError", "Exception"], s!"[Errno {errno}] {reason}: {(Value.str path).repr}"⟩

def fileNotFound : String → PyExc := osError "FileNotFoundError" 2 "No such file or directory"
def fileExists : String → PyExc := osError "FileExistsError" 17 "File exists"
def notADirectory : String → PyExc := osError "NotADirectoryError" 20 "Not a directory"
def isADirectory : String → PyExc := osError "IsADirectoryError" 21 "Is a directory"
def nullByte : PyExc := valueError "embedded null byte"

def hasNull (path : String) : Bool := path.toList.contains (Char.ofNat 0)

namespace FileSystem

def put (fs : FileSystem) (place : List String) (entry : Entry) : FileSystem :=
  { fs with entries := fun p => if p = place then some entry else fs.entries p }

@[simp] theorem put_entries_self (fs : FileSystem) (place : List String) (entry : Entry) :
    (fs.put place entry).entries place = some entry := if_pos rfl

theorem put_entries_of_ne (fs : FileSystem) {place p : List String} (entry : Entry)
    (h : p ≠ place) : (fs.put place entry).entries p = fs.entries p := if_neg h

/-- Look a directory up, component by component. -/
def follow (fs : FileSystem) (path : String) : List String → List String → Except PyExc (List String)
  | dir, [] => .ok dir
  | dir, part :: ps =>
    if isPart part = false then follow fs path dir ps
    else if part = ".." then follow fs path dir.dropLast ps
    else
      match fs.entries (dir ++ [part]) with
      | some .directory => follow fs path (dir ++ [part]) ps
      | some (.file _) => .error (notADirectory path)
      | none => .error (fileNotFound path)

def startOf (fs : FileSystem) (path : String) : List String := if isAbs path then [] else fs.cwd

/-- Where `open` looks for the file of this name. -/
def locate (fs : FileSystem) (path : String) : Except PyExc (List String) :=
  if hasNull path then .error nullByte
  else if path = "" then .error (fileNotFound path)
  else
    match fs.follow path (fs.startOf path) (rawParts path).dropLast with
    | .error exc => .error exc
    | .ok dir =>
      let last := (rawParts path).getLastD ""
      if isPart last = false ∨ last = ".." then .error (isADirectory path) else .ok (dir ++ [last])

/-- `open(path, "wb")` finds this place to write to. -/
def writable (fs : FileSystem) (path : String) : Except PyExc (List String) :=
  match fs.locate path with
  | .error exc => .error exc
  | .ok place =>
    if fs.entries place = some .directory then .error (isADirectory path) else .ok place

/-- The bytes a file of this name holds. -/
def read (fs : FileSystem) (path : String) : Option ByteArray :=
  match fs.locate path with
  | .error _ => none
  | .ok place =>
    match fs.entries place with
    | some (.file content) => some content
    | _ => none

/-- `os.makedirs(path, exist_ok=True)`, component by component. -/
def makeDirectories (path : String) : List String → List String → FileSystem →
    Except PyExc Unit × FileSystem
  | _, [], fs => (.ok (), fs)
  | dir, part :: ps, fs =>
    if hasNull part then (.error nullByte, fs)
    else if isPart part = false then makeDirectories path dir ps fs
    else if part = ".." then makeDirectories path dir.dropLast ps fs
    else
      match fs.entries (dir ++ [part]) with
      | some .directory => makeDirectories path (dir ++ [part]) ps fs
      | some (.file _) =>
        (.error (if ps = [] then fileExists path else notADirectory path), fs)
      | none => makeDirectories path (dir ++ [part]) ps (fs.put (dir ++ [part]) .directory)

def makedirs (path : String) (fs : FileSystem) : Except PyExc Unit × FileSystem :=
  if path = "" then (.error (fileNotFound path), fs)
  else makeDirectories path (fs.startOf path) (rawParts path) fs

/-- Directories stay directories. -/
structure KeepsDirectories (before after : FileSystem) : Prop where
  cwd : after.cwd = before.cwd
  directories : ∀ p, before.entries p = some .directory → after.entries p = some .directory

/-- What was there is still there, as it was. -/
structure Extends (before after : FileSystem) : Prop where
  cwd : after.cwd = before.cwd
  entries : ∀ p entry, before.entries p = some entry → after.entries p = some entry

theorem Extends.refl (fs : FileSystem) : Extends fs fs := ⟨rfl, fun _ _ h => h⟩

theorem Extends.trans {a b c : FileSystem} (hab : Extends a b) (hbc : Extends b c) : Extends a c :=
  ⟨hbc.cwd.trans hab.cwd, fun p entry h => hbc.entries p entry (hab.entries p entry h)⟩

theorem Extends.keepsDirectories {a b : FileSystem} (h : Extends a b) : KeepsDirectories a b :=
  ⟨h.cwd, fun p => h.entries p .directory⟩

variable {fs fs' : FileSystem} {path : String} {place : List String}

theorem extends_put (h : fs.entries place = none) (entry : Entry) : Extends fs (fs.put place entry) := by
  refine ⟨rfl, fun p old hp => ?_⟩
  have ne : p ≠ place := by
    rintro rfl
    rw [h] at hp
    cases hp
  rw [put_entries_of_ne fs entry ne]
  exact hp

theorem extends_makeDirectories (dir ps : List String) (fs : FileSystem) :
    Extends fs (makeDirectories path dir ps fs).2 := by
  induction ps generalizing dir fs with
  | nil => exact .refl fs
  | cons part ps ih =>
    unfold makeDirectories
    by_cases null : hasNull part = true
    · rw [if_pos null]
      exact .refl fs
    rw [if_neg null]
    by_cases skipped : isPart part = false
    · rw [if_pos skipped]
      exact ih dir fs
    rw [if_neg skipped]
    by_cases up : part = ".."
    · rw [if_pos up]
      exact ih dir.dropLast fs
    rw [if_neg up]
    cases he : fs.entries (dir ++ [part]) with
    | none => exact (extends_put he .directory).trans (ih (dir ++ [part]) _)
    | some entry =>
      cases entry with
      | directory => exact ih (dir ++ [part]) fs
      | file content => exact .refl fs

theorem extends_makedirs (path : String) (fs : FileSystem) : Extends fs (makedirs path fs).2 := by
  unfold makedirs
  by_cases empty : path = ""
  · rw [if_pos empty]
    exact .refl fs
  · rw [if_neg empty]
    exact extends_makeDirectories _ _ fs

section Lookup

/-- One component of a lookup leads from a directory to the next one. -/
inductive Leads (fs : FileSystem) (dir : List String) (part : String) : List String → Prop where
  | here (skipped : isPart part = false) : Leads fs dir part dir
  | up (named : isPart part = true) (dots : part = "..") : Leads fs dir part dir.dropLast
  | down (named : isPart part = true) (ne : part ≠ "..")
      (there : fs.entries (dir ++ [part]) = some .directory) : Leads fs dir part (dir ++ [part])

theorem leads_of_follow_cons {dir ps found : List String} {part : String}
    (h : fs.follow path dir (part :: ps) = .ok found) :
    ∃ next, Leads fs dir part next ∧ fs.follow path next ps = .ok found := by
  unfold follow at h
  by_cases skipped : isPart part = false
  · rw [if_pos skipped] at h
    exact ⟨dir, .here skipped, h⟩
  rw [if_neg skipped] at h
  have named : isPart part = true := Bool.eq_true_of_not_eq_false skipped
  by_cases up : part = ".."
  · rw [if_pos up] at h
    exact ⟨dir.dropLast, .up named up, h⟩
  rw [if_neg up] at h
  cases he : fs.entries (dir ++ [part]) with
  | none => rw [he] at h; cases h
  | some entry =>
    rw [he] at h
    cases entry with
    | directory => exact ⟨dir ++ [part], .down named up he, h⟩
    | file content => cases h

namespace Leads

variable {dir next : List String} {part : String}

/-- Whatever path the component belongs to. -/
theorem follow_cons (leads : Leads fs dir part next) (path : String) (ps : List String) :
    fs.follow path dir (part :: ps) = fs.follow path next ps := by
  rw [follow]
  cases leads with
  | here skipped => rw [if_pos skipped]
  | up named dots => rw [if_neg (by simp [named]), if_pos dots]
  | down named ne there => rw [if_neg (by simp [named]), if_neg ne, there]

theorem descend_eq (leads : Leads fs dir part next) (ps : List String) :
    descend dir ((part :: ps).filter isPart) = descend next (ps.filter isPart) := by
  cases leads with
  | here skipped => rw [List.filter_cons_of_neg (by simp [skipped])]
  | up named dots => rw [List.filter_cons_of_pos named, descend, List.foldl_cons, enter, if_pos dots,
      descend]
  | down named ne there => rw [List.filter_cons_of_pos named, descend, List.foldl_cons, enter,
      if_neg ne, descend]

theorem of_keeps (leads : Leads fs dir part next) (keeps : KeepsDirectories fs fs') :
    Leads fs' dir part next := by
  cases leads with
  | here skipped => exact .here skipped
  | up named dots => exact .up named dots
  | down named ne there => exact .down named ne (keeps.directories _ there)

end Leads

/-- A lookup that succeeds ends where the dots say. -/
theorem follow_eq_descend {dir ps found : List String} (h : fs.follow path dir ps = .ok found) :
    found = descend dir (ps.filter isPart) := by
  induction ps generalizing dir with
  | nil =>
    cases h
    rfl
  | cons part ps ih =>
    obtain ⟨next, leads, rest⟩ := leads_of_follow_cons h
    rw [leads.descend_eq]
    exact ih rest

theorem follow_of_keeps (keeps : KeepsDirectories fs fs') {dir ps found : List String}
    (h : fs.follow path dir ps = .ok found) : fs'.follow path dir ps = .ok found := by
  induction ps generalizing dir with
  | nil => exact h
  | cons part ps ih =>
    obtain ⟨next, leads, rest⟩ := leads_of_follow_cons h
    rw [(leads.of_keeps keeps).follow_cons]
    exact ih rest

/-- The parts of a name that can be opened: those of its directory, and its last one. -/
structure Located (fs : FileSystem) (path : String) (place : List String) : Prop where
  named : hasNull path = false ∧ path ≠ ""
  last : isPart ((rawParts path).getLastD "") = true ∧ (rawParts path).getLastD "" ≠ ".."
  found : ∃ dir, fs.follow path (fs.startOf path) (rawParts path).dropLast = .ok dir ∧
    place = dir ++ [(rawParts path).getLastD ""]

theorem locate_eq_ok_iff : fs.locate path = .ok place ↔ Located fs path place := by
  unfold locate
  by_cases null : hasNull path = true
  · rw [if_pos null]
    exact ⟨nofun, fun h => absurd null (by simp [h.named.1])⟩
  rw [if_neg null]
  by_cases empty : path = ""
  · rw [if_pos empty]
    exact ⟨nofun, fun h => absurd empty h.named.2⟩
  rw [if_neg empty]
  cases hf : fs.follow path (fs.startOf path) (rawParts path).dropLast with
  | error exc =>
    refine ⟨nofun, fun h => ?_⟩
    obtain ⟨dir, found, _⟩ := h.found
    cases hf.symm.trans found
  | ok dir =>
    dsimp only
    by_cases unnamed : isPart ((rawParts path).getLastD "") = false ∨ (rawParts path).getLastD "" = ".."
    · rw [if_pos unnamed]
      refine ⟨nofun, fun h => ?_⟩
      rcases unnamed with skipped | up
      · exact absurd (skipped.symm.trans h.last.1) Bool.false_ne_true
      · exact absurd up h.last.2
    · rw [if_neg unnamed]
      push Not at unnamed
      constructor
      · intro h
        cases h
        exact ⟨⟨by simpa using null, empty⟩, ⟨by simpa using unnamed.1, unnamed.2⟩, dir, hf, rfl⟩
      · intro h
        obtain ⟨dir', found, rfl⟩ := h.found
        cases hf.symm.trans found
        rfl

theorem locate_of_keeps (keeps : KeepsDirectories fs fs') (h : fs.locate path = .ok place) :
    fs'.locate path = .ok place := by
  have located := locate_eq_ok_iff.mp h
  obtain ⟨dir, found, same⟩ := located.found
  refine locate_eq_ok_iff.mpr ⟨located.named, located.last, dir, ?_, same⟩
  rw [startOf, keeps.cwd]
  exact follow_of_keeps keeps found

end Lookup

section Reading

theorem read_eq_some_iff {content : ByteArray} :
    fs.read path = some content ↔
      ∃ place, fs.locate path = .ok place ∧ fs.entries place = some (.file content) := by
  unfold read
  cases hl : fs.locate path with
  | error exc => simp
  | ok place =>
    cases he : fs.entries place with
    | none => simp [he]
    | some entry => cases entry <;> simp [he]

theorem read_of_extends (ext : Extends fs fs') {content : ByteArray}
    (h : fs.read path = some content) : fs'.read path = some content := by
  obtain ⟨place, located, held⟩ := read_eq_some_iff.mp h
  exact read_eq_some_iff.mpr
    ⟨place, locate_of_keeps ext.keepsDirectories located, ext.entries place _ held⟩

theorem writable_eq_ok_iff : fs.writable path = .ok place ↔
    fs.locate path = .ok place ∧ fs.entries place ≠ some .directory := by
  unfold writable
  cases fs.locate path with
  | error exc => exact ⟨nofun, fun h => nomatch h.1⟩
  | ok found =>
    dsimp only
    by_cases taken : fs.entries found = some .directory
    · rw [if_pos taken]
      refine ⟨nofun, ?_⟩
      rintro ⟨same, free⟩
      cases same
      exact absurd taken free
    · rw [if_neg taken]
      constructor
      · intro same
        cases same
        exact ⟨rfl, taken⟩
      · exact And.left

theorem keepsDirectories_put (entry : Entry) (h : fs.entries place ≠ some .directory) :
    KeepsDirectories fs (fs.put place entry) := by
  refine ⟨rfl, fun p hp => ?_⟩
  have ne : p ≠ place := by
    rintro rfl
    exact h hp
  rw [put_entries_of_ne fs entry ne]
  exact hp

/-- What a name reads as once some file was written. -/
theorem read_put {target : List String} (writes : fs.entries target ≠ some .directory)
    (content : ByteArray) (located : fs.locate path = .ok place) :
    (fs.put target (.file content)).read path =
      if place = target then some content else fs.read path := by
  have again := locate_of_keeps (keepsDirectories_put (.file content) writes) located
  unfold read
  rw [again, located]
  dsimp only
  by_cases same : place = target
  · rw [if_pos same, same, put_entries_self]
  · rw [if_neg same, put_entries_of_ne fs _ same]

end Reading

end FileSystem

end SthBoring.Lib.FileTree
