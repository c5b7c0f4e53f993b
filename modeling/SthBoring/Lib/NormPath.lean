/- Module: SthBoring/Lib/NormPath
   source: posixpath.normpath of the standard library
   digest: Paths without dots: the loop over the components, and what it leaves. -/

import SthBoring.Lib.PosixPath

set_option autoImplicit false
set_option relaxedAutoImplicit false

namespace SthBoring.Lib.NormPath

open SthBoring.Lib.PyValue (joinWith)
open SthBoring.Lib.PosixPath

/-- One turn of the loop in `normpath`. -/
def normStep (rooted : Bool) (comps : List String) (comp : String) : List String :=
  if comp = "" ∨ comp = "." then comps
  else if comp ≠ ".." ∨ (rooted = false ∧ comps = []) ∨ comps.getLast? = some ".." then
    comps ++ [comp]
  else comps.dropLast

def normComps (rooted : Bool) (comps : List String) : List String :=
  comps.foldl (normStep rooted) []

/-- `posixpath.normpath(path)`. -/
def normpath (path : String) : String :=
  if path = "" then "."
  else
    let shown := rootOf path ++ joinWith "/" (normComps (isAbs path) (rawParts path))
    if shown = "" then "." else shown

/-- `text.lstrip("/")`. -/
def lstripSlash (text : String) : String := String.ofList (text.toList.dropWhile (· == '/'))

example : [normpath "", normpath "a//b/../c/.", normpath "../a/../..", normpath "//x/..",
    normpath "///x/../../y"] = [".", "a/c", "../..", "//", "/y"] := by decide +kernel

section Loop

variable {rooted : Bool}

theorem normStep_of_not_part {comp : String} (bare : isPart comp = false) (comps : List String) :
    normStep rooted comps comp = comps := by
  have skipped : comp = "" ∨ comp = "." := by
    by_contra other
    rw [not_or] at other
    simp [isPart, other.1, other.2] at bare
  rw [normStep, if_pos skipped]

theorem normStep_of_part {comp : String} (named : isPart comp = true) (comps : List String) :
    normStep rooted comps comp =
      if comp ≠ ".." ∨ (rooted = false ∧ comps = []) ∨ comps.getLast? = some ".." then
        comps ++ [comp]
      else comps.dropLast := by
  have kept : ¬ (comp = "" ∨ comp = ".") := by
    rintro (rfl | rfl) <;> cases named
  rw [normStep, if_neg kept]

private theorem foldl_parts (raw comps : List String) :
    raw.foldl (normStep rooted) comps = (raw.filter isPart).foldl (normStep rooted) comps := by
  induction raw generalizing comps with
  | nil => rfl
  | cons comp raw ih =>
    cases named : isPart comp with
    | false => rw [List.filter_cons_of_neg (by simp [named]), List.foldl_cons,
        normStep_of_not_part named, ih]
    | true => rw [List.filter_cons_of_pos named, List.foldl_cons, List.foldl_cons, ih]

/-- The loop only sees the parts of the path. -/
theorem normComps_rawParts (path : String) :
    normComps rooted (rawParts path) = normComps rooted (parts path) :=
  foldl_parts (rawParts path) []

/-- Where a dotdot is left, the path is not rooted and the first component left is one. -/
def Settled (rooted : Bool) (comps : List String) : Prop :=
  ".." ∈ comps → rooted = false ∧ comps.head? = some ".."

theorem Settled.append {comps : List String} (settled : Settled rooted comps) {comp : String}
    (named : comp ≠ "..") : Settled rooted (comps ++ [comp]) := by
  intro dotdot
  rcases List.mem_append.mp dotdot with before | last
  · obtain ⟨free, first⟩ := settled before
    exact ⟨free, by rw [List.head?_append, first]; rfl⟩
  · exact absurd (List.mem_singleton.mp last).symm named

theorem Settled.dropLast {comps : List String} (settled : Settled rooted comps) :
    Settled rooted comps.dropLast := by
  intro dotdot
  obtain ⟨free, first⟩ := settled (List.mem_of_mem_dropLast dotdot)
  cases comps with
  | nil => cases dotdot
  | cons comp comps =>
    cases comps with
    | nil => cases dotdot
    | cons next comps => exact ⟨free, first⟩

theorem Settled.step {comps : List String} (settled : Settled rooted comps) (comp : String) :
    Settled rooted (normStep rooted comps comp) := by
  unfold normStep
  split
  · exact settled
  · by_cases named : comp ≠ ".."
    · rw [if_pos (.inl named)]
      exact settled.append named
    · split
      · rename_i grows
        rcases grows with contra | ⟨free, empty⟩ | last
        · exact absurd contra named
        · intro _
          rw [empty, not_not.mp named]
          exact ⟨free, rfl⟩
        · intro _
          obtain ⟨free, first⟩ := settled (List.mem_of_getLast? last)
          exact ⟨free, by rw [List.head?_append, first]; rfl⟩
      · exact settled.dropLast

theorem settled_normComps (comps : List String) : Settled rooted (normComps rooted comps) := by
  induction comps using List.reverseRecOn with
  | nil => intro dotdot; cases dotdot
  | append_singleton comps comp ih =>
    rw [normComps, List.foldl_append]
    exact ih.step comp

theorem mem_normComps {comps : List String} {comp : String} (h : comp ∈ normComps rooted comps) :
    comp ∈ comps := by
  induction comps using List.reverseRecOn with
  | nil => cases h
  | append_singleton comps last ih =>
    rw [normComps, List.foldl_append] at h
    change comp ∈ normStep rooted (normComps rooted comps) last at h
    rw [List.mem_append]
    unfold normStep at h
    split at h
    · exact .inl (ih h)
    · split at h
      · rcases List.mem_append.mp h with before | same
        · exact .inl (ih before)
        · exact .inr same
      · exact .inl (ih (List.mem_of_mem_dropLast h))

/-- Parts without a dotdot are left as they are. -/
theorem normComps_of_named {comps : List String} (named : ∀ comp ∈ comps, isPart comp = true)
    (below : ".." ∉ comps) : normComps rooted comps = comps := by
  induction comps using List.reverseRecOn with
  | nil => rfl
  | append_singleton comps comp ih =>
    rw [List.mem_append, not_or, List.mem_singleton] at below
    have before : normComps rooted comps = comps :=
      ih (fun c h => named c (List.mem_append_left _ h)) below.1
    rw [normComps, List.foldl_append]
    change normStep rooted (normComps rooted comps) comp = _
    rw [before, normStep_of_part (named comp (by simp)), if_pos (.inl (Ne.symm below.2))]

end Loop

section Shown

theorem parts_normpath (path : String) :
    parts (normpath path) = normComps (isAbs path) (parts path) := by
  unfold normpath
  split
  · rename_i empty
    rw [empty]
    decide
  · refine parts_dot_of_empty.trans ?_
    rw [normComps_rawParts]
    exact parts_root_append path (fun comp h => mem_parts (mem_normComps h))

theorem parts_lstripSlash (text : String) : parts (lstripSlash text) = parts text := by
  have onChars : ∀ cs : List Char,
      parts (String.ofList (cs.dropWhile (· == '/'))) = parts (String.ofList cs) := by
    intro cs
    induction cs with
    | nil => rfl
    | cons c cs ih =>
      by_cases slash : c = '/'
      · rw [slash, List.dropWhile_cons_of_pos rfl, ih]
        have shape : String.ofList ('/' :: cs) = "/" ++ String.ofList cs := by
          rw [← String.toList_inj]
          simp
        rw [shape, parts_slash]
      · rw [List.dropWhile_cons_of_neg (by simpa using slash)]
  have same := onChars text.toList
  rwa [String.ofList_toList] at same

/-- A path that is rooted in a text and has these parts starts with the first of them. -/
theorem joinWith_cons (comp : String) (comps : List String) :
    ∃ rest, joinWith "/" (comp :: comps) = comp ++ rest := by
  cases comps with
  | nil => exact ⟨"", (String.append_empty).symm⟩
  | cons next comps => exact ⟨"/" ++ joinWith "/" (next :: comps), by rw [joinWith, String.append_assoc]⟩

theorem joinWith_append {ps qs : List String} (left : ps ≠ []) (right : qs ≠ []) :
    joinWith "/" (ps ++ qs) = joinWith "/" ps ++ "/" ++ joinWith "/" qs := by
  induction ps with
  | nil => exact absurd rfl left
  | cons p ps ih =>
    cases ps with
    | nil =>
      obtain ⟨q, qs, rfl⟩ := List.exists_cons_of_ne_nil right
      rfl
    | cons p' ps =>
      have tail := ih (List.cons_ne_nil _ _)
      rw [List.cons_append, List.cons_append, joinWith, ← List.cons_append, tail, joinWith]
      simp only [String.append_assoc]

/-- A component of a path begins, and not with a slash. -/
theorem cons_of_part {comp : String} (named : isPart comp = true) (flat : '/' ∉ comp.toList) :
    ∃ c cs, comp.toList = c :: cs ∧ c ≠ '/' := by
  have nonempty : comp.toList ≠ [] := by
    intro empty
    rw [String.toList_eq_nil_iff.mp empty] at named
    cases named
  obtain ⟨c, cs, hc⟩ := List.exists_cons_of_ne_nil nonempty
  refine ⟨c, cs, hc, ?_⟩
  rintro rfl
  exact flat (hc ▸ List.mem_cons_self)

theorem lstripSlash_rootOf_append (path : String) {text : String} {c : Char} {cs : List Char}
    (first : text.toList = c :: cs) (apart : c ≠ '/') :
    lstripSlash (rootOf path ++ text) = text := by
  rw [lstripSlash, ← String.toList_inj, String.toList_ofList, String.toList_append, first]
  rcases rootOf_cases path with ⟨root, -⟩ | ⟨root | root, -⟩ <;> rw [root]
  · simp [apart]
  · simp [apart]
  · simp [apart]

/-- Without its leading slashes a normalised path is its parts, joined again. -/
theorem lstripSlash_normpath {path : String} (some : parts (normpath path) ≠ []) :
    lstripSlash (normpath path) = joinWith "/" (parts (normpath path)) := by
  obtain ⟨comp, comps, split⟩ := List.exists_cons_of_ne_nil some
  have mem : comp ∈ parts (normpath path) := split ▸ List.mem_cons_self
  obtain ⟨named, flat⟩ := mem_parts mem
  obtain ⟨c, cs, first, apart⟩ := cons_of_part named flat
  obtain ⟨rest, shown⟩ := joinWith_cons comp comps
  have begins : (joinWith "/" (comp :: comps)).toList = c :: (cs ++ rest.toList) := by
    rw [shown, String.toList_append, first, List.cons_append]
  have nonempty : path ≠ "" := by
    rintro rfl
    exact some (by decide)
  have normal : normpath path = rootOf path ++ joinWith "/" (comp :: comps) := by
    rw [normpath, if_neg nonempty, normComps_rawParts, ← parts_normpath, split]
    refine if_neg (fun empty => ?_)
    have none := congrArg String.toList empty
    rw [String.toList_append, begins] at none
    exact absurd none (by simp)
  rw [split, normal, lstripSlash_rootOf_append path begins apart]

/-- A normalised path without a part is a root or a dot. -/
theorem normpath_of_parts_eq_nil {path : String} (none : parts (normpath path) = []) :
    normpath path = "." ∨ normpath path = "/" ∨ normpath path = "//" := by
  by_cases empty : path = ""
  · rw [empty]
    exact .inl rfl
  · rw [parts_normpath, ← normComps_rawParts] at none
    rw [normpath, if_neg empty, none]
    rcases rootOf_cases path with ⟨root, -⟩ | ⟨root | root, -⟩ <;> rw [root]
    · exact .inl (by decide)
    · exact .inr (.inl (by decide))
    · exact .inr (.inr (by decide))

/-- Without its leading slashes a normalised path starts with a dotdot if it has one. -/
theorem dotdot_of_mem {path : String} (h : ".." ∈ parts (lstripSlash (normpath path))) :
    "..".toList <+: (lstripSlash (normpath path)).toList := by
  rw [parts_lstripSlash] at h
  have dotdot := h
  rw [parts_normpath] at dotdot
  obtain ⟨-, first⟩ := settled_normComps (parts path) dotdot
  rw [← parts_normpath] at first
  obtain ⟨comps, split⟩ := List.head?_eq_some_iff.mp first
  obtain ⟨rest, shown⟩ := joinWith_cons ".." comps
  rw [lstripSlash_normpath (List.ne_nil_of_mem h), split, shown, String.toList_append]
  exact List.prefix_append _ _

end Shown

section Normalised

/-- An absolute path that `normpath` leaves as it is. -/
structure NormalisedAbs (path : String) : Prop where
  rooted : isAbs path = true
  normal : normpath path = path

variable {w : String}

theorem NormalisedAbs.not_mem_dotdot (h : NormalisedAbs w) : ".." ∉ parts w := by
  intro dotdot
  rw [← h.normal, parts_normpath, h.rooted] at dotdot
  obtain ⟨free, -⟩ := settled_normComps (parts w) dotdot
  cases free

theorem NormalisedAbs.rootOf_eq (h : NormalisedAbs w) : rootOf w = "/" ∨ rootOf w = "//" := by
  rcases rootOf_cases w with ⟨-, free⟩ | ⟨root, -⟩
  · rw [h.rooted] at free
    cases free
  · exact root

theorem NormalisedAbs.spelled (h : NormalisedAbs w) : rootOf w ++ joinWith "/" (parts w) = w := by
  have comps : normComps (isAbs w) (rawParts w) = parts w := by
    rw [normComps_rawParts, ← parts_normpath, h.normal]
  have nonempty : w ≠ "" := by
    rintro rfl
    cases h.rooted
  have shown : rootOf w ++ joinWith "/" (parts w) ≠ "" := by
    rcases h.rootOf_eq with root | root <;> rw [root] <;> simp
  have normal := h.normal
  rw [normpath, if_neg nonempty, comps] at normal
  rwa [if_neg shown] at normal

/-- The roots have no parts; every other normalised absolute path has some. -/
theorem NormalisedAbs.parts_ne_nil (h : NormalisedAbs w) (one : w ≠ "/") (two : w ≠ "//") :
    parts w ≠ [] := by
  intro none
  have spelled := h.spelled
  rw [none] at spelled
  change rootOf w ++ "" = w at spelled
  rw [String.append_empty] at spelled
  rcases h.rootOf_eq with root | root
  · exact one (spelled.symm.trans root)
  · exact two (spelled.symm.trans root)

/-- What follows a first part does not change the root. -/
theorem NormalisedAbs.rootOf_append (h : NormalisedAbs w) (deep : parts w ≠ []) (more : String) :
    rootOf (w ++ more) = rootOf w := by
  obtain ⟨part, rest, split⟩ := List.exists_cons_of_ne_nil deep
  obtain ⟨named, flat⟩ := mem_parts (split ▸ List.mem_cons_self : part ∈ parts w)
  obtain ⟨tail, joined⟩ := joinWith_cons part rest
  obtain ⟨c, cs, hc, apart⟩ := cons_of_part named flat
  have chars : ∃ front, (w ++ more).toList = (rootOf w).toList ++ c :: front := by
    refine ⟨cs ++ tail.toList ++ more.toList, ?_⟩
    have spelled := congrArg String.toList h.spelled
    rw [split, joined, String.toList_append, String.toList_append, hc] at spelled
    rw [String.toList_append, ← spelled]
    simp
  obtain ⟨front, chars⟩ := chars
  rcases h.rootOf_eq with root | root <;> rw [root] at chars ⊢ <;> rw [rootOf, chars]
  · simp [apart]
  · simp [apart]

/-- A path below a normalised one, spelled out. -/
theorem NormalisedAbs.normpath_append (h : NormalisedAbs w) (deep : parts w ≠ []) {clean : String}
    (below : ".." ∉ parts clean) :
    normpath (w ++ "/" ++ clean) = rootOf w ++ joinWith "/" (parts w ++ parts clean) := by
  have root := h.rootOf_append deep ("/" ++ clean)
  rw [← String.append_assoc] at root
  have rooted : isAbs (w ++ "/" ++ clean) = true := by
    rcases rootOf_cases (w ++ "/" ++ clean) with ⟨none, -⟩ | ⟨-, rooted⟩
    · rw [root] at none
      rcases h.rootOf_eq with some | some <;> rw [some] at none <;> simp at none
    · exact rooted
  have nonempty : w ++ "/" ++ clean ≠ "" := by
    intro empty
    rw [empty] at rooted
    cases rooted
  have comps : normComps (isAbs (w ++ "/" ++ clean)) (rawParts (w ++ "/" ++ clean)) =
      parts w ++ parts clean := by
    rw [normComps_rawParts, parts_append_slash]
    refine normComps_of_named (fun comp hc => ?_) ?_
    · rcases List.mem_append.mp hc with inside | further
      · exact (mem_parts inside).1
      · exact (mem_parts further).1
    · rw [List.mem_append, not_or]
      exact ⟨h.not_mem_dotdot, below⟩
  have shown : rootOf w ++ joinWith "/" (parts w ++ parts clean) ≠ "" := by
    rcases h.rootOf_eq with some | some <;> rw [some] <;> simp
  rw [normpath, if_neg nonempty, comps, root]
  exact if_neg shown

/-- It is the directory itself, or starts with the directory and a slash. -/
theorem NormalisedAbs.normpath_append_cases (h : NormalisedAbs w) (deep : parts w ≠ [])
    {clean : String} (below : ".." ∉ parts clean) :
    normpath (w ++ "/" ++ clean) = w ∨
      normpath (w ++ "/" ++ clean) = w ++ "/" ++ joinWith "/" (parts clean) := by
  rw [h.normpath_append deep below]
  by_cases none : parts clean = []
  · rw [none, List.append_nil]
    exact .inl h.spelled
  · rw [joinWith_append deep none, ← String.append_assoc, ← String.append_assoc, h.spelled]
    exact .inr rfl

end Normalised

end SthBoring.Lib.NormPath
