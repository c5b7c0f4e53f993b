/- Module: SthBoring/Lib/Inodes
   source: open, write, os.replace and read of a directory, as POSIX has them
   digest: Names that stand for files, and files that are written no more. -/

import Mathlib.Data.List.Basic
import Mathlib.Logic.Function.Basic

set_option autoImplicit false
set_option relaxedAutoImplicit false

namespace SthBoring.Lib.Inodes

universe u v

/-- A directory and its files. An open file is known by its number, whatever becomes of the name
it was opened under. -/
structure Disk (N : Type u) (B : Type v) where
  names : N → Option ℕ
  contents : List (List B)
  bound : ∀ n i, names n = some i → i < contents.length
  separate : ∀ m n i, names m = some i → names n = some i → m = n

variable {N : Type u} {B : Type v}

namespace Disk

def empty : Disk N B := ⟨fun _ => none, [], nofun, nofun⟩

def content (disk : Disk N B) (i : ℕ) : List B := disk.contents.getD i []

/-- What is written at an offset: zeros up to it, and the old bytes before and behind. -/
def splice (zero : B) (old : List B) (offset : ℕ) (chunk : List B) : List B :=
  old.take offset ++ List.replicate (offset - old.length) zero ++ chunk ++
    old.drop (offset + chunk.length)

def writeAt (disk : Disk N B) (zero : B) (i offset : ℕ) (chunk : List B) : Disk N B where
  names := disk.names
  contents := disk.contents.set i (splice zero (disk.content i) offset chunk)
  bound n j named := by
    rw [List.length_set]
    exact disk.bound n j named
  separate := disk.separate

section Names

variable [DecidableEq N]

/-- `open(name, "w")`: the file of that name is cut to nothing, or a new one is made. -/
def openWrite (disk : Disk N B) (name : N) : ℕ × Disk N B :=
  match found : disk.names name with
  | some i => (i, {
      names := disk.names
      contents := disk.contents.set i []
      bound := fun n j named => by
        rw [List.length_set]
        exact disk.bound n j named
      separate := disk.separate })
  | none => (disk.contents.length, {
      names := Function.update disk.names name (some disk.contents.length)
      contents := disk.contents ++ [[]]
      bound := fun n j named => by
        rw [List.length_append, List.length_singleton]
        by_cases own : n = name
        · subst own
          rw [Function.update_self, Option.some.injEq] at named
          omega
        · rw [Function.update_of_ne own] at named
          exact Nat.lt_succ_of_lt (disk.bound n j named)
      separate := fun m n j here there => by
        by_cases own : m = name
        · by_cases same : n = name
          · rw [own, same]
          · rw [own, Function.update_self, Option.some.injEq] at here
            rw [Function.update_of_ne same] at there
            exact absurd (disk.bound n j there) (by omega)
        · rw [Function.update_of_ne own] at here
          by_cases same : n = name
          · rw [same, Function.update_self, Option.some.injEq] at there
            exact absurd (disk.bound m j here) (by omega)
          · rw [Function.update_of_ne same] at there
            exact disk.separate m n j here there })

/-- `os.replace(source, target)`, which raises where there is no such source. -/
def replace (disk : Disk N B) (source target : N) : Option (Disk N B) :=
  match found : disk.names source with
  | none => none
  | some i => some {
      names := Function.update (Function.update disk.names source none) target (some i)
      contents := disk.contents
      bound := fun n j named => by
        by_cases own : n = target
        · rw [own, Function.update_self] at named
          exact disk.bound source j (found.trans named)
        · rw [Function.update_of_ne own] at named
          by_cases gone : n = source
          · rw [gone, Function.update_self] at named
            cases named
          · rw [Function.update_of_ne gone] at named
            exact disk.bound n j named
      separate := fun m n j here there => by
        have only : ∀ k, k ≠ target →
            Function.update (Function.update disk.names source none) target (some i) k = some i →
            False := by
          intro k other named
          rw [Function.update_of_ne other] at named
          by_cases gone : k = source
          · rw [gone, Function.update_self] at named
            cases named
          · rw [Function.update_of_ne gone] at named
            exact gone (disk.separate k source i named found)
        by_cases own : m = target
        · by_cases same : n = target
          · rw [own, same]
          · rw [own, Function.update_self] at here
            exact (only n same (there.trans here.symm)).elim
        · by_cases same : n = target
          · rw [same, Function.update_self] at there
            exact (only m own (here.trans there.symm)).elim
          · rw [Function.update_of_ne own] at here
            rw [Function.update_of_ne same] at there
            by_cases gone : m = source
            · rw [gone, Function.update_self] at here
              cases here
            · by_cases gone' : n = source
              · rw [gone', Function.update_self] at there
                cases there
              · rw [Function.update_of_ne gone] at here
                rw [Function.update_of_ne gone'] at there
                exact disk.separate m n j here there }

end Names

theorem splice_end (zero : B) {old : List B} {offset : ℕ} (here : old.length = offset)
    (chunk : List B) : splice zero old offset chunk = old ++ chunk := by
  subst here
  simp [splice]

theorem content_eq {disk : Disk N B} {i : ℕ} {xs : List B} (here : disk.contents[i]? = some xs) :
    disk.content i = xs := by
  rw [content, List.getD_eq_getElem?_getD, here, Option.getD_some]

/-- The file under a name that is open has contents. -/
theorem getElem?_of_named {disk : Disk N B} {name : N} {i : ℕ} (named : disk.names name = some i) :
    disk.contents[i]? = some (disk.content i) := by
  have bound := disk.bound name i named
  rw [content, List.getD_eq_getElem?_getD, List.getElem?_eq_getElem bound, Option.getD_some]

section Writing

variable {disk : Disk N B} {name : N} {i j offset : ℕ} {zero : B} {chunk : List B}

theorem content_writeAt (named : disk.names name = some i) :
    (disk.writeAt zero i offset chunk).content i = splice zero (disk.content i) offset chunk := by
  have bound := disk.bound name i named
  refine content_eq ?_
  simp [writeAt, bound]

theorem getElem?_writeAt_of_ne (other : i ≠ j) :
    (disk.writeAt zero i offset chunk).contents[j]? = disk.contents[j]? := by
  simp [writeAt, other]

theorem content_writeAt_of_ne (other : i ≠ j) :
    (disk.writeAt zero i offset chunk).content j = disk.content j := by
  rw [content, content, List.getD_eq_getElem?_getD, List.getD_eq_getElem?_getD,
    getElem?_writeAt_of_ne other]

variable [DecidableEq N] {n : N}

theorem names_openWrite_of_ne (other : n ≠ name) :
    (disk.openWrite name).2.names n = disk.names n := by
  unfold openWrite
  split
  · rfl
  · exact Function.update_of_ne other _ _

theorem names_openWrite : (disk.openWrite name).2.names name = some (disk.openWrite name).1 := by
  unfold openWrite
  split
  · next i found => exact found
  · exact Function.update_self _ _ _

theorem content_openWrite : (disk.openWrite name).2.content (disk.openWrite name).1 = [] := by
  unfold openWrite
  split
  · next i found =>
    have bound := disk.bound name i found
    exact content_eq (by simp [bound])
  · exact content_eq (by simp)

/-- No other file than the one of that name is touched. -/
theorem getElem?_openWrite {xs : List B} (here : disk.contents[j]? = some xs)
    (other : disk.names name ≠ some j) : (disk.openWrite name).2.contents[j]? = some xs := by
  unfold openWrite
  split
  · next i found =>
    have ne : i ≠ j := fun same => other (found.trans (congrArg some same))
    simpa [ne] using here
  · have bound : j < disk.contents.length := (List.getElem?_eq_some_iff.mp here).1
    simpa [List.getElem?_append_left bound] using here

theorem names_replace {disk' : Disk N B} {source target : N} (distinct : source ≠ target)
    (replaced : disk.replace source target = some disk') :
    disk'.names target = disk.names source ∧ disk'.names source = none ∧
      (∀ n, n ≠ source → n ≠ target → disk'.names n = disk.names n) ∧
      disk'.contents = disk.contents := by
  unfold replace at replaced
  split at replaced
  · cases replaced
  · next i found =>
    cases replaced
    refine ⟨?_, ?_, fun n notSource notTarget => ?_, rfl⟩
    · exact (Function.update_self _ _ _).trans found.symm
    · exact (Function.update_of_ne distinct _ _).trans (Function.update_self _ _ _)
    · exact (Function.update_of_ne notTarget _ _).trans (Function.update_of_ne notSource _ _)

theorem replace_isSome {source : N} (target : N) (named : disk.names source = some i) :
    ∃ disk', disk.replace source target = some disk' := by
  unfold replace
  split
  · next missing =>
    rw [named] at missing
    cases missing
  · exact ⟨_, rfl⟩

end Writing

section Settled

variable {loose : N → Prop}

/-- A file that stands under no name which is still written to. -/
structure Settled (loose : N → Prop) (disk : Disk N B) (i : ℕ) (xs : List B) : Prop where
  here : disk.contents[i]? = some xs
  apart : ∀ n, loose n → disk.names n ≠ some i

variable {disk : Disk N B} {name : N} {i j offset : ℕ} {zero : B} {chunk xs : List B}

/-- Writing to a loose name changes no settled file. -/
theorem Settled.writeAt (settled : Settled loose disk j xs) (isLoose : loose name)
    (named : disk.names name = some i) : Settled loose (disk.writeAt zero i offset chunk) j xs := by
  refine ⟨?_, settled.apart⟩
  have other : i ≠ j := fun same => settled.apart name isLoose (named.trans (congrArg some same))
  rw [getElem?_writeAt_of_ne other]
  exact settled.here

variable [DecidableEq N]

theorem Settled.openWrite (settled : Settled loose disk j xs) (isLoose : loose name) :
    Settled loose (disk.openWrite name).2 j xs := by
  have other := settled.apart name isLoose
  refine ⟨getElem?_openWrite settled.here other, fun n isLoose' named => ?_⟩
  by_cases same : n = name
  · subst same
    rw [names_openWrite] at named
    unfold Disk.openWrite at named
    split at named
    · next i found => exact other (found.trans named)
    · have bound : j < disk.contents.length := (List.getElem?_eq_some_iff.mp settled.here).1
      rw [Option.some.injEq] at named
      omega
  · rw [names_openWrite_of_ne same] at named
    exact settled.apart n isLoose' named

theorem Settled.replace {disk' : Disk N B} {source target : N} (settled : Settled loose disk j xs)
    (isLoose : loose source) (fixed : ¬ loose target)
    (replaced : disk.replace source target = some disk') : Settled loose disk' j xs := by
  have distinct : source ≠ target := fun same => fixed (same ▸ isLoose)
  obtain ⟨-, gone, others, same⟩ := names_replace distinct replaced
  refine ⟨by rw [same]; exact settled.here, fun n isLoose' named => ?_⟩
  by_cases own : n = source
  · rw [own, gone] at named
    cases named
  · have notTarget : n ≠ target := fun same => fixed (same ▸ isLoose')
    rw [others n own notTarget] at named
    exact settled.apart n isLoose' named

/-- A file is settled by giving it a name that is not written to. -/
theorem settled_replace {disk' : Disk N B} {source target : N}
    (named : disk.names source = some i) (isLoose : loose source) (fixed : ¬ loose target)
    (replaced : disk.replace source target = some disk') :
    Settled loose disk' i (disk.content i) := by
  have distinct : source ≠ target := fun same => fixed (same ▸ isLoose)
  obtain ⟨moved, -, -, same⟩ := names_replace distinct replaced
  refine ⟨by rw [same]; exact getElem?_of_named named, fun n isLoose' there => ?_⟩
  exact fixed (disk'.separate n target i there (moved.trans named) ▸ isLoose')

end Settled

end Disk

end SthBoring.Lib.Inodes
