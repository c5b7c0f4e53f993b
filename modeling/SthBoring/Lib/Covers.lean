/- Module: SthBoring/Lib/Covers
   source: the built-in lists and exceptions
   digest: Lists whose every item has a counterpart, and sweeps that collect such lists. -/

import SthBoring.Lib.PyValue

set_option autoImplicit false
set_option relaxedAutoImplicit false

namespace SthBoring.Lib.Covers

open SthBoring.Lib.PyValue (PyExc collect)

section Covered

universe u v

variable {α : Type u} {β : Type v} {R : α → β → Prop}

/-- Every item of the first list has a counterpart in the second. -/
def Covered (R : α → β → Prop) (xs : List α) (ys : List β) : Prop := ∀ x ∈ xs, ∃ y ∈ ys, R x y

theorem covered_nil (R : α → β → Prop) (ys : List β) : Covered R [] ys := nofun

theorem covered_singleton {x : α} {y : β} : Covered R [x] [y] ↔ R x y := by
  simp [Covered]

theorem Covered.refl {R : α → α → Prop} (related : ∀ x, R x x) (xs : List α) : Covered R xs xs :=
  fun x mem => ⟨x, mem, related x⟩

theorem Covered.append {xs xs' : List α} {ys ys' : List β} (front : Covered R xs ys)
    (back : Covered R xs' ys') : Covered R (xs ++ xs') (ys ++ ys') := by
  intro x mem
  rcases List.mem_append.mp mem with here | later
  · obtain ⟨y, covers, related⟩ := front x here
    exact ⟨y, List.mem_append_left ys' covers, related⟩
  · obtain ⟨y, covers, related⟩ := back x later
    exact ⟨y, List.mem_append_right ys covers, related⟩

/-- What holds of every counterpart, and passes down to what it covers, holds of every item. -/
theorem Covered.forall {xs : List α} {ys : List β} (covered : Covered R xs ys) {p : α → Prop}
    {q : β → Prop} (down : ∀ x y, R x y → q y → p x) (all : ∀ y ∈ ys, q y) : ∀ x ∈ xs, p x := by
  intro x mem
  obtain ⟨y, covers, related⟩ := covered x mem
  exact down x y related (all y covers)

end Covered

section Parallel

universe u v w

variable {ε : Type u} {α α' : Type v} {β β' : Type w} {R : α → β → Prop} {S : α' → β' → Prop}

/-- Two computations raise the same exception, or both return, and what they return is related. -/
inductive Parallel (R : α → β → Prop) : Except ε α → Except ε β → Prop
  | raised (exc : ε) : Parallel R (.error exc) (.error exc)
  | returned {a : α} {b : β} : R a b → Parallel R (.ok a) (.ok b)

theorem Parallel.refl {R : α → α → Prop} (related : ∀ a, R a a) (x : Except ε α) :
    Parallel R x x := by
  cases x with
  | error exc => exact .raised exc
  | ok a => exact .returned (related a)

theorem Parallel.bind {x : Except ε α} {y : Except ε β} {f : α → Except ε α'}
    {g : β → Except ε β'} (first : Parallel R x y)
    (next : ∀ a b, R a b → Parallel S (f a) (g b)) : Parallel S (x >>= f) (y >>= g) := by
  cases first with
  | raised exc => exact .raised exc
  | returned related => exact next _ _ related

theorem Parallel.of_returned {x : Except ε α} {b : β} (parallel : Parallel R x (.ok b)) :
    ∃ a, x = .ok a ∧ R a b := by
  cases parallel with
  | returned related => exact ⟨_, rfl, related⟩

end Parallel

/-- Two sweeps that are in parallel on every item are in parallel as a whole. -/
theorem collect_parallel {ι α β : Type} {R : α → β → Prop} {f : ι → Except PyExc (List α)}
    {g : ι → Except PyExc (List β)} {is : List ι}
    (each : ∀ i ∈ is, Parallel (Covered R) (f i) (g i)) :
    Parallel (Covered R) (collect f is) (collect g is) := by
  induction is with
  | nil => exact .returned (covered_nil R [])
  | cons i is ih =>
    have later := ih fun j mem => each j (List.mem_cons_of_mem i mem)
    refine (each i List.mem_cons_self).bind fun xs ys front => ?_
    refine later.bind fun xs' ys' back => ?_
    exact .returned (front.append back)

end SthBoring.Lib.Covers
