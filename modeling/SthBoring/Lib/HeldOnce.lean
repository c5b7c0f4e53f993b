/- Module: SthBoring/Lib/HeldOnce
   source: the built-in dict
   digest: Values that a dict holds under one key each, while further ones are stored. -/

import Mathlib.Data.List.Count
import Mathlib.Data.List.Nodup
import SthBoring.Lib.OrderedDict

set_option autoImplicit false
set_option relaxedAutoImplicit false

namespace SthBoring.Lib.OrderedDict.PyDict

universe u v

variable {κ : Type u} {α : Type v} [DecidableEq κ]

/-- Each of the values is held under one key. -/
def HoldsOnce (d : PyDict κ α) (held : List α) : Prop := ∀ a ∈ held, ∃! k, d.get k = some a

/-- Store each value under its key, in this order. -/
def setAll (d : PyDict κ α) (es : List (κ × α)) : PyDict κ α :=
  es.foldl (fun d e => d.set e.1 e.2) d

variable {d : PyDict κ α} {held : List α} {es : List (κ × α)} {k : κ} {a b : α}

theorem setAll_append (d : PyDict κ α) (es es' : List (κ × α)) :
    d.setAll (es ++ es') = (d.setAll es).setAll es' :=
  List.foldl_append

theorem mem_values_iff : a ∈ d.values ↔ ∃ k, d.get k = some a := by
  rw [values, List.mem_map]
  constructor
  · rintro ⟨⟨k, a'⟩, mem, rfl⟩
    exact ⟨k, (d.get_eq_some_iff k a').mpr mem⟩
  · rintro ⟨k, found⟩
    exact ⟨(k, a), (d.get_eq_some_iff k a).mp found, rfl⟩

theorem mem_values_of_mem_set (mem : b ∈ (d.set k a).values) : b = a ∨ b ∈ d.values := by
  obtain ⟨j, found⟩ := mem_values_iff.mp mem
  rw [get_set] at found
  split at found
  · exact Or.inl (Option.some.inj found).symm
  · exact Or.inr (mem_values_iff.mpr ⟨j, found⟩)

/-- A value that is held under one key is listed once. -/
theorem count_values [DecidableEq α] (once : ∃! k, d.get k = some a) : d.values.count a = 1 := by
  obtain ⟨k, found, unique⟩ := once
  obtain ⟨before, after, split⟩ := List.append_of_mem ((d.get_eq_some_iff k a).mp found)
  have distinct := d.nodup
  rw [split, List.map_append, List.map_cons, List.nodup_append] at distinct
  have elsewhere : ∀ e ∈ d.entries, e.1 ≠ k → e.2 ≠ a := by
    rintro ⟨j, b⟩ mem other rfl
    exact other (unique j ((d.get_eq_some_iff j b).mpr mem))
  have absent : ∀ part : List (κ × α), (∀ e ∈ part, e ∈ d.entries ∧ e.1 ≠ k) →
      (part.map Prod.snd).count a = 0 := by
    intro part apart
    rw [List.count_eq_zero]
    intro mem
    obtain ⟨e, inside, same⟩ := List.mem_map.mp mem
    exact elsewhere e (apart e inside).1 (apart e inside).2 same
  have front := absent before (by
    intro e mem
    refine ⟨by simp [split, mem], fun same => ?_⟩
    exact distinct.2.2 e.1 (List.mem_map_of_mem mem) k List.mem_cons_self same)
  have back := absent after (by
    intro e mem
    refine ⟨by simp [split, mem], fun same => ?_⟩
    have inside : e.1 ∈ after.map Prod.fst := List.mem_map_of_mem mem
    exact (List.nodup_cons.mp distinct.2.1).1 (same ▸ inside))
  rw [values, split, List.map_append, List.map_cons, List.count_append, front,
    List.count_cons_self, back]

/-- A new value takes a key that holds none of the others. -/
theorem HoldsOnce.set (once : d.HoldsOnce held) (fresh : a ∉ d.values)
    (free : ∀ b, d.get k = some b → b ∉ held) : (d.set k a).HoldsOnce (a :: held) := by
  intro b mem
  rcases List.mem_cons.mp mem with rfl | mem
  · refine ⟨k, get_set_self d k b, fun j (found : (d.set k b).get j = some b) => ?_⟩
    rw [get_set] at found
    split at found
    case isTrue same => exact same.symm
    case isFalse => exact absurd (mem_values_iff.mpr ⟨j, found⟩) fresh
  · obtain ⟨i, found, unique⟩ := once b mem
    have old : b ≠ a := fun same => fresh (same ▸ mem_values_iff.mpr ⟨i, found⟩)
    have other : k ≠ i := fun same => free b (same ▸ found) mem
    refine ⟨i, (get_set_of_ne d a other).trans found,
      fun j (found' : (d.set k a).get j = some b) => ?_⟩
    rw [get_set] at found'
    split at found'
    · exact absurd (Option.some.inj found').symm old
    · exact unique j found'

theorem HoldsOnce.mono {held' : List α} (once : d.HoldsOnce held) (sub : held' ⊆ held) :
    d.HoldsOnce held' :=
  fun a mem => once a (sub mem)

/-- What is left to be stored is still new behind the first of the values. -/
theorem fresh_set {e : κ × α} (distinct : ((e :: es).map Prod.snd).Nodup)
    (fresh : ∀ e' ∈ e :: es, e'.2 ∉ d.values) : ∀ e' ∈ es, e'.2 ∉ (d.set e.1 e.2).values := by
  intro e' mem inside
  rcases mem_values_of_mem_set inside with same | old
  · exact (List.nodup_cons.mp distinct).1 (same ▸ List.mem_map_of_mem mem)
  · exact fresh e' (List.mem_cons_of_mem e mem) old

/-- New values that take none of their keys leave the others where they are. -/
theorem HoldsOnce.setAll_old (once : d.HoldsOnce held) (distinct : (es.map Prod.snd).Nodup)
    (fresh : ∀ e ∈ es, e.2 ∉ d.values) (free : ∀ e ∈ es, ∀ b, d.get e.1 = some b → b ∉ held) :
    (d.setAll es).HoldsOnce held := by
  induction es generalizing d with
  | nil => exact once
  | cons e es ih =>
    have new : e.2 ∉ d.values := fresh e List.mem_cons_self
    have stored := (once.set new (free e List.mem_cons_self)).mono (List.subset_cons_self _ _)
    refine ih stored (List.nodup_cons.mp distinct).2 (fresh_set distinct fresh) ?_
    intro e' mem b found inside
    rw [get_set] at found
    split at found
    · obtain ⟨k, old, -⟩ := once b inside
      exact new (Option.some.inj found ▸ mem_values_iff.mpr ⟨k, old⟩)
    · exact free e' (List.mem_cons_of_mem e mem) b found inside

/-- New values under keys of their own are held once too. -/
theorem HoldsOnce.setAll (once : d.HoldsOnce held) (distinct : (es.map Prod.snd).Nodup)
    (fresh : ∀ e ∈ es, e.2 ∉ d.values) (free : ∀ e ∈ es, ∀ b, d.get e.1 = some b → b ∉ held)
    (apart : (es.map Prod.fst).Nodup) : (d.setAll es).HoldsOnce (held ++ es.map Prod.snd) := by
  induction es generalizing d held with
  | nil => exact once.mono (by simp)
  | cons e es ih =>
    have new : e.2 ∉ d.values := fresh e List.mem_cons_self
    have stored := once.set new (free e List.mem_cons_self)
    have rest := ih stored (List.nodup_cons.mp distinct).2 (fresh_set distinct fresh) (by
      intro e' mem b found inside
      have other : e.1 ≠ e'.1 := fun same =>
        (List.nodup_cons.mp apart).1 (same ▸ List.mem_map_of_mem mem)
      rw [get_set_of_ne d e.2 other] at found
      rcases List.mem_cons.mp inside with rfl | inside
      · exact new (mem_values_iff.mpr ⟨e'.1, found⟩)
      · exact free e' (List.mem_cons_of_mem e mem) b found inside) (List.nodup_cons.mp apart).2
    refine rest.mono ?_
    intro b mem
    simp only [List.map_cons, List.mem_append, List.mem_cons] at mem ⊢
    tauto

end SthBoring.Lib.OrderedDict.PyDict
