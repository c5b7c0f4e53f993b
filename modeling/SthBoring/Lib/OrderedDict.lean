/- Module: SthBoring/Lib/OrderedDict
   source: the built-in dict
   digest: Insertion-ordered finite maps whose update keeps the place of an existing key. -/

import Mathlib.Data.List.Nodup
import Mathlib.Data.List.Basic
import Mathlib.Data.List.Induction

set_option autoImplicit false
set_option relaxedAutoImplicit false

namespace SthBoring.Lib.OrderedDict

universe u v

variable {κ : Type u} {α : Type v} [DecidableEq κ]

/-- The first value stored under a key of an association list. -/
def assocGet (k : κ) : List (κ × α) → Option α
  | [] => none
  | e :: es => if e.1 = k then some e.2 else assocGet k es

/-- Overwrite in place when the key is present, append otherwise. -/
def assocSet (k : κ) (a : α) : List (κ × α) → List (κ × α)
  | [] => [(k, a)]
  | e :: es => if e.1 = k then (k, a) :: es else e :: assocSet k a es

@[simp] theorem assocGet_nil (k : κ) : assocGet k ([] : List (κ × α)) = none := rfl

theorem assocGet_assocSet (k j : κ) (a : α) (es : List (κ × α)) :
    assocGet j (assocSet k a es) = if k = j then some a else assocGet j es := by
  induction es with
  | nil => simp [assocSet, assocGet]
  | cons e es ih =>
    by_cases he : e.1 = k
    · by_cases hj : k = j
      · simp [assocSet, assocGet, he, hj]
      · simp [assocSet, assocGet, he, hj]
    · by_cases hj : e.1 = j
      · have hkj : k ≠ j := fun h => he (hj.trans h.symm)
        simp only [assocSet, if_neg he, assocGet, if_pos hj, if_neg hkj]
      · simp [assocSet, assocGet, he, hj, ih]

theorem assocGet_eq_none_iff (k : κ) (es : List (κ × α)) :
    assocGet k es = none ↔ k ∉ es.map Prod.fst := by
  induction es with
  | nil => simp
  | cons e es ih =>
    by_cases he : e.1 = k
    · simp [assocGet, he]
    · simp [assocGet, he, ih, Ne.symm he]

/-- Entries that are set one after the other, whatever they are set in, go before what was there. -/
theorem get_foldl_set {δ : Type*} (get : δ → Option α) (set : δ → κ → α → δ) {k : κ}
    (get_set : ∀ d j a, get (set d j a) = if j = k then some a else get d)
    {entries : List (κ × α)} (nodup : (entries.map Prod.fst).Nodup) (d : δ) :
    get (entries.foldl (fun d e => set d e.1 e.2) d) = (assocGet k entries).or (get d) := by
  induction entries generalizing d with
  | nil => rfl
  | cons e entries ih =>
    rw [List.map_cons, List.nodup_cons] at nodup
    rw [List.foldl_cons, ih nodup.2, get_set]
    by_cases same : e.1 = k
    · have absent : assocGet k entries = none := by
        rw [assocGet_eq_none_iff, ← same]
        exact nodup.1
      simp [assocGet, same, absent]
    · simp [assocGet, same]

theorem mem_of_assocGet {k : κ} {a : α} {es : List (κ × α)} (h : assocGet k es = some a) :
    (k, a) ∈ es := by
  induction es with
  | nil => simp at h
  | cons e es ih =>
    by_cases he : e.1 = k
    · simp only [assocGet, if_pos he, Option.some.injEq] at h
      exact List.mem_cons.mpr (Or.inl (Prod.ext he.symm h.symm))
    · simp only [assocGet, if_neg he] at h
      exact List.mem_cons_of_mem e (ih h)

theorem assocGet_of_mem {k : κ} {a : α} {es : List (κ × α)}
    (nodup : (es.map Prod.fst).Nodup) (h : (k, a) ∈ es) : assocGet k es = some a := by
  induction es with
  | nil => simp at h
  | cons e es ih =>
    simp only [List.map_cons, List.nodup_cons] at nodup
    rcases List.mem_cons.mp h with rfl | h
    · simp [assocGet]
    · have he : e.1 ≠ k := by
        intro he
        exact nodup.1 (he ▸ List.mem_map.mpr ⟨(k, a), h, rfl⟩)
      simp [assocGet, he, ih nodup.2 h]

theorem assocSet_of_notMem {k : κ} {es : List (κ × α)} (a : α)
    (h : k ∉ es.map Prod.fst) : assocSet k a es = es ++ [(k, a)] := by
  induction es with
  | nil => rfl
  | cons e es ih =>
    simp only [List.map_cons, List.mem_cons, not_or] at h
    simp [assocSet, Ne.symm h.1, ih h.2]

theorem map_fst_assocSet (k : κ) (a : α) (es : List (κ × α)) :
    (assocSet k a es).map Prod.fst =
      if k ∈ es.map Prod.fst then es.map Prod.fst else es.map Prod.fst ++ [k] := by
  induction es with
  | nil => simp [assocSet]
  | cons e es ih =>
    by_cases he : e.1 = k
    · simp [assocSet, he]
    · have hk : k ≠ e.1 := Ne.symm he
      simp only [assocSet, if_neg he, List.map_cons, ih, List.mem_cons, hk, false_or]
      split <;> simp

/-- A dict: entries in insertion order, no key twice. -/
structure PyDict (κ : Type u) (α : Type v) where
  entries : List (κ × α)
  nodup : (entries.map Prod.fst).Nodup

namespace PyDict

/-- The literal `{}`. -/
def empty : PyDict κ α := ⟨[], List.nodup_nil⟩

/-- `d.get(k)`. -/
def get (d : PyDict κ α) (k : κ) : Option α := assocGet k d.entries

def keys (d : PyDict κ α) : List κ := d.entries.map Prod.fst

def values (d : PyDict κ α) : List α := d.entries.map Prod.snd

/-- `d[k] = a`. -/
def set (d : PyDict κ α) (k : κ) (a : α) : PyDict κ α where
  entries := assocSet k a d.entries
  nodup := by
    rw [map_fst_assocSet]
    split
    · exact d.nodup
    · rename_i fresh
      exact List.nodup_append.mpr ⟨d.nodup, List.nodup_singleton k, fun x hx y hy he =>
        fresh (List.mem_singleton.mp hy ▸ he ▸ hx)⟩

omit [DecidableEq κ] in
@[ext] theorem ext {d e : PyDict κ α} (h : d.entries = e.entries) : d = e := by
  cases d
  cases e
  cases h
  rfl

@[simp] theorem get_empty (k : κ) : (empty : PyDict κ α).get k = none := rfl

theorem get_set (d : PyDict κ α) (k j : κ) (a : α) :
    (d.set k a).get j = if k = j then some a else d.get j :=
  assocGet_assocSet k j a d.entries

@[simp] theorem get_set_self (d : PyDict κ α) (k : κ) (a : α) : (d.set k a).get k = some a := by
  simp [get_set]

theorem get_set_of_ne (d : PyDict κ α) {k j : κ} (a : α) (h : k ≠ j) :
    (d.set k a).get j = d.get j := by
  simp [get_set, h]

theorem get_eq_none_iff (d : PyDict κ α) (k : κ) : d.get k = none ↔ k ∉ d.keys :=
  assocGet_eq_none_iff k d.entries

theorem get_eq_some_iff (d : PyDict κ α) (k : κ) (a : α) :
    d.get k = some a ↔ (k, a) ∈ d.entries :=
  ⟨mem_of_assocGet, assocGet_of_mem d.nodup⟩

/-- In a dict that stores each value under a key computed from it, a value is found exactly
under its key. -/
theorem get_eq_some_iff_of_keyed (d : PyDict κ α) (f : α → κ) (keyed : d.keys = d.values.map f)
    (k : κ) (a : α) : d.get k = some a ↔ a ∈ d.values ∧ f a = k := by
  have byEntry : ∀ e ∈ d.entries, e.1 = f e.2 := by
    rw [keys, values, List.map_map] at keyed
    exact List.map_inj_left.mp keyed
  rw [get_eq_some_iff]
  constructor
  · intro mem
    exact ⟨List.mem_map.mpr ⟨(k, a), mem, rfl⟩, (byEntry (k, a) mem).symm⟩
  · rintro ⟨mem, rfl⟩
    obtain ⟨e, he, rfl⟩ := List.mem_map.mp mem
    rw [← byEntry e he]
    exact he

theorem mem_keys_set (d : PyDict κ α) (k j : κ) (a : α) :
    j ∈ (d.set k a).keys ↔ j = k ∨ j ∈ d.keys := by
  simp only [keys, set, map_fst_assocSet]
  split
  · rename_i present
    exact ⟨Or.inr, fun h => h.elim (fun e => e ▸ present) id⟩
  · simp [or_comm]

theorem entries_set_of_notMem (d : PyDict κ α) {k : κ} (a : α) (h : k ∉ d.keys) :
    (d.set k a).entries = d.entries ++ [(k, a)] :=
  assocSet_of_notMem a h

theorem values_set_of_notMem (d : PyDict κ α) {k : κ} (a : α) (h : k ∉ d.keys) :
    (d.set k a).values = d.values ++ [a] := by
  simp [values, entries_set_of_notMem d a h]

theorem keys_set_of_notMem (d : PyDict κ α) {k : κ} (a : α) (h : k ∉ d.keys) :
    (d.set k a).keys = d.keys ++ [k] := by
  simp [keys, entries_set_of_notMem d a h]

/-- `{key(x): x for x in xs}`. -/
def comprehension (key : α → κ) (xs : List α) : PyDict κ α :=
  xs.foldl (fun d x => d.set (key x) x) empty

private theorem comprehension_append_singleton (key : α → κ) (xs : List α) (x : α) :
    comprehension key (xs ++ [x]) = (comprehension key xs).set (key x) x := by
  rw [comprehension, List.foldl_append]
  rfl

/-- A value that is changed before it is stored, but not its key, is found changed. -/
theorem get_comprehension_map {β : Type} {key : α → κ} {key' : β → κ} {f : α → β}
    (same : ∀ x, key' (f x) = key x) (xs : List α) (k : κ) :
    (comprehension key' (xs.map f)).get k = ((comprehension key xs).get k).map f := by
  induction xs using List.reverseRecOn with
  | nil => rfl
  | append_singleton xs x ih =>
    rw [List.map_append, List.map_singleton, comprehension_append_singleton,
      comprehension_append_singleton, get_set, get_set, same, ih]
    split <;> rfl

/-- What is found is one of the values, under its own key. -/
theorem of_get_comprehension {key : α → κ} {xs : List α} {k : κ} {a : α}
    (found : (comprehension key xs).get k = some a) : a ∈ xs ∧ key a = k := by
  induction xs using List.reverseRecOn with
  | nil => cases found
  | append_singleton xs x ih =>
    rw [comprehension_append_singleton, get_set] at found
    split at found
    · next same =>
      cases found
      exact ⟨by simp, same⟩
    · obtain ⟨mem, same⟩ := ih found
      exact ⟨List.mem_append_left [x] mem, same⟩

/-- Without a repeated key nothing is overwritten. -/
theorem get_comprehension (key : α → κ) {xs : List α} (nodup : (xs.map key).Nodup) (k : κ)
    (a : α) : (comprehension key xs).get k = some a ↔ a ∈ xs ∧ key a = k := by
  induction xs using List.reverseRecOn with
  | nil => simp [comprehension]
  | append_singleton xs x ih =>
    rw [List.map_append, List.nodup_append] at nodup
    rw [comprehension_append_singleton, get_set]
    have fresh : ∀ b ∈ xs, key b ≠ key x := fun b hb =>
      nodup.2.2 (key b) (List.mem_map_of_mem hb) (key x) (by simp)
    by_cases hk : key x = k
    · rw [if_pos hk, Option.some.injEq]
      constructor
      · rintro rfl
        exact ⟨by simp, hk⟩
      · rintro ⟨mem, ha⟩
        rcases List.mem_append.mp mem with old | last
        · exact absurd (ha.trans hk.symm) (fresh a old)
        · exact (List.mem_singleton.mp last).symm
    · rw [if_neg hk, ih nodup.1]
      constructor
      · rintro ⟨mem, ha⟩
        exact ⟨List.mem_append_left [x] mem, ha⟩
      · rintro ⟨mem, ha⟩
        rcases List.mem_append.mp mem with old | last
        · exact ⟨old, ha⟩
        · exact absurd (List.mem_singleton.mp last ▸ ha) hk

end PyDict

end SthBoring.Lib.OrderedDict
