/- Module: SthBoring/Lib/KeyedDict
   source: the built-in dict
   digest: Dicts that store each value under a key computed from it. -/

import Mathlib.Data.List.Perm.Basic
import SthBoring.Lib.OrderedMoves

set_option autoImplicit false
set_option relaxedAutoImplicit false

namespace SthBoring.Lib.OrderedDict.PyDict

universe u v

variable {κ : Type u} {α : Type v} [DecidableEq κ]

/-- Each value is stored under a key computed from it. -/
def Keyed (f : α → κ) (d : PyDict κ α) : Prop := d.keys = d.values.map f

variable {f : α → κ} {d : PyDict κ α} {k : κ} {a b : α}

omit [DecidableEq κ] in
theorem keyed_empty : Keyed f (empty : PyDict κ α) := rfl

namespace Keyed

omit [DecidableEq κ] in
theorem key_eq (h : Keyed f d) {e : κ × α} (he : e ∈ d.entries) : e.1 = f e.2 := by
  have pointwise : d.entries.map Prod.fst = d.entries.map (fun e => f e.2) := by
    have same := h
    rw [Keyed, keys, values, List.map_map] at same
    exact same
  exact List.map_inj_left.mp pointwise e he

omit [DecidableEq κ] in
theorem nodup (h : Keyed f d) : (d.values.map f).Nodup := by
  have distinct := d.nodup
  have same : d.entries.map Prod.fst = d.values.map f := h
  rw [same] at distinct
  exact distinct

theorem get_iff (h : Keyed f d) : d.get k = some a ↔ a ∈ d.values ∧ f a = k :=
  get_eq_some_iff_of_keyed d f h k a

theorem get_of_mem (h : Keyed f d) (ha : a ∈ d.values) : d.get (f a) = some a :=
  h.get_iff.mpr ⟨ha, rfl⟩

omit [DecidableEq κ] in
/-- Two values under one key are one. -/
theorem eq_of_key_eq (h : Keyed f d) (ha : a ∈ d.values) (hb : b ∈ d.values) (same : f a = f b) :
    a = b :=
  List.inj_on_of_nodup_map h.nodup ha hb same

theorem get_eq_none_iff (h : Keyed f d) : d.get k = none ↔ ∀ a ∈ d.values, f a ≠ k := by
  constructor
  · intro missing a ha same
    have found := h.get_of_mem ha
    rw [same, missing] at found
    cases found
  · intro others
    cases found : d.get k with
    | none => rfl
    | some a =>
      have stored := h.get_iff.mp found
      exact absurd stored.2 (others a stored.1)

theorem values_pop (h : Keyed f d) (k : κ) :
    (d.pop k).values = d.values.filter (fun a => f a ≠ k) := by
  have pointwise : d.entries.filter (fun e => decide (e.1 ≠ k)) =
      d.entries.filter (fun e => decide (f e.2 ≠ k)) :=
    List.filter_congr fun e he => by rw [h.key_eq he]
  simp only [values, pop, pointwise, List.filter_map, Function.comp_def]

theorem pop (h : Keyed f d) (k : κ) : Keyed f (d.pop k) := by
  have inside : ∀ e ∈ d.entries, e.1 = f e.2 := fun e he => h.key_eq he
  simp only [Keyed, keys, values, List.map_map]
  exact List.map_inj_left.mpr fun e he => inside e (mem_entries_pop.mp he).1

/-- What a key holds, and the rest. -/
theorem perm_pop (h : Keyed f d) (found : d.get k = some a) :
    d.values.Perm (a :: (d.pop k).values) := by
  obtain ⟨stored, rfl⟩ := h.get_iff.mp found
  have distinct : d.values.Nodup := List.Nodup.of_map f h.nodup
  rw [h.values_pop]
  refine (List.perm_ext_iff_of_nodup distinct ?_).mpr ?_
  · refine List.nodup_cons.mpr ⟨?_, distinct.filter _⟩
    simp
  · intro b
    by_cases same : f b = f a
    · have eq_of_mem : b ∈ d.values → b = a := fun hb => h.eq_of_key_eq hb stored same
      constructor
      · intro hb
        exact eq_of_mem hb ▸ List.mem_cons_self
      · intro hb
        rcases List.mem_cons.mp hb with rfl | rest
        · exact stored
        · exact (List.mem_filter.mp rest).1
    · have ne : b ≠ a := fun eq => same (congrArg f eq)
      simp [List.mem_filter, same, ne]

theorem set_new (h : Keyed f d) (fresh : ∀ b ∈ d.values, f b ≠ f a) :
    Keyed f (d.set (f a) a) ∧ (d.set (f a) a).values = d.values ++ [a] := by
  have absent : f a ∉ d.keys := (PyDict.get_eq_none_iff d (f a)).mp (h.get_eq_none_iff.mpr fresh)
  have keys := keys_set_of_notMem d a absent
  have values := values_set_of_notMem d a absent
  have same : d.keys = d.values.map f := h
  refine ⟨?_, values⟩
  rw [Keyed, keys, values, same, List.map_append, List.map_singleton]

private theorem map_snd_assocSet {es : List (κ × α)} (nodup : (es.map Prod.fst).Nodup)
    (inside : ∀ e ∈ es, e.1 = f e.2) (present : k ∈ es.map Prod.fst) :
    (assocSet k a es).map Prod.snd = (es.map Prod.snd).map (fun b => if f b = k then a else b) := by
  induction es with
  | nil => cases present
  | cons e es ih =>
    rw [List.map_cons, List.nodup_cons] at nodup
    have key : e.1 = f e.2 := inside e List.mem_cons_self
    by_cases he : e.1 = k
    · have others : ∀ b ∈ es.map Prod.snd, (if f b = k then a else b) = b := by
        intro b hb
        obtain ⟨e', he', rfl⟩ := List.mem_map.mp hb
        have ne : f e'.2 ≠ k := by
          intro eq
          rw [← inside e' (List.mem_cons_of_mem e he'), ← he] at eq
          exact nodup.1 (List.mem_map.mpr ⟨e', he', eq⟩)
        rw [if_neg ne]
      have rest := List.map_congr_left others
      simp only [assocSet, if_pos he, List.map_cons, if_pos (key ▸ he)]
      rw [rest, List.map_id']
    · have present' : k ∈ es.map Prod.fst := by
        rcases List.mem_cons.mp present with eq | rest
        · exact absurd eq.symm he
        · exact rest
      simp only [assocSet, if_neg he, List.map_cons, if_neg (key ▸ he)]
      rw [ih nodup.2 (fun e' he' => inside e' (List.mem_cons_of_mem e he')) present']

/-- A value in the dict is replaced where it stands. -/
theorem set_old (h : Keyed f d) (hb : b ∈ d.values) (same : f b = f a) :
    Keyed f (d.set (f a) a) ∧
      (d.set (f a) a).values = d.values.map (fun c => if f c = f a then a else c) := by
  have keys_eq : d.keys = d.values.map f := h
  have present : f a ∈ d.keys := by
    rw [keys_eq, ← same]
    exact List.mem_map_of_mem hb
  have values : (d.set (f a) a).values = d.values.map (fun c => if f c = f a then a else c) :=
    map_snd_assocSet d.nodup (fun e he => h.key_eq he) present
  refine ⟨?_, values⟩
  have keys : (d.set (f a) a).keys = d.keys := by
    have all : (d.set (f a) a).keys = if f a ∈ d.keys then d.keys else d.keys ++ [f a] :=
      map_fst_assocSet (f a) a d.entries
    rw [if_pos present] at all
    exact all
  have unmoved : (d.values.map (fun c => if f c = f a then a else c)).map f = d.values.map f := by
    rw [List.map_map]
    refine List.map_congr_left fun c _ => ?_
    by_cases eq : f c = f a
    · simp [eq]
    · simp [eq]
  rw [Keyed, keys, values, unmoved, keys_eq]

end Keyed

/-- The last of the values with the key is the one that is found. -/
theorem get_comprehension_eq_getLast? (key : α → κ) (xs : List α) (k : κ) :
    (comprehension key xs).get k = (xs.filter (fun x => decide (key x = k))).getLast? := by
  induction xs using List.reverseRecOn with
  | nil => rfl
  | append_singleton xs x ih =>
    have last : comprehension key (xs ++ [x]) = (comprehension key xs).set (key x) x := by
      rw [comprehension, List.foldl_append]
      rfl
    rw [last, get_set, List.filter_append]
    by_cases same : key x = k
    · rw [if_pos same, List.filter_singleton, decide_eq_true same]
      exact List.getLast?_concat.symm
    · rw [if_neg same, ih, List.filter_singleton, decide_eq_false same]
      exact congrArg List.getLast? (List.append_nil _).symm

end SthBoring.Lib.OrderedDict.PyDict
