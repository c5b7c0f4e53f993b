/- Module: SthBoring/Lib/OrderedMoves
   source: collections.OrderedDict
   digest: Removal and updates, and the two ends of an ordered dict. -/

import SthBoring.Lib.OrderedDict

set_option autoImplicit false
set_option relaxedAutoImplicit false

namespace SthBoring.Lib.OrderedDict.PyDict

universe u v

variable {κ : Type u} {α : Type v}

private theorem nodup_filter_keys {es : List (κ × α)} (nodup : (es.map Prod.fst).Nodup)
    (keep : κ × α → Bool) : ((es.filter keep).map Prod.fst).Nodup :=
  List.Nodup.sublist (List.filter_sublist.map Prod.fst) nodup

/-- `while len(d) > size: d.popitem(last=False)`. -/
def shrink (size : ℕ) (d : PyDict κ α) : PyDict κ α where
  entries := d.entries.drop (d.entries.length - size)
  nodup := List.Nodup.sublist ((List.drop_sublist _ d.entries).map Prod.fst) d.nodup

theorem mem_entries_of_mem_shrink {size : ℕ} {d : PyDict κ α} {e : κ × α}
    (h : e ∈ (d.shrink size).entries) : e ∈ d.entries :=
  List.mem_of_mem_drop h

variable [DecidableEq κ]

/-- `d.pop(k, None)`. -/
def pop (d : PyDict κ α) (k : κ) : PyDict κ α where
  entries := d.entries.filter (fun e => e.1 ≠ k)
  nodup := nodup_filter_keys d.nodup _

theorem mem_entries_pop {d : PyDict κ α} {k : κ} {e : κ × α} :
    e ∈ (d.pop k).entries ↔ e ∈ d.entries ∧ e.1 ≠ k := by
  simp [pop, List.mem_filter]

theorem get_pop (d : PyDict κ α) (k j : κ) : (d.pop k).get j = if k = j then none else d.get j := by
  ext a
  by_cases same : k = j
  · simp [same, get_eq_some_iff, mem_entries_pop]
  · simp [same, get_eq_some_iff, mem_entries_pop, Ne.symm same]

/-- Popping keys one after the other. -/
theorem get_foldl_pop (d : PyDict κ α) (ks : List κ) (j : κ) :
    (ks.foldl pop d).get j = if j ∈ ks then none else d.get j := by
  induction ks generalizing d with
  | nil => rfl
  | cons k ks ih =>
    rw [List.foldl_cons, ih, get_pop]
    by_cases later : j ∈ ks
    · simp [later]
    · by_cases same : k = j
      · simp [same]
      · simp [later, same, Ne.symm same]

/-- `d.move_to_end(k)` of a key in the dict. -/
def moveToEnd (d : PyDict κ α) (k : κ) : PyDict κ α :=
  match d.get k with
  | some a => (d.pop k).set k a
  | none => d

theorem mem_entries_of_mem_set {d : PyDict κ α} {k : κ} {a : α} {e : κ × α}
    (h : e ∈ (d.set k a).entries) : e = (k, a) ∨ e ∈ d.entries := by
  have found : (d.set k a).get e.1 = some e.2 := (get_eq_some_iff _ _ _).mpr h
  rw [get_set] at found
  by_cases hk : k = e.1
  · rw [if_pos hk, Option.some.injEq] at found
    exact Or.inl (Prod.ext hk.symm found.symm)
  · rw [if_neg hk] at found
    exact Or.inr ((get_eq_some_iff _ _ _).mp found)

theorem mem_entries_of_mem_moveToEnd {d : PyDict κ α} {k : κ} {e : κ × α}
    (h : e ∈ (d.moveToEnd k).entries) : e ∈ d.entries := by
  rw [moveToEnd] at h
  split at h
  · rename_i a found
    rcases mem_entries_of_mem_set h with rfl | old
    · exact (get_eq_some_iff _ _ _).mp found
    · exact (mem_entries_pop.mp old).1
  · exact h

/-- `{k: v for k, v in d.items() if p(v)}`. -/
def keep (p : α → Bool) (d : PyDict κ α) : PyDict κ α where
  entries := d.entries.filter (fun e => p e.2)
  nodup := nodup_filter_keys d.nodup _

theorem get_keep (p : α → Bool) (d : PyDict κ α) (k : κ) : (d.keep p).get k = (d.get k).filter p := by
  ext a
  rw [Option.filter_eq_some_iff, get_eq_some_iff, get_eq_some_iff, keep, List.mem_filter]

/-- `d.update(other)`. -/
def update (d other : PyDict κ α) : PyDict κ α :=
  other.entries.foldl (fun d e => d.set e.1 e.2) d

/-- What another dict has goes before what was there. -/
theorem get_update (d other : PyDict κ α) (k : κ) :
    (d.update other).get k = (other.get k).or (d.get k) :=
  get_foldl_set (fun d : PyDict κ α => d.get k) set (fun d j a => get_set d j k a) other.nodup d

/-- Values that are stored under different new keys stand in the order of their keys. -/
theorem keys_foldl_set {β : Type} {key : β → κ} (value : β → α) {xs : List β} {d : PyDict κ α}
    (nodup : (d.keys ++ xs.map key).Nodup) :
    (xs.foldl (fun d x => d.set (key x) (value x)) d).keys = d.keys ++ xs.map key := by
  induction xs generalizing d with
  | nil => rw [List.map_nil, List.append_nil]; rfl
  | cons x xs ih =>
    have fresh : key x ∉ d.keys := fun old =>
      List.disjoint_of_nodup_append nodup old List.mem_cons_self
    have grown := keys_set_of_notMem d (value x) fresh
    have split : d.keys ++ (x :: xs).map key = (d.set (key x) (value x)).keys ++ xs.map key := by
      rw [grown, List.append_assoc]
      rfl
    rw [List.foldl_cons, split]
    exact ih (split ▸ nodup)

end SthBoring.Lib.OrderedDict.PyDict
