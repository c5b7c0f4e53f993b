/- Module: SthBoring/Lib/RecentUse
   source: none; a vocabulary for bounded maps that forget what was used longest ago
   digest: What a map in the order of use keeps, told from the history of its uses. -/

import Mathlib.Data.Finset.Card
import SthBoring.Lib.OrderedMoves

set_option autoImplicit false
set_option relaxedAutoImplicit false

namespace SthBoring.Lib.RecentUse

open SthBoring.Lib.OrderedDict

universe u v

variable {κ : Type u} {β : Type v} [DecidableEq κ]

/-- What can change such a map, or its order. -/
inductive Event (κ : Type u) (β : Type v)
  | put (key : κ) (value : β)
  | used (key : κ)
  | cleared

/-- The last value put under a key and not cleared since. Events are listed with the latest first. -/
def standing (key : κ) : List (Event κ β) → Option β
  | [] => none
  | .put k value :: past => if k = key then some value else standing key past
  | .used _ :: past => standing key past
  | .cleared :: _ => none

/-- The other keys put or used since a key was last put or used. -/
def usedSince (key : κ) : List (Event κ β) → Finset κ
  | [] => ∅
  | .put k _ :: past => if k = key then ∅ else insert k (usedSince key past)
  | .used k :: past => if k = key then ∅ else insert k (usedSince key past)
  | .cleared :: past => usedSince key past

/-- A map with its values in the order of use: what it holds stands, and what stands is held
unless it is stale or too many other keys were used since. -/
structure Reflects (stale : β → Prop) (most : ℕ) (d : PyDict κ β) (past : List (Event κ β)) :
    Prop where
  stands : ∀ e ∈ d.entries, standing e.1 past = some e.2
  order : d.entries.Pairwise fun a b => b.1 ∈ usedSince a.1 past
  kept : ∀ key value, standing key past = some value → key ∉ d.keys →
    stale value ∨ most ≤ (usedSince key past).card
  room : d.entries.length ≤ most

section Moves

variable {d : PyDict κ β} {k : κ} {v : β}

theorem entries_moveToEnd (found : d.get k = some v) :
    (d.moveToEnd k).entries = d.entries.filter (fun e => e.1 ≠ k) ++ [(k, v)] := by
  have absent : k ∉ (d.pop k).keys := by
    intro inside
    obtain ⟨e, he, rfl⟩ := List.mem_map.mp inside
    exact (PyDict.mem_entries_pop.mp he).2 rfl
  rw [PyDict.moveToEnd, found]
  exact PyDict.entries_set_of_notMem (d.pop k) v absent

theorem filter_assocSet (es : List (κ × β)) :
    (assocSet k v es).filter (fun e => e.1 ≠ k) = es.filter (fun e => e.1 ≠ k) := by
  induction es with
  | nil => simp [assocSet]
  | cons e es ih =>
    by_cases same : e.1 = k
    · simp [assocSet, same]
    · rw [assocSet, if_neg same, List.filter_cons, List.filter_cons, ih]

theorem entries_set_moveToEnd :
    ((d.set k v).moveToEnd k).entries = d.entries.filter (fun e => e.1 ≠ k) ++ [(k, v)] := by
  rw [entries_moveToEnd (PyDict.get_set_self d k v)]
  exact congrArg (· ++ [(k, v)]) (filter_assocSet d.entries)

end Moves

namespace Reflects

variable {stale stale' : β → Prop} {most : ℕ} {d d' : PyDict κ β} {past : List (Event κ β)}
  {k : κ} {v : β}

theorem empty (stale : β → Prop) (most : ℕ) :
    Reflects stale most (PyDict.empty : PyDict κ β) [] where
  stands := nofun
  order := List.Pairwise.nil
  kept := nofun
  room := Nat.zero_le most

theorem cleared (stale : β → Prop) (most : ℕ) (past : List (Event κ β)) :
    Reflects stale most (PyDict.empty : PyDict κ β) (.cleared :: past) where
  stands := nofun
  order := List.Pairwise.nil
  kept := nofun
  room := Nat.zero_le most

theorem imp (h : Reflects stale most d past) (weaker : ∀ value, stale value → stale' value) :
    Reflects stale' most d past :=
  { h with kept := fun key value stands out => (h.kept key value stands out).imp_left (weaker value) }

/-- A stale value may go. -/
theorem pop (h : Reflects stale most d past) (found : d.get k = some v) (old : stale v) :
    Reflects stale most (d.pop k) past where
  stands e he := h.stands e (PyDict.mem_entries_pop.mp he).1
  order := h.order.sublist List.filter_sublist
  kept := by
    intro key value stands out
    by_cases same : key = k
    · subst same
      have held := h.stands (key, v) ((PyDict.get_eq_some_iff d key v).mp found)
      obtain rfl : v = value := Option.some.inj (held.symm.trans stands)
      exact Or.inl old
    · have absent : key ∉ d.keys := by
        intro inside
        obtain ⟨e, he, rfl⟩ := List.mem_map.mp inside
        exact out (List.mem_map.mpr ⟨e, PyDict.mem_entries_pop.mpr ⟨he, same⟩, rfl⟩)
      exact h.kept key value stands absent
  room := (List.length_filter_le _ _).trans h.room

/-- The map in the order of use before it is made smaller. -/
structure Moved (stale : β → Prop) (most : ℕ) (es : List (κ × β)) (past : List (Event κ β)) :
    Prop where
  stands : ∀ e ∈ es, standing e.1 past = some e.2
  order : es.Pairwise fun a b => b.1 ∈ usedSince a.1 past
  kept : ∀ key value, standing key past = some value → key ∉ es.map Prod.fst →
    stale value ∨ most ≤ (usedSince key past).card

/-- Keys in the order of use that stand behind a key were all used since. -/
theorem card_usedSince {es : List (κ × β)} (nodup : (es.map Prod.fst).Nodup)
    (order : es.Pairwise fun a b => b.1 ∈ usedSince a.1 past) {before after : List (κ × β)}
    {e : κ × β} (split : es = before ++ e :: after) :
    after.length ≤ (usedSince e.1 past).card := by
  subst split
  have behind : ∀ b ∈ after, b.1 ∈ usedSince e.1 past :=
    (List.pairwise_cons.mp (List.pairwise_append.mp order).2.1).1
  have distinct : (after.map Prod.fst).Nodup := by
    rw [List.map_append, List.map_cons] at nodup
    exact (List.nodup_cons.mp (List.nodup_append.mp nodup).2.1).2
  have inside : (after.map Prod.fst).toFinset ⊆ usedSince e.1 past := by
    intro key hk
    obtain ⟨b, hb, rfl⟩ := List.mem_map.mp (List.mem_toFinset.mp hk)
    exact behind b hb
  calc after.length = (after.map Prod.fst).length := (List.length_map _).symm
    _ = (after.map Prod.fst).toFinset.card := (List.toFinset_card_of_nodup distinct).symm
    _ ≤ (usedSince e.1 past).card := Finset.card_le_card inside

theorem Moved.shrink (h : Moved stale most d.entries past) :
    Reflects stale most (d.shrink most) past where
  stands e he := h.stands e (PyDict.mem_entries_of_mem_shrink he)
  order := h.order.sublist (List.drop_sublist _ _)
  kept := by
    intro key value stands out
    by_cases held : key ∈ d.keys
    · -- the key was dropped: behind it stand as many entries as the map may hold
      obtain ⟨e, he, rfl⟩ := List.mem_map.mp held
      have parts := List.take_append_drop (d.entries.length - most) d.entries
      rw [← parts] at he
      rcases List.mem_append.mp he with first | rest
      · obtain ⟨before, between, split⟩ := List.append_of_mem first
        have whole : d.entries = before ++ e ::
            (between ++ d.entries.drop (d.entries.length - most)) := by
          rw [← List.cons_append, ← List.append_assoc, ← split, parts]
        have behind := card_usedSince d.nodup h.order whole
        have dropped : 0 < d.entries.length - most := by
          have length := List.length_pos_of_mem first
          rw [List.length_take] at length
          omega
        rw [List.length_append, List.length_drop] at behind
        right
        omega
      · exact absurd (List.mem_map_of_mem rest) out
    · exact h.kept key value stands held
  room := by
    show (d.entries.drop _).length ≤ most
    rw [List.length_drop]
    omega

/-- What an event that puts or uses one key says of all keys. -/
structure Touches (k : κ) (v : β) (event : Event κ β) (past : List (Event κ β)) : Prop where
  stands : standing k (event :: past) = some v
  others : ∀ key, key ≠ k → standing key (event :: past) = standing key past
  used : ∀ key, key ≠ k → usedSince key (event :: past) = insert k (usedSince key past)

theorem touches_put (k : κ) (v : β) (past : List (Event κ β)) :
    Touches k v (.put k v) past where
  stands := if_pos rfl
  others _ ne := if_neg (Ne.symm ne)
  used _ ne := if_neg (Ne.symm ne)

theorem touches_used (stands : standing k past = some v) : Touches k v (.used k) past where
  stands := stands
  others _ _ := rfl
  used _ ne := if_neg (Ne.symm ne)

/-- The key that is put or used moves behind all others. -/
theorem moved (h : Reflects stale most d past) {event : Event κ β}
    (touches : Touches k v event past) :
    Moved stale most (d.entries.filter (fun e => e.1 ≠ k) ++ [(k, v)]) (event :: past) where
  stands := by
    intro e he
    rcases List.mem_append.mp he with old | new
    · obtain ⟨inside, ne⟩ := List.mem_filter.mp old
      rw [touches.others e.1 (of_decide_eq_true ne)]
      exact h.stands e inside
    · rw [List.mem_singleton.mp new]
      exact touches.stands
  order := by
    have apart : ∀ e ∈ d.entries.filter (fun e => e.1 ≠ k), e.1 ≠ k :=
      fun e he => of_decide_eq_true (List.mem_filter.mp he).2
    refine List.pairwise_append.mpr ⟨?_, List.pairwise_singleton _ _, ?_⟩
    · have sub := h.order.sublist (List.filter_sublist (p := fun e => decide (e.1 ≠ k)))
      refine sub.imp_of_mem fun {a b} ha _ used => ?_
      rw [touches.used a.1 (apart a ha)]
      exact Finset.mem_insert_of_mem used
    · intro a ha b hb
      rw [List.mem_singleton.mp hb, touches.used a.1 (apart a ha)]
      exact Finset.mem_insert_self _ _
  kept := by
    intro key value stands out
    rw [List.map_append, List.mem_append, not_or] at out
    have ne : key ≠ k := fun same => out.2 (by simp [same])
    rw [touches.others key ne] at stands
    have absent : key ∉ d.keys := by
      intro inside
      obtain ⟨e, he, rfl⟩ := List.mem_map.mp inside
      exact out.1 (List.mem_map.mpr ⟨e, List.mem_filter.mpr ⟨he, decide_eq_true ne⟩, rfl⟩)
    rw [touches.used key ne]
    refine (h.kept key value stands absent).imp_right fun many => many.trans ?_
    exact Finset.card_le_card (Finset.subset_insert k _)

theorem put (h : Reflects stale most d past) (k : κ) (v : β) :
    Reflects stale most (((d.set k v).moveToEnd k).shrink most) (.put k v :: past) := by
  have inOrder := h.moved (touches_put k v past)
  rw [← entries_set_moveToEnd] at inOrder
  exact inOrder.shrink

theorem used (h : Reflects stale most d past) (found : d.get k = some v) :
    Reflects stale most (d.moveToEnd k) (.used k :: past) := by
  have held := (PyDict.get_eq_some_iff d k v).mp found
  have inOrder := h.moved (touches_used (h.stands (k, v) held))
  rw [← entries_moveToEnd found] at inOrder
  refine
    { stands := inOrder.stands
      order := inOrder.order
      kept := inOrder.kept
      room := ?_ }
  -- the key only changed its place
  have length : (d.entries.filter (fun e => e.1 ≠ k)).length < d.entries.length :=
    List.length_filter_lt_length_iff_exists.mpr ⟨(k, v), held, by simp⟩
  rw [entries_moveToEnd found, List.length_append, List.length_singleton]
  have room := h.room
  omega

/-- What the map holds under a key, told from the history alone. -/
theorem get_of_stands (h : Reflects stale most d past) (stands : standing k past = some v)
    (fresh : ¬ stale v) (few : (usedSince k past).card < most) : d.get k = some v := by
  have held : k ∈ d.keys := by
    by_contra absent
    rcases h.kept k v stands absent with old | many
    · exact fresh old
    · omega
  obtain ⟨e, he, rfl⟩ := List.mem_map.mp held
  have same : standing e.1 past = some e.2 := h.stands e he
  obtain rfl : e.2 = v := Option.some.inj (same.symm.trans stands)
  exact (PyDict.get_eq_some_iff d e.1 e.2).mpr he

theorem stands_of_get (h : Reflects stale most d past) (found : d.get k = some v) :
    standing k past = some v :=
  h.stands (k, v) ((PyDict.get_eq_some_iff d k v).mp found)

end Reflects

end SthBoring.Lib.RecentUse
