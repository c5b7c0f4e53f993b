/- Module: SthBoring/Lib/DependencyTrace
   source: none; a vocabulary for serial executions that skip what is not ready
   digest: Traces of a serial execution with dependencies, and when such a trace is faithful. -/

import Mathlib.Data.List.Basic
import Mathlib.Data.List.Induction
import Mathlib.Data.List.Nodup
import Mathlib.Logic.Relation

set_option autoImplicit false
set_option relaxedAutoImplicit false

namespace SthBoring.Lib.DependencyTrace

universe u v

/-- An item is skipped, or carried out with or without success. -/
inductive Event (α : Type u) where
  | skipped (item : α)
  | called (item : α) (ok : Bool)

variable {α : Type u} {κ : Type v}

namespace Event

def item : Event α → α
  | skipped a => a
  | called a _ => a

def isCalled : Event α → Bool
  | skipped _ => false
  | called _ _ => true

def succeeded : Event α → Bool
  | skipped _ => false
  | called _ ok => ok

end Event

section Outcome

variable [DecidableEq κ] (key : α → κ) (deps : α → List κ)

/-- Whether the most recent event under a key succeeded; `none` when there is none. -/
def lastOutcome : List (Event α) → κ → Option Bool
  | [], _ => none
  | e :: t, k =>
    match lastOutcome t k with
    | some ok => some ok
    | none => if key e.item = k then some e.succeeded else none

/-- Everything the item depends on succeeded, most recently. -/
def Ready (t : List (Event α)) (a : α) : Prop :=
  ∀ d ∈ deps a, lastOutcome key t d = some true

/-- An item is carried out exactly when it is ready at its turn. -/
def Faithful (t : List (Event α)) : Prop :=
  ∀ before e after, t = before ++ e :: after →
    (e.isCalled = true ↔ Ready key deps before e.item)

/-- Every item's dependencies are keys of items before it. -/
def Ordered (items : List α) : Prop :=
  ∀ before a after, items = before ++ a :: after →
    ∀ d ∈ deps a, d ∈ before.map key

theorem lastOutcome_append_singleton (t : List (Event α)) (e : Event α) (k : κ) :
    lastOutcome key (t ++ [e]) k =
      if key e.item = k then some e.succeeded else lastOutcome key t k := by
  induction t with
  | nil => simp [lastOutcome]
  | cons e' t ih =>
    simp only [List.cons_append, lastOutcome, ih]
    by_cases he : key e.item = k
    · simp [he]
    · simp [he]

theorem lastOutcome_eq_none_iff (t : List (Event α)) (k : κ) :
    lastOutcome key t k = none ↔ k ∉ t.map (fun e => key e.item) := by
  induction t with
  | nil => simp [lastOutcome]
  | cons e t ih =>
    simp only [lastOutcome, List.map_cons, List.mem_cons, not_or]
    cases ht : lastOutcome key t k with
    | none =>
      have fresh := ih.mp ht
      by_cases he : key e.item = k
      · simp [he]
      · simp [he, Ne.symm he, fresh]
    | some ok =>
      have seen : ¬ (k ∉ t.map (fun e => key e.item)) := fun h => by
        rw [ih.mpr h] at ht
        cases ht
      simp only [reduceCtorEq, false_iff, not_and]
      exact fun _ h => seen h

/-- The most recent event under a key, in place. -/
theorem exists_of_lastOutcome {t : List (Event α)} {k : κ} {ok : Bool}
    (h : lastOutcome key t k = some ok) :
    ∃ before e after, t = before ++ e :: after ∧ key e.item = k ∧ e.succeeded = ok ∧
      ∀ e' ∈ after, key e'.item ≠ k := by
  induction t with
  | nil => cases h
  | cons e t ih =>
    simp only [lastOutcome] at h
    cases ht : lastOutcome key t k with
    | some ok' =>
      simp only [ht] at h
      obtain ⟨before, e', after, split, hk, hs, fresh⟩ := ih (ht.trans h)
      exact ⟨e :: before, e', after, by simp [split], hk, hs, fresh⟩
    | none =>
      simp only [ht] at h
      by_cases he : key e.item = k
      · simp only [if_pos he, Option.some.injEq] at h
        have fresh := (lastOutcome_eq_none_iff key t k).mp ht
        refine ⟨[], e, t, rfl, he, h, fun e' he' hk => fresh ?_⟩
        exact List.mem_map.mpr ⟨e', he', hk⟩
      · simp [he] at h

theorem lastOutcome_of_forall {t : List (Event α)} {k : κ}
    (all : ∀ e ∈ t, e.succeeded = true) (seen : k ∈ t.map (fun e => key e.item)) :
    lastOutcome key t k = some true := by
  cases h : lastOutcome key t k with
  | none => exact absurd seen ((lastOutcome_eq_none_iff key t k).mp h)
  | some ok =>
    obtain ⟨before, e, after, split, _, hs, _⟩ := exists_of_lastOutcome key h
    have he : e ∈ t := by simp [split]
    rw [← hs, all e he]

theorem faithful_nil : Faithful key deps ([] : List (Event α)) := by
  intro before e after h
  simp at h

theorem Faithful.append_singleton {t : List (Event α)} (faithful : Faithful key deps t)
    {e : Event α} (turn : e.isCalled = true ↔ Ready key deps t e.item) :
    Faithful key deps (t ++ [e]) := by
  intro before e' after split
  rcases List.eq_nil_or_concat after with rfl | ⟨rest, last, rfl⟩
  · have same : t = before ∧ e = e' := by simpa using split
    rw [← same.1, ← same.2]
    exact turn
  · have same : t = before ++ e' :: rest ∧ e = last := by
      have assoc : before ++ e' :: (rest ++ [last]) = (before ++ e' :: rest) ++ [last] := by simp
      rw [List.concat_eq_append, assoc] at split
      simpa using List.append_inj' split rfl
    exact faithful before e' rest same.1

/-- A carried out item comes after successes, the latest ones, of all its dependencies. -/
theorem Faithful.dependency_succeeded {t before after : List (Event α)} {a : α} {ok : Bool}
    (faithful : Faithful key deps t) (split : t = before ++ .called a ok :: after)
    {d : κ} (hd : d ∈ deps a) :
    ∃ pre b post, before = pre ++ .called b true :: post ∧ key b = d ∧
      ∀ e ∈ post, key e.item ≠ d := by
  have ready : Ready key deps before a := (faithful before _ after split).mp rfl
  obtain ⟨pre, e, post, hb, hk, hs, fresh⟩ := exists_of_lastOutcome key (ready d hd)
  cases e with
  | skipped b => cases hs
  | called b ok' =>
    obtain rfl : ok' = true := hs
    exact ⟨pre, b, post, hb, hk, fresh⟩

/-- `b` is one of the items, and `a` depends on it. -/
def Needs (items : List α) (a b : α) : Prop := b ∈ items ∧ key b ∈ deps a

/-- A carried out item comes after successes of everything it needs, directly or not. -/
theorem Faithful.needed_succeeded {t : List (Event α)} (faithful : Faithful key deps t)
    {items : List α} (within : ∀ e ∈ t, e.item ∈ items) (distinct : (items.map key).Nodup)
    {a b : α} (needs : Relation.TransGen (Needs key deps items) a b)
    {before after : List (Event α)} {ok : Bool} (split : t = before ++ .called a ok :: after) :
    .called b true ∈ before := by
  have direct : ∀ {a c : α} {before after : List (Event α)} {ok : Bool},
      t = before ++ .called a ok :: after → Needs key deps items a c →
      ∃ pre post, before = pre ++ .called c true :: post := by
    intro a c before after ok split need
    obtain ⟨pre, c', post, hb, hk, _⟩ := faithful.dependency_succeeded key deps split need.2
    have listed : c' ∈ items := within (.called c' true) (by simp [split, hb])
    obtain rfl : c' = c := List.inj_on_of_nodup_map distinct listed need.1 hk
    exact ⟨pre, post, hb⟩
  induction needs using Relation.TransGen.head_induction_on generalizing before after ok with
  | single need =>
    obtain ⟨pre, post, rfl⟩ := direct split need
    simp
  | head need _ ih =>
    obtain ⟨pre, post, rfl⟩ := direct split need
    have found := ih (by rw [split, List.append_assoc, List.cons_append])
    exact List.mem_append_left _ found

/-- The item at `i` is the one that the item at `j` means by one of its dependencies: the latest
of that key before `j`, or any later one when there is none before. -/
def Means (items : List α) (j i : ℕ) : Prop :=
  ∃ a b, items[j]? = some a ∧ items[i]? = some b ∧ key b ∈ deps a ∧
    ∀ k c, k < j → (i < j → i < k) → items[k]? = some c → key c ≠ key b

theorem split_at {β : Type*} {t : List β} {j : ℕ} {e : β} (h : t[j]? = some e) :
    t = t.take j ++ e :: t.drop (j + 1) ∧ (t.take j).length = j := by
  obtain ⟨bound, rfl⟩ := List.getElem?_eq_some_iff.mp h
  refine ⟨?_, List.length_take_of_le (Nat.le_of_lt bound)⟩
  rw [List.getElem_cons_drop, List.take_append_drop]

/-- What a carried out item means succeeded. -/
theorem Faithful.meant_succeeded {t : List (Event α)} (faithful : Faithful key deps t)
    {items : List α} (within : t.map Event.item <+: items) {i j : ℕ}
    (means : Means key deps items j i) {a : α} {ok : Bool} (called : t[j]? = some (.called a ok)) :
    ∃ b, t[i]? = some (.called b true) := by
  have listed : ∀ {k : ℕ} {e : Event α}, t[k]? = some e → items[k]? = some e.item := by
    intro k e found
    obtain ⟨rest, rfl⟩ := within
    obtain ⟨bound, rfl⟩ := List.getElem?_eq_some_iff.mp found
    rw [List.getElem?_append_left (by simpa using bound), List.getElem?_map, found]
    rfl
  obtain ⟨a', b, atJ, atI, named, latest⟩ := means
  obtain rfl : a = a' := Option.some.inj ((listed called).symm.trans atJ)
  obtain ⟨split, length⟩ := split_at called
  obtain ⟨pre, c, post, front, same, fresh⟩ :=
    faithful.dependency_succeeded key deps split named
  rw [front] at split
  have early : pre.length < j := by
    rw [← length, front, List.length_append, List.length_cons]
    omega
  have atP : t[pre.length]? = some (.called c true) := by
    rw [split, List.append_assoc, List.getElem?_append_right (Nat.le_refl _), Nat.sub_self]
    rfl
  have order : i < j ∧ pre.length ≤ i := by
    by_contra other
    refine latest pre.length c early (fun hij => ?_) (listed atP) same
    by_contra late
    exact other ⟨hij, Nat.le_of_not_lt late⟩
  rcases Nat.eq_or_lt_of_le order.2 with rfl | later
  · exact ⟨c, atP⟩
  · -- an event of the key behind the success would be the one that counts
    exfalso
    have bound : i - pre.length - 1 < post.length := by
      have total := length
      rw [front, List.length_append, List.length_cons] at total
      omega
    have atI' : t[i]? = some post[i - pre.length - 1] := by
      rw [split, List.append_assoc, List.getElem?_append_right (Nat.le_of_lt later), List.cons_append,
        List.getElem?_cons, if_neg (by omega), List.getElem?_append_left bound,
        List.getElem?_eq_getElem bound]
    have b_item := Option.some.inj ((listed atI').symm.trans atI)
    exact fresh _ (List.getElem_mem bound) (by rw [b_item])

/-- So does what it means by way of others. -/
theorem Faithful.reached_succeeded {t : List (Event α)} (faithful : Faithful key deps t)
    {items : List α} (within : t.map Event.item <+: items) {i j : ℕ}
    (means : Relation.TransGen (Means key deps items) j i) {a : α} {ok : Bool}
    (called : t[j]? = some (.called a ok)) : ∃ b, t[i]? = some (.called b true) := by
  induction means with
  | single direct => exact faithful.meant_succeeded key deps within direct called
  | tail _ last ih =>
    obtain ⟨b, found⟩ := ih
    exact faithful.meant_succeeded key deps within last found

theorem Faithful.initial {t t' : List (Event α)} (faithful : Faithful key deps (t ++ t')) :
    Faithful key deps t := by
  intro before e after split
  exact faithful before e (after ++ t') (by simp [split])

/-- When everything carried out succeeds, nothing is skipped exactly if the items stand in
dependency order. -/
theorem Faithful.all_called_iff_ordered {t : List (Event α)} (faithful : Faithful key deps t)
    (success : ∀ e ∈ t, e.isCalled = true → e.succeeded = true) :
    (∀ e ∈ t, e.isCalled = true) ↔ Ordered key deps (t.map Event.item) := by
  constructor
  · intro all before a after split d hd
    obtain ⟨tb, ta, ht, hb, ha⟩ := List.map_eq_append_iff.mp split
    obtain ⟨e, te, rfl, he, _⟩ := List.map_eq_cons_iff.mp ha
    subst he
    have called : e.isCalled = true := all e (by simp [ht])
    have ready := (faithful tb e te ht).mp called
    have seen : lastOutcome key tb d ≠ none := by simp [ready d hd]
    rw [Ne, lastOutcome_eq_none_iff, not_not] at seen
    rw [← hb, List.map_map]
    exact seen
  · intro ordered
    induction t using List.reverseRecOn with
    | nil => simp
    | append_singleton t e ih =>
      have ordered' : Ordered key deps (t.map Event.item) := by
        intro before a after split
        exact ordered before a (after ++ [e.item]) (by simp [split])
      have all : ∀ e' ∈ t, e'.isCalled = true :=
        ih (Faithful.initial key deps faithful)
          (fun e' h => success e' (List.mem_append_left [e] h)) ordered'
      have ready : Ready key deps t e.item := by
        intro d hd
        apply lastOutcome_of_forall key
        · exact fun e' h => success e' (List.mem_append_left [e] h) (all e' h)
        · have := ordered (t.map Event.item) e.item [] (by simp) d hd
          rwa [List.map_map] at this
      intro e' he'
      rcases List.mem_append.mp he' with h | h
      · exact all e' h
      · obtain rfl := List.mem_singleton.mp h
        exact (faithful t e' [] rfl).mpr ready

end Outcome

end SthBoring.Lib.DependencyTrace
