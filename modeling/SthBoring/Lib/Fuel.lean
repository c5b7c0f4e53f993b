/- Module: SthBoring/Lib/Fuel
   source: the while statement
   digest: Computations that are given so many turns, and when they have enough of them. -/

import SthBoring.Lib.Effect

set_option autoImplicit false
set_option relaxedAutoImplicit false

namespace SthBoring.Lib.Fuel

open SthBoring.Lib.Effect

universe u

variable {S : Type u} {E α β γ : Type}

/-- With enough turns it ends so, and more of them change nothing. -/
def Ends (f : ℕ → Computation S E (Option α)) (s : S) (r : Except E α) (s' : S) : Prop :=
  ∃ enough, ∀ turns, enough ≤ turns → f turns s = (r.map some, s')

/-- It ends from every state. -/
def Halts (f : ℕ → Computation S E (Option α)) : Prop := ∀ s, ∃ r s', Ends f s r s'

section Loops

variable {f : β → ℕ → Computation S E (Option α)} {body : β → Computation S E (α ⊕ β)}

/-- The loop takes a turn and is left, or goes on with one turn less. -/
def Unrolls (f : β → ℕ → Computation S E (Option α)) (body : β → Computation S E (α ⊕ β)) : Prop :=
  ∀ b n, f b (n + 1) = body b >>= Sum.elim (fun a => pure (some a)) (fun b' => f b' n)

/-- A loop ends where every turn that goes on leaves less to do. -/
theorem halts_of_rank (unrolls : Unrolls f body) (rank : S → ℕ)
    (down : ∀ b b' s s', body b s = (.ok (.inr b'), s') → rank s' < rank s) (b : β) :
    Halts (f b) := by
  intro s
  induction todo : rank s using Nat.strongRecOn generalizing b s with
  | ind n ih =>
    rcases turn : body b s with ⟨e | a | b', s'⟩
    · refine ⟨.error e, s', 1, fun turns some => ?_⟩
      obtain ⟨n, rfl⟩ := Nat.exists_eq_add_of_le' some
      rw [unrolls, Computation.bind_of_error turn]
      rfl
    · refine ⟨.ok a, s', 1, fun turns some => ?_⟩
      obtain ⟨n, rfl⟩ := Nat.exists_eq_add_of_le' some
      rw [unrolls, Computation.bind_of_ok turn]
      rfl
    · obtain ⟨r, s'', enough, ends⟩ := ih (rank s') (todo ▸ down b b' s s' turn) b' s' rfl
      refine ⟨r, s'', enough + 1, fun turns some => ?_⟩
      obtain ⟨n, rfl⟩ : ∃ n, turns = n + 1 := Nat.exists_eq_add_of_le' (by omega)
      rw [unrolls, Computation.bind_of_ok turn]
      exact ends n (by omega)

/-- The invariant rule: what every turn keeps, and what it ends in when it leaves the loop. -/
theorem Unrolls.rule (unrolls : Unrolls f body) (zero : ∀ b, f b 0 = pure none)
    {I : β → S → Prop} {Q : α → S → Prop}
    (turn : ∀ b, Triple (I b) (body b) (fun r s => r.elim (Q · s) (I · s)) (fun _ _ => True))
    (n : ℕ) (b : β) :
    Triple (I b) (f b n) (fun r s => ∀ a, r = some a → Q a s) (fun _ _ => True) := by
  induction n generalizing b with
  | zero =>
    rw [zero]
    intro s _ a none
    cases none
  | succ n ih =>
    rw [unrolls]
    refine Triple.bind (turn b) (fun r => ?_)
    cases r with
    | inl a =>
      intro s hs a' same
      cases same
      exact hs
    | inr b' => exact ih b'

end Loops

section Rules

variable {f : ℕ → Computation S E (Option α)}

theorem halts_pure (a : α) : Halts (fun _ => (pure (some a) : Computation S E (Option α))) :=
  fun s => ⟨.ok a, s, 0, fun _ _ => rfl⟩

theorem halts_raise (e : E) :
    Halts (fun _ => (Computation.raise e : Computation S E (Option α))) :=
  fun s => ⟨.error e, s, 0, fun _ _ => rfl⟩

theorem Halts.after (m : Computation S E β) {k : β → ℕ → Computation S E (Option α)}
    (halts : ∀ b, Halts (k b)) : Halts (fun n => m >>= fun b => k b n) := by
  intro s
  rcases ended : m s with ⟨e | b, s'⟩
  · exact ⟨.error e, s', 0, fun n _ => Computation.bind_of_error ended _⟩
  · obtain ⟨r, s'', enough, ends⟩ := halts b s'
    exact ⟨r, s'', enough, fun n some => (Computation.bind_of_ok ended _).trans (ends n some)⟩

/-- What follows a computation that ends is only asked what it does of a result. -/
theorem Halts.bind (halts : Halts f) {k : ℕ → Option α → Computation S E (Option γ)}
    (follows : ∀ a, Halts (fun n => k n (some a))) : Halts (fun n => f n >>= k n) := by
  intro s
  obtain ⟨r, s', enough, ends⟩ := halts s
  cases r with
  | error e =>
    exact ⟨.error e, s', enough, fun n some => Computation.bind_of_error (ends n some) _⟩
  | ok a =>
    obtain ⟨r, s'', enough', ends'⟩ := follows a s'
    refine ⟨r, s'', max enough enough', fun n some => ?_⟩
    exact (Computation.bind_of_ok (ends n (Nat.le_trans (Nat.le_max_left _ _) some)) _).trans
      (ends' n (Nat.le_trans (Nat.le_max_right _ _) some))

/-- The same of what follows its outcome. -/
theorem Halts.outcome {E' : Type} (halts : Halts f)
    {k : ℕ → Except E (Option α) → Computation S E' (Option γ)}
    (follows : ∀ r : Except E α, Halts (fun n => k n (r.map some))) :
    Halts (fun n => Computation.outcome (f n) >>= k n) := by
  intro s
  obtain ⟨r, s', enough, ends⟩ := halts s
  obtain ⟨r', s'', enough', ends'⟩ := follows r s'
  refine ⟨r', s'', max enough enough', fun n some => ?_⟩
  have first : (Computation.outcome (f n) : Computation S E' _) s = (.ok (r.map Option.some), s') := by
    rw [Computation.outcome, ends n (Nat.le_trans (Nat.le_max_left _ _) some)]
  exact (Computation.bind_of_ok first _).trans (ends' n (Nat.le_trans (Nat.le_max_right _ _) some))

/-- What holds however many turns it is given holds of how it ends. -/
theorem Ends.post {s s' : S} {r : Except E α} (ends : Ends f s r s') {P : S → Prop}
    {Q : α → S → Prop} (holds : ∀ n, Triple P (f n) (fun o s => ∀ a, o = some a → Q a s)
      (fun _ _ => True)) (start : P s) : ∀ a, r = .ok a → Q a s' := by
  rintro a rfl
  obtain ⟨enough, ends⟩ := ends
  have post := holds enough s start
  rw [ends enough (Nat.le_refl _)] at post
  exact post a rfl

end Rules

end SthBoring.Lib.Fuel
