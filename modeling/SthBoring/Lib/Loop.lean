/- Module: SthBoring/Lib/Loop
   source: the for statement with early return
   digest: List loops that may be left early, and their invariant rule. -/

import Mathlib.Data.List.Basic
import Mathlib.Data.List.Infix

set_option autoImplicit false
set_option relaxedAutoImplicit false

namespace SthBoring.Lib.Loop

universe u v w

variable {α : Type u} {S : Type v} {E : Type w}

/-- What one turn of a loop body asks for: the next turn, or to leave the loop. -/
inductive Flow (S : Type v) (E : Type w) where
  | next (s : S)
  | exit (e : E)

/-- The loop `for x in xs: body`. -/
def loop (body : α → S → Flow S E) : List α → S → Flow S E
  | [], s => .next s
  | x :: xs, s =>
    match body x s with
    | .next s' => loop body xs s'
    | .exit e => .exit e

/-- A postcondition for each of the two ways a loop ends. -/
def Flow.Holds (P : S → Prop) (Q : E → Prop) : Flow S E → Prop
  | .next s => P s
  | .exit e => Q e

@[simp] theorem Flow.holds_next (P : S → Prop) (Q : E → Prop) (s : S) :
    (Flow.next s : Flow S E).Holds P Q ↔ P s := Iff.rfl

@[simp] theorem Flow.holds_exit (P : S → Prop) (Q : E → Prop) (e : E) :
    (Flow.exit e : Flow S E).Holds P Q ↔ Q e := Iff.rfl

theorem Flow.Holds.imp {P P' : S → Prop} {Q Q' : E → Prop} {f : Flow S E}
    (h : f.Holds P Q) (hP : ∀ s, P s → P' s) (hQ : ∀ e, Q e → Q' e) : f.Holds P' Q' := by
  cases f with
  | next s => exact hP s h
  | exit e => exact hQ e h

@[simp] theorem loop_nil (body : α → S → Flow S E) (s : S) : loop body [] s = .next s := rfl

theorem loop_append (body : α → S → Flow S E) (xs ys : List α) (s : S) :
    loop body (xs ++ ys) s = match loop body xs s with
      | .next s' => loop body ys s'
      | .exit e => .exit e := by
  induction xs generalizing s with
  | nil => rfl
  | cons x xs ih =>
    simp only [List.cons_append, loop]
    cases body x s with
    | next s' => exact ih s'
    | exit e => rfl

private theorem loop_rule_from {body : α → S → Flow S E} {I : List α → S → Prop}
    {all : List α}
    (turn : ∀ done x rest s s', all = done ++ x :: rest → I done s → body x s = .next s' →
      I (done ++ [x]) s')
    (done rest : List α) (s : S) (split : all = done ++ rest) (start : I done s) :
    (loop body rest s).Holds (I all) (fun e => ∃ before x after s', all = before ++ x :: after ∧
      I before s' ∧ body x s' = .exit e) := by
  induction rest generalizing done s with
  | nil =>
    rw [List.append_nil] at split
    exact split ▸ start
  | cons x rest ih =>
    have split' : all = (done ++ [x]) ++ rest := by simpa using split
    simp only [loop]
    cases hb : body x s with
    | next s' => exact ih (done ++ [x]) s' split' (turn done x rest s s' split start hb)
    | exit e => exact ⟨done, x, rest, s, split, start, hb⟩

/-- The invariant rule. `I done` holds whenever the items `done` are behind the loop. A loop
that is left early is left by one turn, taken in a state where the invariant held. -/
theorem loop_rule (body : α → S → Flow S E) (I : List α → S → Prop) (all : List α)
    (s : S) (start : I [] s)
    (turn : ∀ done x rest s s', all = done ++ x :: rest → I done s → body x s = .next s' →
      I (done ++ [x]) s') :
    (loop body all s).Holds (I all) (fun e => ∃ before x after s', all = before ++ x :: after ∧
      I before s' ∧ body x s' = .exit e) :=
  loop_rule_from turn [] all s rfl start

end SthBoring.Lib.Loop
