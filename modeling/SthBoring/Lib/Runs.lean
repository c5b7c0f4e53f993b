/- Module: SthBoring/Lib/Runs
   source: none; a vocabulary for systems that take one step after another
   digest: Runs of a step function, with the state before each event. -/

import Mathlib.Data.List.Basic

set_option autoImplicit false
set_option relaxedAutoImplicit false

namespace SthBoring.Lib.Runs

universe u v

variable {S : Type u} {E : Type v} (step : S → E → Option S)

/-- A run from one of the first states. -/
inductive Reaches (initial : S → Prop) : List (S × E) → S → Prop
  | start {s : S} : initial s → Reaches initial [] s
  | step {trace : List (S × E)} {s s' : S} {event : E} :
      Reaches initial trace s → step s event = some s' → Reaches initial (trace ++ [(s, event)]) s'

/-- The steps of some events one after the other. -/
def run : List E → S → Option (List (S × E) × S)
  | [], s => some ([], s)
  | event :: events, s =>
    match step s event with
    | none => none
    | some s' =>
      match run events s' with
      | none => none
      | some (trace, last) => some ((s, event) :: trace, last)

variable {step} {initial : S → Prop} {trace : List (S × E)} {s s' : S}

/-- What holds at the start and is kept by every step that meets a condition holds after every run
whose steps meet it. -/
theorem Reaches.invariant {I : List (S × E) → S → Prop} {C : S → E → Prop}
    (reached : Reaches step initial trace s) (met : ∀ e ∈ trace, C e.1 e.2)
    (first : ∀ s, initial s → I [] s)
    (kept : ∀ trace s event s', I trace s → C s event → step s event = some s' →
      I (trace ++ [(s, event)]) s') : I trace s := by
  induction reached with
  | start isFirst => exact first _ isFirst
  | @step trace s s' event before stepped ih =>
    have earlier := ih fun e mem => met e (List.mem_append_left _ mem)
    exact kept trace s event s' earlier (met (s, event) (by simp)) stepped

theorem Reaches.always {I : List (S × E) → S → Prop} (reached : Reaches step initial trace s)
    (first : ∀ s, initial s → I [] s)
    (kept : ∀ trace s event s', I trace s → step s event = some s' → I (trace ++ [(s, event)]) s') :
    I trace s :=
  reached.invariant (C := fun _ _ => True) (fun _ _ => trivial) first
    fun trace s event s' before _ stepped => kept trace s event s' before stepped

theorem Reaches.run {events : List E} {more : List (S × E)} (reached : Reaches step initial trace s)
    (ran : run step events s = some (more, s')) : Reaches step initial (trace ++ more) s' := by
  induction events generalizing trace more s with
  | nil =>
    cases ran
    rw [List.append_nil]
    exact reached
  | cons event events ih =>
    unfold Runs.run at ran
    split at ran
    · cases ran
    · next next stepped =>
      split at ran
      · cases ran
      · next rest last others =>
        cases ran
        have further := ih (reached.step stepped) others
        rw [List.append_assoc] at further
        exact further

end SthBoring.Lib.Runs
