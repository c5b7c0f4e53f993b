/- Module: SthBoring/Lib/Written
   source: none; a vocabulary for computations that write into a log
   digest: What a computation appends to a log in its state, and what a run of them appends. -/

import SthBoring.Lib.Effect

set_option autoImplicit false
set_option relaxedAutoImplicit false

namespace SthBoring.Lib.Written

universe u

open SthBoring.Lib.Effect (Computation Keeps)

variable {S : Type u} {E α β L : Type} (log : S → List L)

/-- Whatever comes of it, the computation only appends to the log, and `W` holds of what it does. -/
def Writes (m : Computation S E α) (W : List L → Prop) : Prop :=
  ∀ s, ∃ entries, log (m s).2 = log s ++ entries ∧ W entries

/-- The computation leaves the log alone. -/
def Silent (m : Computation S E α) : Prop := ∀ s, log (m s).2 = log s

variable {log}

namespace Silent

theorem pure (a : α) : Silent log (Pure.pure a : Computation S E α) := fun _ => rfl

theorem raise (e : E) : Silent log (Computation.raise e : Computation S E α) := fun _ => rfl

theorem read (f : S → α) : Silent log (Computation.read f : Computation S E α) := fun _ => rfl

theorem modify {f : S → S} (h : ∀ s, log (f s) = log s) :
    Silent log (Computation.modify f : Computation S E Unit) := h

theorem lift (x : Except E α) : Silent log (Computation.lift x : Computation S E α) := by
  intro s
  cases x <;> rfl

theorem outcome {E' : Type} {m : Computation S E α} (h : Silent log m) :
    Silent log (Computation.outcome m : Computation S E' (Except E α)) := h

theorem mapError {E' : Type} {m : Computation S E α} (h : Silent log m) (f : E → E') :
    Silent log (Computation.mapError f m) := h

theorem bind {m : Computation S E α} {k : α → Computation S E β} (hm : Silent log m)
    (hk : ∀ a, Silent log (k a)) : Silent log (m >>= k) := by
  intro s
  have first := hm s
  rcases ran : m s with ⟨exc | a, s'⟩ <;> rw [ran] at first
  · rw [Computation.bind_of_error ran]
    exact first
  · rw [Computation.bind_of_ok ran]
    exact (hk a s').trans first

end Silent

namespace Writes

variable {m : Computation S E α} {k : α → Computation S E β} {W U V : List L → Prop}

theorem silent (h : Silent log m) (none : W []) : Writes log m W :=
  fun s => ⟨[], by rw [h s, List.append_nil], none⟩

theorem imp (h : Writes log m U) (weaker : ∀ entries, U entries → W entries) : Writes log m W := by
  intro s
  obtain ⟨entries, written, own⟩ := h s
  exact ⟨entries, written, weaker entries own⟩

/-- What is written before a raise has to do for the whole. -/
theorem bind (hm : Writes log m U) (hk : ∀ a, Writes log (k a) V)
    (cut : ∀ entries, U entries → W entries)
    (join : ∀ first second, U first → V second → W (first ++ second)) :
    Writes log (m >>= k) W := by
  intro s
  obtain ⟨first, written, own⟩ := hm s
  rcases ran : m s with ⟨exc | a, s'⟩ <;> rw [ran] at written
  · rw [Computation.bind_of_error ran]
    exact ⟨first, written, cut first own⟩
  · rw [Computation.bind_of_ok ran]
    obtain ⟨second, later, own'⟩ := hk a s'
    refine ⟨first ++ second, ?_, join first second own own'⟩
    rw [later, written, List.append_assoc]

/-- What comes after a silent computation has a value that the computation did return. -/
theorem after_returned (hm : Silent log m) (none : W [])
    (hk : ∀ a s s', m s = (.ok a, s') → Writes log (k a) W) : Writes log (m >>= k) W := by
  intro s
  have same := hm s
  rcases ran : m s with ⟨exc | a, s'⟩ <;> rw [ran] at same
  · rw [Computation.bind_of_error ran]
    exact ⟨[], by rw [same, List.append_nil], none⟩
  · rw [Computation.bind_of_ok ran, ← same]
    exact hk a s s' ran s'

theorem after (hm : Silent log m) (none : W []) (hk : ∀ a, Writes log (k a) W) :
    Writes log (m >>= k) W := after_returned hm none (fun a _ _ _ => hk a)

theorem after_lift {x : Except E α} (none : W []) (hk : ∀ a, x = .ok a → Writes log (k a) W) :
    Writes log (Computation.lift x >>= k) W := by
  cases x with
  | error exc => exact silent (Silent.raise exc) none
  | ok a => exact hk a rfl

theorem before (hm : Writes log m W) (hk : ∀ a, Silent log (k a)) : Writes log (m >>= k) W := by
  refine bind (V := (· = [])) hm (fun a => silent (hk a) rfl) (fun _ own => own) ?_
  rintro first _ own rfl
  rwa [List.append_nil]

theorem outcome {E' : Type} (h : Writes log m W) :
    Writes log (Computation.outcome m : Computation S E' (Except E α)) W := h

theorem mapError {E' : Type} (h : Writes log m W) (f : E → E') :
    Writes log (Computation.mapError f m) W := h

/-- Entries of one kind, before and after. -/
theorem each {P : L → Prop} (hm : Writes log m (fun entries => ∀ e ∈ entries, P e))
    (hk : ∀ a, Writes log (k a) (fun entries => ∀ e ∈ entries, P e)) :
    Writes log (m >>= k) (fun entries => ∀ e ∈ entries, P e) :=
  bind hm hk (fun _ own => own) (fun _ _ own own' => List.forall_mem_append.mpr ⟨own, own'⟩)

end Writes

section Runs

variable {C : Type} (run : C → Computation S E α)

/-- The state after some commands. Each is run, whatever the ones before it came to. -/
def afterAll (commands : List C) (s : S) : S := commands.foldl (fun s c => (run c s).2) s

variable {run}

theorem afterAll_keeps {I : S → Prop} (each : ∀ c, Keeps I (run c)) (commands : List C) {s : S}
    (h : I s) : I (afterAll run commands s) := by
  induction commands generalizing s with
  | nil => exact h
  | cons c commands ih => exact ih ((each c).after h)

/-- What a run writes is what its commands write, one after the other. -/
theorem written_afterAll {Segment : C → List L → Prop} (each : ∀ c, Writes log (run c) (Segment c))
    (commands : List C) (s : S) :
    ∃ segments, log (afterAll run commands s) = log s ++ segments.flatten ∧
      List.Forall₂ Segment commands segments := by
  induction commands generalizing s with
  | nil => exact ⟨[], by simp [afterAll], .nil⟩
  | cons c commands ih =>
    obtain ⟨first, written, own⟩ := each c s
    obtain ⟨segments, later, others⟩ := ih (run c s).2
    refine ⟨first :: segments, ?_, .cons own others⟩
    rw [List.flatten_cons, ← List.append_assoc, ← written]
    exact later

end Runs

end SthBoring.Lib.Written
