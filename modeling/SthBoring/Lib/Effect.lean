/- Module: SthBoring/Lib/Effect
   source: none; a vocabulary for code that changes a state and may raise
   digest: Computations over a state with exceptions, and their triples. -/

import Mathlib.Data.List.Basic

set_option autoImplicit false
set_option relaxedAutoImplicit false

namespace SthBoring.Lib.Effect

universe u

/-- A computation over a state that may raise. What it did to the state before stays done. -/
def Computation (S : Type u) (E α : Type) : Type u := S → Except E α × S

variable {S : Type u} {E α β : Type}

namespace Computation

instance : Monad (Computation S E) where
  pure a := fun s => (.ok a, s)
  bind m k := fun s =>
    match m s with
    | (.ok a, s') => k a s'
    | (.error e, s') => (.error e, s')

def raise (e : E) : Computation S E α := fun s => (.error e, s)

/-- Look at the state. -/
def read (f : S → α) : Computation S E α := fun s => (.ok (f s), s)

def modify (f : S → S) : Computation S E Unit := fun s => (.ok (), f s)

/-- A pure step that may raise. -/
def lift : Except E α → Computation S E α
  | .ok a => pure a
  | .error e => raise e

/-- Run a computation for each item and collect the results. -/
def each (f : α → Computation S E β) : List α → Computation S E (List β)
  | [] => pure []
  | x :: xs => do
    let y ← f x
    let ys ← each f xs
    return y :: ys

/-- `try`: what the computation ends in, as a value. -/
def outcome {E' : Type} (m : Computation S E α) : Computation S E' (Except E α) :=
  fun s => (.ok (m s).1, (m s).2)

def mapError {E' : Type} (f : E → E') (m : Computation S E α) : Computation S E' α :=
  fun s => ((m s).1.mapError f, (m s).2)

/-- Run a computation on a part of the state. -/
def within {T : Type u} (get : S → T) (put : T → S → S) (m : Computation T E α) :
    Computation S E α :=
  fun s => ((m (get s)).1, put (m (get s)).2 s)

theorem bind_of_ok {m : Computation S E α} {s s' : S} {a : α} (h : m s = (.ok a, s'))
    (k : α → Computation S E β) : (m >>= k) s = k a s' := by
  change (match m s with
    | (.ok a, s') => k a s'
    | (.error e, s') => (.error e, s')) = k a s'
  rw [h]

theorem bind_of_error {m : Computation S E α} {s s' : S} {e : E} (h : m s = (.error e, s'))
    (k : α → Computation S E β) : (m >>= k) s = (.error e, s') := by
  change (match m s with
    | (.ok a, s') => k a s'
    | (.error e, s') => (.error e, s')) = (.error e, s')
  rw [h]

/-- A pure step that does not raise is not seen. -/
theorem lift_bind {x : Except E α} {a : α} (h : x = .ok a) (k : α → Computation S E β) :
    (lift x >>= k) = k a := by
  rw [h]
  rfl

theorem each_cons_of_ok {f : α → Computation S E β} {x : α} {xs : List α} {s s' s'' : S} {y : β}
    {ys : List β} (first : f x s = (.ok y, s')) (rest : each f xs s' = (.ok ys, s'')) :
    each f (x :: xs) s = (.ok (y :: ys), s'') :=
  (bind_of_ok first _).trans (bind_of_ok rest _)

/-- What a computation in two parts returns, its second part returns from where the first ends. -/
theorem ok_of_bind {m : Computation S E α} {k : α → Computation S E β} {s s'' : S} {b : β}
    (h : (m >>= k) s = (.ok b, s'')) : ∃ a s', m s = (.ok a, s') ∧ k a s' = (.ok b, s'') := by
  rcases hm : m s with ⟨e | a, s'⟩
  · rw [bind_of_error hm] at h
    cases h
  · rw [bind_of_ok hm] at h
    exact ⟨a, s', rfl, h⟩

theorem ok_of_lift {x : Except E α} {s s' : S} {a : α} (h : lift x s = (.ok a, s')) :
    x = .ok a ∧ s' = s := by
  cases x with
  | error e => cases h
  | ok b =>
    cases h
    exact ⟨rfl, rfl⟩

private theorem id_map' (m : Computation S E α) : id <$> m = m := by
  funext s
  change (match m s with
    | (.ok a, s') => (.ok a, s')
    | (.error e, s') => (.error e, s')) = m s
  rcases m s with ⟨e | a, s'⟩ <;> rfl

private theorem bind_assoc' {γ : Type} (m : Computation S E α) (k : α → Computation S E β)
    (l : β → Computation S E γ) : m >>= k >>= l = m >>= fun a => k a >>= l := by
  funext s
  rcases hm : m s with ⟨e | a, s'⟩
  · rw [bind_of_error (bind_of_error hm k) l, bind_of_error hm]
  · rw [bind_of_ok hm]
    rcases hk : k a s' with ⟨e | b, s''⟩
    · rw [bind_of_error hk l, bind_of_error ((bind_of_ok hm k).trans hk) l]
    · rw [bind_of_ok hk l, bind_of_ok ((bind_of_ok hm k).trans hk) l]

instance : LawfulMonad (Computation S E) :=
  LawfulMonad.mk' (Computation S E) id_map' (fun _ _ => rfl) bind_assoc'

end Computation

/-- A postcondition for each of the two ways a computation ends. -/
def Post (Q : α → S → Prop) (R : E → S → Prop) : Except E α × S → Prop
  | (.ok a, s) => Q a s
  | (.error e, s) => R e s

theorem Post.snd {I : S → Prop} {r : Except E α × S}
    (h : Post (fun _ => I) (fun _ => I) r) : I r.2 := by
  rcases r with ⟨e | a, s⟩ <;> exact h

def Triple (P : S → Prop) (m : Computation S E α) (Q : α → S → Prop) (R : E → S → Prop) : Prop :=
  ∀ s, P s → Post Q R (m s)

namespace Triple

variable {P : S → Prop} {Q : α → S → Prop} {R : E → S → Prop}

theorem pure {a : α} (h : ∀ s, P s → Q a s) : Triple P (Pure.pure a : Computation S E α) Q R := h

theorem bind {m : Computation S E α} {k : α → Computation S E β} {Q' : β → S → Prop}
    (hm : Triple P m Q R) (hk : ∀ a, Triple (Q a) (k a) Q' R) : Triple P (m >>= k) Q' R := by
  intro s hs
  have first := hm s hs
  change Post Q' R (match m s with
    | (.ok a, s') => k a s'
    | (.error e, s') => (.error e, s'))
  generalize m s = r at first ⊢
  rcases r with ⟨e | a, s'⟩
  · exact first
  · exact hk a s' first

theorem raise {e : E} (h : ∀ s, P s → R e s) : Triple P (Computation.raise e : Computation S E α) Q R := h

theorem read {f : S → α} (h : ∀ s, P s → Q (f s) s) : Triple P (Computation.read f : Computation S E α) Q R :=
  h

theorem modify {f : S → S} {Q : Unit → S → Prop} (h : ∀ s, P s → Q () (f s)) :
    Triple P (Computation.modify f : Computation S E Unit) Q R := h

theorem lift {x : Except E α} (ok : ∀ a, x = .ok a → ∀ s, P s → Q a s)
    (error : ∀ e, x = .error e → ∀ s, P s → R e s) :
    Triple P (Computation.lift x : Computation S E α) Q R := by
  intro s hs
  cases x with
  | ok a => exact ok a rfl s hs
  | error e => exact error e rfl s hs

/-- Nothing is promised. -/
theorem any (m : Computation S E α) : Triple P m (fun _ _ => True) (fun _ _ => True) := by
  intro s _
  rcases m s with ⟨e | a, s'⟩ <;> exact trivial

theorem outcome {E' : Type} {m : Computation S E α} (h : Triple P m Q R) (R' : E' → S → Prop) :
    Triple P (Computation.outcome m : Computation S E' (Except E α))
      (fun r s => Post Q R (r, s)) R' :=
  h

/-- An exception under another name leaves the state that the first one left. -/
theorem mapError {E' : Type} {m : Computation S E α} {R' : E' → S → Prop} (f : E → E')
    (h : Triple P m Q R) (hR : ∀ e s, R e s → R' (f e) s) :
    Triple P (Computation.mapError f m) Q R' := by
  intro s hs
  have post := h s hs
  rcases hm : m s with ⟨e | a, s'⟩ <;> rw [hm] at post
  · simpa [Computation.mapError, hm, Post, Except.mapError] using hR e s' post
  · simpa [Computation.mapError, hm, Post, Except.mapError] using post

theorem and {m : Computation S E α} {Q' : α → S → Prop} {R' : E → S → Prop} (h : Triple P m Q R)
    (h' : Triple P m Q' R') :
    Triple P m (fun a s => Q a s ∧ Q' a s) (fun e s => R e s ∧ R' e s) := by
  intro s hs
  have post := h s hs
  have post' := h' s hs
  rcases hm : m s with ⟨e | a, s'⟩ <;> rw [hm] at post post' <;> exact ⟨post, post'⟩

theorem imp {P' : S → Prop} {m : Computation S E α} {Q' : α → S → Prop} {R' : E → S → Prop}
    (h : Triple P' m Q' R') (hP : ∀ s, P s → P' s) (hQ : ∀ a s, Q' a s → Q a s)
    (hR : ∀ e s, R' e s → R e s) : Triple P m Q R := by
  intro s hs
  have post := h s (hP s hs)
  rcases hm : m s with ⟨e | a, s'⟩
  · rw [hm] at post
    exact hR e s' post
  · rw [hm] at post
    exact hQ a s' post

/-- A computation whose end from one state is known. -/
theorem exactly {m : Computation S E α} {s s' : S} {a : α} (h : m s = (.ok a, s')) :
    Triple (fun t => t = s) m (fun b t => b = a ∧ t = s') R := by
  rintro t rfl
  rw [h]
  exact ⟨rfl, rfl⟩

theorem endsIn {m : Computation S E α} {s : S} {I : S → Prop} (h : I (m s).2) :
    Triple (fun t => t = s) m (fun _ => I) (fun _ => I) := by
  rintro t rfl
  rcases ended : m t with ⟨e | a, t'⟩ <;> rw [ended] at h
  · exact h
  · exact h

end Triple

/-- The computation keeps a property of the state, however it ends. -/
def Keeps (I : S → Prop) (m : Computation S E α) : Prop :=
  Triple I m (fun _ => I) (fun _ => I)

namespace Keeps

variable {I : S → Prop}

theorem pure (a : α) : Keeps I (Pure.pure a : Computation S E α) := fun _ h => h

theorem bind {m : Computation S E α} {k : α → Computation S E β} (hm : Keeps I m)
    (hk : ∀ a, Keeps I (k a)) : Keeps I (m >>= k) :=
  Triple.bind hm hk

theorem raise (e : E) : Keeps I (Computation.raise e : Computation S E α) := fun _ h => h

theorem read (f : S → α) : Keeps I (Computation.read f : Computation S E α) := fun _ h => h

theorem modify {f : S → S} (h : ∀ s, I s → I (f s)) : Keeps I (Computation.modify f : Computation S E Unit) :=
  h

theorem lift (x : Except E α) : Keeps I (Computation.lift x : Computation S E α) := by
  cases x with
  | ok a => exact pure a
  | error e => exact raise e

/-- What follows a pure step may rest on its outcome. -/
theorem bind_lift {x : Except E α} {k : α → Computation S E β}
    (h : ∀ a, x = .ok a → Keeps I (k a)) : Keeps I (Computation.lift x >>= k) := by
  have made : Triple I (Computation.lift x) (fun a s => I s ∧ x = .ok a) (fun _ => I) :=
    Triple.lift (fun a ha s hs => ⟨hs, ha⟩) (fun _ _ _ hs => hs)
  exact Triple.bind made (fun a s hs => h a hs.2 s hs.1)

theorem outcome {E' : Type} {m : Computation S E α} (h : Keeps I m) :
    Keeps I (Computation.outcome m : Computation S E' (Except E α)) := by
  intro s hs
  have post := h s hs
  rcases hm : m s with ⟨e | a, s'⟩ <;> rw [hm] at post <;>
    simpa [Computation.outcome, hm, Post] using post

theorem within {T : Type u} {get : S → T} {put : T → S → S}
    (m : Computation T E α) (h : ∀ t s, I s → I (put t s)) : Keeps I (Computation.within get put m) := by
  intro s hs
  have moved := h (m (get s)).2 s hs
  rcases hm : m (get s) with ⟨e | a, t⟩ <;> rw [hm] at moved <;>
    simpa [Computation.within, hm, Post] using moved

/-- What a computation on a part keeps of the part is kept of the whole. -/
theorem part {T : Type u} {get : S → T} {put : T → S → S} {J : T → Prop} {m : Computation T E α}
    (h : Keeps J m) (laid : ∀ t s, get (put t s) = t) :
    Keeps (fun s => J (get s)) (Computation.within get put m) := by
  intro s hs
  have moved : J (get (put (m (get s)).2 s)) := by
    rw [laid]
    exact (h (get s) hs).snd
  rcases hm : m (get s) with ⟨e | a, t⟩ <;> rw [hm] at moved <;>
    simpa [Computation.within, hm, Post] using moved

theorem each {f : α → Computation S E β} {xs : List α} (h : ∀ x ∈ xs, Keeps I (f x)) :
    Keeps I (Computation.each f xs) := by
  induction xs with
  | nil => exact pure []
  | cons x xs ih =>
    refine bind (h x List.mem_cons_self) (fun y => ?_)
    refine bind (ih (fun x' hx' => h x' (List.mem_cons_of_mem x hx'))) (fun ys => ?_)
    exact pure (y :: ys)

/-- The same, with nothing asked of the exceptions. -/
theorem triple {m : Computation S E α} (h : Keeps I m) :
    Triple I m (fun _ => I) (fun _ _ => True) :=
  Triple.imp h (fun _ hs => hs) (fun _ _ hs => hs) (fun _ _ _ => trivial)

/-- The state after a computation that keeps a property. -/
theorem after {m : Computation S E α} (h : Keeps I m) {s : S} (hs : I s) : I (m s).2 :=
  (h s hs).snd

theorem after_ok {m : Computation S E α} (h : Keeps I m) {s s' : S} {a : α}
    (ran : m s = (.ok a, s')) (hs : I s) : I s' := by
  have kept := h.after hs
  rwa [ran] at kept

end Keeps

/-- From where the precondition holds, the computation does not raise. -/
structure Completes (P : S → Prop) (m : Computation S E α) (Q : α → S → Prop) : Prop where
  ends : ∀ s, P s → ∃ a s', m s = (.ok a, s') ∧ Q a s'

namespace Completes

variable {P : S → Prop} {Q : α → S → Prop}

theorem pure {a : α} (h : ∀ s, P s → Q a s) : Completes P (Pure.pure a : Computation S E α) Q :=
  ⟨fun s hs => ⟨a, s, rfl, h s hs⟩⟩

theorem bind {m : Computation S E α} {k : α → Computation S E β} {Q' : β → S → Prop}
    (hm : Completes P m Q) (hk : ∀ a, Completes (Q a) (k a) Q') : Completes P (m >>= k) Q' := by
  refine ⟨fun s hs => ?_⟩
  obtain ⟨a, s', first, post⟩ := hm.ends s hs
  obtain ⟨b, s'', rest, post'⟩ := (hk a).ends s' post
  exact ⟨b, s'', (Computation.bind_of_ok first k).trans rest, post'⟩

/-- A fact that the precondition has beside the state. -/
theorem given {A : Prop} {m : Computation S E α} (h : A → Completes P m Q) :
    Completes (fun s => A ∧ P s) m Q :=
  ⟨fun s hs => (h hs.1).ends s hs.2⟩

theorem some {ι : Type} {P : ι → S → Prop} {m : Computation S E α} (h : ∀ i, Completes (P i) m Q) :
    Completes (fun s => ∃ i, P i s) m Q :=
  ⟨fun s ⟨i, hs⟩ => (h i).ends s hs⟩

theorem within {T : Type u} {get : S → T} {put : T → S → S} {m : Computation T E α}
    {P' : T → Prop} {Q' : α → T → Prop} (h : Completes P' m Q') (hP : ∀ s, P s → P' (get s))
    (hQ : ∀ a t s, P s → Q' a t → Q a (put t s)) : Completes P (Computation.within get put m) Q := by
  refine ⟨fun s hs => ?_⟩
  obtain ⟨a, t, ran, post⟩ := h.ends (get s) (hP s hs)
  refine ⟨a, put t s, ?_, hQ a t s hs post⟩
  rw [Computation.within, ran]

end Completes

/-- The computation does not raise. -/
def Total (m : Computation S E α) : Prop := ∀ s, ∃ a s', m s = (.ok a, s')

namespace Total

theorem pure (a : α) : Total (Pure.pure a : Computation S E α) := fun s => ⟨a, s, rfl⟩

theorem read (f : S → α) : Total (Computation.read f : Computation S E α) := fun s => ⟨f s, s, rfl⟩

theorem modify (f : S → S) : Total (Computation.modify f : Computation S E Unit) :=
  fun s => ⟨(), f s, rfl⟩

theorem lift {x : Except E α} {a : α} (h : x = .ok a) :
    Total (Computation.lift x : Computation S E α) := by
  rw [h]
  exact pure a

theorem outcome {E' : Type} (m : Computation S E α) :
    Total (Computation.outcome m : Computation S E' (Except E α)) :=
  fun s => ⟨(m s).1, (m s).2, rfl⟩

theorem bind {m : Computation S E α} {k : α → Computation S E β} (hm : Total m)
    (hk : ∀ a, Total (k a)) : Total (m >>= k) := by
  intro s
  obtain ⟨a, s', h⟩ := hm s
  obtain ⟨b, s'', h'⟩ := hk a s'
  exact ⟨b, s'', (Computation.bind_of_ok h k).trans h'⟩

end Total

/-- The computation raises. -/
def Raises (m : Computation S E α) : Prop := ∀ s, ∃ e s', m s = (.error e, s')

namespace Raises

theorem lift {x : Except E α} {e : E} (h : x = .error e) :
    Raises (Computation.lift x : Computation S E α) := by
  rw [h]
  exact fun s => ⟨e, s, rfl⟩

theorem left {m : Computation S E α} (h : Raises m) (k : α → Computation S E β) :
    Raises (m >>= k) := by
  intro s
  obtain ⟨e, s', hm⟩ := h s
  exact ⟨e, s', Computation.bind_of_error hm k⟩

theorem right {m : Computation S E α} {k : α → Computation S E β} (hk : ∀ a, Raises (k a)) :
    Raises (m >>= k) := by
  intro s
  rcases hm : m s with ⟨e | a, s'⟩
  · exact ⟨e, s', Computation.bind_of_error hm k⟩
  · obtain ⟨e, s'', h⟩ := hk a s'
    exact ⟨e, s'', (Computation.bind_of_ok hm k).trans h⟩

end Raises

/-- The computation ends so from every state. -/
def Settles (m : Computation S E α) (r : Except E α) : Prop := ∀ s, (m s).1 = r

namespace Settles

theorem pure (a : α) : Settles (Pure.pure a : Computation S E α) (.ok a) := fun _ => rfl

theorem modify (f : S → S) : Settles (Computation.modify f : Computation S E Unit) (.ok ()) :=
  fun _ => rfl

theorem lift (x : Except E α) : Settles (Computation.lift x : Computation S E α) x := by
  intro s
  cases x <;> rfl

theorem outcome {E' : Type} {m : Computation S E α} {r : Except E α} (h : Settles m r) :
    Settles (Computation.outcome m : Computation S E' (Except E α)) (.ok r) := by
  intro s
  rw [Computation.outcome, h s]

theorem within {T : Type u} {get : S → T} {put : T → S → S} {m : Computation T E α}
    {r : Except E α} (h : Settles m r) : Settles (Computation.within get put m) r :=
  fun s => h (get s)

theorem bind {m : Computation S E α} {k : α → Computation S E β} {a : α} {r : Except E β}
    (hm : Settles m (.ok a)) (hk : Settles (k a) r) : Settles (m >>= k) r := by
  intro s
  have ran : m s = (.ok a, (m s).2) := Prod.ext (hm s) rfl
  rw [Computation.bind_of_ok ran]
  exact hk (m s).2

theorem bind_error {m : Computation S E α} {e : E} (h : Settles m (.error e))
    (k : α → Computation S E β) : Settles (m >>= k) (.error e) := by
  intro s
  have ran : m s = (.error e, (m s).2) := Prod.ext (h s) rfl
  rw [Computation.bind_of_error ran]

/-- What the first part returns may vary, if the second part does not care. -/
theorem bind_any {m : Computation S E α} {k : α → Computation S E β} {r : Except E β}
    (hm : Total m) (hk : ∀ a, Settles (k a) r) : Settles (m >>= k) r := by
  intro s
  obtain ⟨a, s', ran⟩ := hm s
  rw [Computation.bind_of_ok ran]
  exact hk a s'

end Settles

/-- Whatever the computation returns has the property. -/
def Returns (Q : α → Prop) (m : Computation S E α) : Prop :=
  Triple (fun _ => True) m (fun a _ => Q a) (fun _ _ => True)

namespace Returns

variable {Q : α → Prop}

theorem pure {a : α} (h : Q a) : Returns Q (Pure.pure a : Computation S E α) := fun _ _ => h

theorem raise (e : E) : Returns Q (Computation.raise e : Computation S E α) := fun _ _ => trivial

theorem bind {m : Computation S E β} {k : β → Computation S E α} (h : ∀ b, Returns Q (k b)) :
    Returns Q (m >>= k) :=
  Triple.bind (Triple.any m) h

theorem lift {x : Except E α} (h : ∀ a, x = .ok a → Q a) :
    Returns Q (Computation.lift x : Computation S E α) :=
  Triple.lift (fun a ha _ _ => h a ha) (fun _ _ _ _ => trivial)

/-- What the first part returns may be used of the second. -/
theorem bind_of {Q' : β → Prop} {m : Computation S E β} {k : β → Computation S E α}
    (hm : Returns Q' m) (hk : ∀ b, Q' b → Returns Q (k b)) : Returns Q (m >>= k) :=
  Triple.bind hm (fun b s hb => hk b hb s trivial)

theorem imp {Q' : α → Prop} {m : Computation S E α} (h : Returns Q m) (weaker : ∀ a, Q a → Q' a) :
    Returns Q' m :=
  Triple.imp h (fun _ hs => hs) (fun a _ => weaker a) (fun _ _ => id)

theorem of_ok {m : Computation S E α} (h : Returns Q m) {s s' : S} {a : α}
    (hm : m s = (.ok a, s')) : Q a := by
  have post := h s trivial
  rw [hm] at post
  exact post

end Returns

end SthBoring.Lib.Effect
