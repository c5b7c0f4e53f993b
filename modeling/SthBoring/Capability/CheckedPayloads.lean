/- Module: SthBoring/Capability/CheckedPayloads
   source: sdk_test_agent/capability/schema_validation.py, _pydantic_compat.py
   digest: What a payload without errors against the schema of a model looks like. -/

import SthBoring.Capability.ModelAgreement

set_option autoImplicit false
set_option relaxedAutoImplicit false

namespace SthBoring.Capability.CheckedPayloads

open SthBoring.Lib.PyValue (Value Fields PyExc collect)
open SthBoring.Capability.SchemaValidation
open SthBoring.Capability.SchemaAnswers
open SthBoring.Capability.CapabilityIoModels
open SthBoring.Capability.ModelShapes
open SthBoring.Capability.ModelAgreement

section Depth

/-- What the first returns, the second returns too. -/
def Extends {α : Type} (x y : Except PyExc α) : Prop := ∀ a, x = .ok a → y = .ok a

theorem Extends.refl {α : Type} (x : Except PyExc α) : Extends x x := fun _ h => h

theorem Extends.bind {α β : Type} {x y : Except PyExc α} {f g : α → Except PyExc β}
    (first : Extends x y) (next : ∀ a, Extends (f a) (g a)) : Extends (x >>= f) (y >>= g) := by
  intro b h
  cases x with
  | error exc => cases h
  | ok a =>
    rw [first a rfl]
    exact next a b h

/-- A check that rests on the same answer on both sides. -/
theorem Extends.bind_same {α β : Type} (x : Except PyExc α) {f g : α → Except PyExc β}
    (next : ∀ a, Extends (f a) (g a)) : Extends (x >>= f) (x >>= g) :=
  Extends.bind (Extends.refl x) next

theorem Extends.ite {α : Type} {p : Prop} [Decidable p] {x y x' y' : Except PyExc α}
    (yes : Extends x y) (no : Extends x' y') :
    Extends (if p then x else x') (if p then y else y') := by
  by_cases h : p
  · rwa [if_pos h, if_pos h]
  · rwa [if_neg h, if_neg h]

theorem Extends.collect {α β : Type} {f g : α → Except PyExc (List β)} (each : ∀ a, Extends (f a) (g a))
    (xs : List α) : Extends (Lib.PyValue.collect f xs) (Lib.PyValue.collect g xs) := by
  induction xs with
  | nil => exact Extends.refl _
  | cons x xs ih => exact Extends.bind (each x) fun _ => Extends.bind ih fun _ => Extends.refl _

variable {recurse recurse' : Recurse}

theorem extends_branchErrors (deeper : ∀ v s p, Extends (recurse v s p) (recurse' v s p))
    (value : Value) (path : String) (branches : List Value) :
    Extends (branchErrors recurse value path branches) (branchErrors recurse' value path branches) := by
  induction branches with
  | nil => exact Extends.refl _
  | cons branch branches ih =>
    exact Extends.bind (deeper value branch path) fun _ => Extends.bind ih fun _ => Extends.refl _

theorem extends_validateAnyOf (deeper : ∀ v s p, Extends (recurse v s p) (recurse' v s p))
    (value schema : Value) (path : String) :
    Extends (validateAnyOf recurse value schema path) (validateAnyOf recurse' value schema path) := by
  refine Extends.bind_same _ fun anyOf => Extends.bind_same _ fun branches => ?_
  exact Extends.bind (extends_branchErrors deeper value path branches) fun _ => Extends.refl _

theorem extends_validateEntry (deeper : ∀ v s p, Extends (recurse v s p) (recurse' v s p))
    (properties : Value) (path : String) (entry : String × Value) :
    Extends (validateEntry recurse properties path entry)
      (validateEntry recurse' properties path entry) := by
  refine Extends.bind_same _ fun declared => Extends.ite ?_ (Extends.refl _)
  exact Extends.bind_same _ fun subSchema => deeper entry.2 subSchema _

theorem extends_validateObject (deeper : ∀ v s p, Extends (recurse v s p) (recurse' v s p))
    (value schema : Value) (path : String) :
    Extends (validateObject recurse value schema path) (validateObject recurse' value schema path) := by
  cases value with
  | dict entries =>
    refine Extends.bind_same _ fun required => Extends.bind_same _ fun keys => ?_
    refine Extends.bind_same _ fun missing => Extends.bind_same _ fun properties => ?_
    refine Extends.bind_same _ fun additional => ?_
    have nested := Extends.collect (extends_validateEntry deeper properties path) entries
    refine Extends.ite (Extends.bind_same _ fun extra => ?_) (Extends.bind_same _ fun extra => ?_)
    · exact Extends.bind nested fun _ => Extends.refl _
    · exact Extends.bind nested fun _ => Extends.refl _
  | _ => exact Extends.refl _

theorem extends_validateArray (deeper : ∀ v s p, Extends (recurse v s p) (recurse' v s p))
    (value schema : Value) (path : String) :
    Extends (validateArray recurse value schema path) (validateArray recurse' value schema path) := by
  cases value with
  | list items =>
    refine Extends.bind_same _ fun minItems => ?_
    have checked := fun itemSchema =>
      Extends.collect (fun item => deeper item.1 itemSchema s!"{path}[{item.2}]") items.zipIdx
    cases minItems <;> refine Extends.bind_same _ fun short => ?_ <;>
      exact Extends.ite (Extends.refl _) (Extends.bind_same _ checked)
  | _ => exact Extends.refl _

theorem extends_validateTyped (deeper : ∀ v s p, Extends (recurse v s p) (recurse' v s p))
    (value schema : Value) (path : String) :
    Extends (validateTyped recurse value schema path) (validateTyped recurse' value schema path) := by
  refine Extends.bind_same _ fun expectedType => Extends.ite (Extends.refl _) ?_
  refine Extends.ite (extends_validateObject deeper value schema path) ?_
  exact Extends.ite (extends_validateArray deeper value schema path) (Extends.refl _)

/-- What the checker finds, it finds under any higher limit as well. -/
theorem validate_of_le {depth depth' : ℕ} (le : depth ≤ depth') (root value schema : Value)
    (path : String) :
    Extends (validate depth root value schema path) (validate depth' root value schema path) := by
  induction depth generalizing depth' value schema path with
  | zero => exact fun _ h => nomatch h
  | succ depth ih =>
    obtain ⟨depth', rfl⟩ : ∃ d, depth' = d + 1 := ⟨depth' - 1, by omega⟩
    have deeper := ih (Nat.le_of_succ_le_succ le)
    refine Extends.ite (Extends.refl _) ?_
    refine Extends.bind_same _ fun resolved => Extends.bind_same _ fun hasAnyOf => ?_
    refine Extends.ite (extends_validateAnyOf deeper value resolved path) ?_
    refine Extends.bind_same _ fun outside => ?_
    cases outside with
    | some allowed => exact Extends.refl _
    | none => exact extends_validateTyped deeper value resolved path

end Depth

/-- The payload has no errors against the schema of the model. -/
def Passes (model : Annotation) (payload : Value) : Prop :=
  ∃ recursionLimit, validatePayloadAgainstSchema recursionLimit payload (modelJsonSchema model) = .ok []

/-- A payload passes if and only if it has the shape of the model and is within its bounds. -/
theorem passes_iff {model : Annotation} {payload : Value} (grammar : InGrammar model)
    (keyed : Keyed model payload) :
    Passes model payload ↔ HasShape model payload ∧ Within model {} payload := by
  have answer : ∀ limit, height model ≤ limit → Answers
      (validatePayloadAgainstSchema limit payload (modelJsonSchema model))
      (HasShape model payload ∧ Within model {} payload) := by
    intro limit deep
    have found : Answers (validate limit (modelJsonSchema model) payload
        (.dict (schemaForType model ++ boundEntries {})) "$")
        (HasShape model payload ∧ Within model {} payload) :=
      answers_schemaForType grammar keyed deep
    rwa [show boundEntries {} = [] from rfl, List.append_nil] at found
  constructor
  · rintro ⟨limit, clean⟩
    obtain ⟨errors, returned, sound⟩ := answer (max limit (height model)) (Nat.le_max_right _ _)
    have raised := validate_of_le (Nat.le_max_left limit (height model)) _ _ _ _ _ clean
    have same := Except.ok.inj (returned.symm.trans raised)
    exact sound.mp same
  · intro shape
    obtain ⟨errors, returned, sound⟩ := answer (height model) (Nat.le_refl _)
    exact ⟨height model, returned.trans (congrArg Except.ok (sound.mpr shape))⟩

end SthBoring.Capability.CheckedPayloads
