/- Module: SthBoring/Capability/ModelShapes
   source: sdk_test_agent/capability/_pydantic_compat.py
   digest: Which payloads the models of the fallback layer take. -/

import SthBoring.Lib.JsonValue
import SthBoring.Capability.ModelValidation

set_option autoImplicit false
set_option relaxedAutoImplicit false

namespace SthBoring.Capability.ModelShapes

open SthBoring.Lib.OrderedDict (assocGet assocGet_eq_none_iff)
open SthBoring.Lib.PyValue (Value Fields)
open SthBoring.Lib.JsonValue
open SthBoring.Capability.CapabilityIoModels
open SthBoring.Capability.ModelValidation

section Induction

variable {P : Annotation → Prop}

/-- The cases of an induction over annotations. -/
structure Cases (P : Annotation → Prop) : Prop where
  any : P .any
  str : P .str
  int : P .int
  bool : P .bool
  float : P .float
  null : P .null
  dict : P .dict
  list : ∀ item, P item → P (.list item)
  tuple : ∀ item, P item → P (.tuple item)
  union : ∀ args, (∀ a ∈ args, P a) → P (.union args)
  literal : ∀ values, P (.literal values)
  enum : ∀ name values, P (.enum name values)
  model : ∀ name extra (fields : FieldSpecs), (∀ f ∈ fields, P f.2.1) → P (.model name extra fields)

mutual

theorem Cases.all (h : Cases P) (a : Annotation) : P a := by
  cases a with
  | any => exact h.any
  | str => exact h.str
  | int => exact h.int
  | bool => exact h.bool
  | float => exact h.float
  | null => exact h.null
  | dict => exact h.dict
  | list item => exact h.list item (h.all item)
  | tuple item => exact h.tuple item (h.all item)
  | union args => exact h.union args (h.members args)
  | literal values => exact h.literal values
  | enum name values => exact h.enum name values
  | model name extra fields => exact h.model name extra fields (h.fields fields)

theorem Cases.members (h : Cases P) (args : List Annotation) : ∀ a ∈ args, P a := by
  cases args with
  | nil => exact nofun
  | cons a as => exact List.forall_mem_cons.mpr ⟨h.all a, h.members as⟩

theorem Cases.fields (h : Cases P) (fields : List (String × Annotation × FieldInfo)) :
    ∀ f ∈ fields, P f.2.1 := by
  cases fields with
  | nil => exact nofun
  | cons f fs =>
    obtain ⟨name, annotation, info⟩ := f
    exact List.forall_mem_cons.mpr ⟨h.all annotation, h.fields fs⟩

end

/-- Induction over annotations, with a hypothesis for each member of a union and each field. -/
@[elab_as_elim]
theorem annotation_induction {motive : Annotation → Prop} (any : motive .any) (str : motive .str)
    (int : motive .int) (bool : motive .bool) (float : motive .float) (null : motive .null)
    (dict : motive .dict) (list : ∀ item, motive item → motive (.list item))
    (tuple : ∀ item, motive item → motive (.tuple item))
    (union : ∀ args, (∀ a ∈ args, motive a) → motive (.union args))
    (literal : ∀ values, motive (.literal values))
    (enum : ∀ name values, motive (.enum name values))
    (model : ∀ name extra (fields : FieldSpecs), (∀ f ∈ fields, motive f.2.1) →
      motive (.model name extra fields)) (a : Annotation) : motive a :=
  Cases.all ⟨any, str, int, bool, float, null, dict, list, tuple, union, literal, enum, model⟩ a

end Induction

section Shape

mutual

/-- The payload has the shape that the annotation describes, the bounds of `Field` aside, and
where `NoneType` describes everything. -/
def HasShape : Annotation → Value → Prop
  | .any, _ => True
  | .null, _ => True
  | .str, v => v.isStr = true
  | .int, v => v.isInt = true
  | .bool, v => v.isBool = true
  | .float, v => isFloat v = true
  | .dict, v => isDict v = true
  | .list item, v => ∃ xs, v = .list xs ∧ ∀ x ∈ xs, HasShape item x
  | .tuple item, v => ∃ xs, v = .list xs ∧ ∀ x ∈ xs, HasShape item x
  | .union args, v => SomeShape args v
  | .literal values, v => (values.any fun s => (Value.str s).pyEq v) = true
  | .enum _ values, v => (values.any fun s => (Value.str s).pyEq v) = true
  | .model _ extra fields, v => ∃ entries, v = .dict entries ∧
      (extra = .forbid → ∀ e ∈ entries, e.1 ∈ fields.map Prod.fst) ∧ FieldShapes fields entries

def SomeShape : List Annotation → Value → Prop
  | [], _ => False
  | a :: as, v => HasShape a v ∨ SomeShape as v

/-- The required fields are there, and each that is there has its shape. -/
def FieldShapes : List (String × Annotation × FieldInfo) → Fields → Prop
  | [], _ => True
  | (name, annotation, info) :: fields, entries =>
    (info.required = true → (entries.get name).isSome = true) ∧
      (∀ v, entries.get name = some v → HasShape annotation v) ∧ FieldShapes fields entries

end

mutual

/-- Every default of the models fits its own annotation; no field's name stands twice, and no
field is a float. -/
def InGrammar : Annotation → Prop
  | .float => False
  | .list item => InGrammar item
  | .tuple item => InGrammar item
  | .union args => AllInGrammar args
  | .model _ _ fields => (fields.map Prod.fst).Nodup ∧ FieldsInGrammar fields
  | _ => True

def AllInGrammar : List Annotation → Prop
  | [] => True
  | a :: as => InGrammar a ∧ AllInGrammar as

def FieldsInGrammar : List (String × Annotation × FieldInfo) → Prop
  | [] => True
  | (name, annotation, info) :: fields => InGrammar annotation ∧
      (info.required = false → ∃ w, coerceValue annotation info.default name = .ok w) ∧
      FieldsInGrammar fields

end

variable {args : List Annotation} {fields : FieldSpecs} {entries : Fields} {v : Value}

theorem someShape_iff : SomeShape args v ↔ ∃ a ∈ args, HasShape a v := by
  induction args with
  | nil => simp [SomeShape]
  | cons a as ih => rw [SomeShape, ih, List.exists_mem_cons_iff]

theorem fieldShapes_iff : FieldShapes fields entries ↔ ∀ f ∈ fields,
    (f.2.2.required = true → (entries.get f.1).isSome = true) ∧
      ∀ v, entries.get f.1 = some v → HasShape f.2.1 v := by
  induction fields with
  | nil => exact iff_of_true trivial nofun
  | cons f fields ih =>
    obtain ⟨name, annotation, info⟩ := f
    rw [FieldShapes, ih, List.forall_mem_cons, and_assoc]

theorem allInGrammar_iff : AllInGrammar args ↔ ∀ a ∈ args, InGrammar a := by
  induction args with
  | nil => exact iff_of_true trivial nofun
  | cons a as ih => rw [AllInGrammar, ih, List.forall_mem_cons]

theorem fieldsInGrammar_iff : FieldsInGrammar fields ↔ ∀ f ∈ fields, InGrammar f.2.1 ∧
    (f.2.2.required = false → ∃ w, coerceValue f.2.1 f.2.2.default f.1 = .ok w) := by
  induction fields with
  | nil => exact iff_of_true trivial nofun
  | cons f fields ih =>
    obtain ⟨name, annotation, info⟩ := f
    rw [FieldsInGrammar, ih, List.forall_mem_cons, and_assoc]

end Shape

section Coercion

variable {value : Value} {path : String}

theorem coerceScalar_ok_iff {fits : Bool} {what : String} :
    (∃ w, coerceScalar fits what value path = .ok w) ↔ fits = true := by
  unfold coerceScalar
  cases fits <;> simp

theorem coerceItems_ok_iff {coerce : Value → Coerced Value} {what : String} :
    (∃ w, coerceItems coerce what value path = .ok w) ↔
      ∃ xs, value = .list xs ∧ ∀ x ∈ xs, ∃ w, coerce x = .ok w := by
  cases value with
  | list xs =>
    simp only [coerceItems, Value.list.injEq, exists_eq_left', ← coerceEach_eq_ok_iff]
    cases coerceEach coerce xs <;> simp [bind, Except.bind, pure, Except.pure]
  | _ => simp [coerceItems]

theorem coerceUnion_ok_iff {args : List Annotation} {errors : List String} :
    (∃ w, coerceUnion args value path errors = .ok w) ↔
      ∃ a ∈ args, ∃ w, coerceValue a value path = .ok w := by
  induction args generalizing errors with
  | nil => simp [coerceUnion]
  | cons a as ih =>
    rw [List.exists_mem_cons_iff, coerceUnion]
    cases coerceValue a value path with
    | ok w => simp
    | error es => simpa using ih

theorem coerceScalar_ne_error_nil {fits : Bool} {what : String} :
    coerceScalar fits what value path ≠ .error [] := by
  unfold coerceScalar
  cases fits <;> simp [expected]

theorem coerceItems_ne_error_nil {coerce : Value → Coerced Value} {what : String}
    (each : ∀ v, coerce v ≠ .error []) : coerceItems coerce what value path ≠ .error [] := by
  cases value with
  | list xs =>
    have all : coerceEach coerce xs ≠ .error [] := by
      induction xs with
      | nil => simp [coerceEach]
      | cons x xs ih =>
        have head := each x
        simp only [coerceEach]
        cases found : coerce x with
        | error es =>
          rw [found] at head
          simpa [bind, Except.bind] using head
        | ok w =>
          cases rest : coerceEach coerce xs with
          | error es =>
            rw [rest] at ih
            simpa [bind, Except.bind] using ih
          | ok ws => simp [bind, Except.bind, pure, Except.pure]
    simp only [coerceItems]
    cases found : coerceEach coerce xs with
    | error es =>
      rw [found] at all
      simpa [bind, Except.bind] using all
    | ok ws => simp [bind, Except.bind, pure, Except.pure]
  | _ => simp [coerceItems, expected]

theorem coerceUnion_ne_error_nil {args : List Annotation} {errors : List String} :
    coerceUnion args value path errors ≠ .error [] := by
  induction args generalizing errors with
  | nil => simp [coerceUnion]
  | cons a as ih =>
    rw [coerceUnion]
    cases coerceValue a value path with
    | ok w => simp
    | error es => exact ih

theorem modelValidate_ne_error_nil {name : String} {extra : Extra} {fields : FieldSpecs}
    {postInit : Fields → List String × Fields} :
    modelValidate name extra fields postInit value ≠ .error [] := by
  cases value with
  | dict entries =>
    simp only [modelValidate]
    split
    · simp
    · split
      · next missing => simpa using missing
      · obtain ⟨errors, attributes⟩ := postInit entries
        cases errors <;> simp
  | obj cls attributes =>
    simp only [modelValidate]
    split <;> simp
  | _ => simp [modelValidate]

/-- An error always comes with a text. -/
theorem coerceValue_ne_error_nil (a : Annotation) (value : Value) (path : String) :
    coerceValue a value path ≠ .error [] := by
  induction a using annotation_induction generalizing value path with
  | any => simp [coerceValue]
  | null => simp [coerceValue]
  | str => exact coerceScalar_ne_error_nil
  | int => exact coerceScalar_ne_error_nil
  | bool => exact coerceScalar_ne_error_nil
  | float => exact coerceScalar_ne_error_nil
  | dict => exact coerceScalar_ne_error_nil
  | list item ih => exact coerceItems_ne_error_nil fun v => ih v _
  | tuple item ih => exact coerceItems_ne_error_nil fun v => ih v _
  | union args ih => exact coerceUnion_ne_error_nil
  | literal values => exact coerceScalar_ne_error_nil
  | enum name values =>
    rw [coerceValue]
    split <;> simp
  | model name extra fields ih => exact modelValidate_ne_error_nil

theorem coerceFields_clean_iff {fields : FieldSpecs} {payload : Fields} :
    (coerceFields fields payload).1 = [] ↔ ∀ f ∈ fields, ∃ w,
      coerceValue f.2.1 ((payload.get f.1).getD f.2.2.default) f.1 = .ok w := by
  induction fields with
  | nil => simp [coerceFields]
  | cons f fields ih =>
    obtain ⟨name, annotation, info⟩ := f
    rw [List.forall_mem_cons, ← ih, coerceFields]
    have text := coerceValue_ne_error_nil annotation ((payload.get name).getD info.default) name
    cases found : coerceValue annotation ((payload.get name).getD info.default) name with
    | ok w => simp
    | error es =>
      have some_text : es ≠ [] := by
        rintro rfl
        exact text found
      simp [some_text]

theorem modelValidate_ok_iff {name : String} {extra : Extra} {fields : FieldSpecs}
    {entries : Fields} :
    (∃ w, modelValidate name extra fields (coerceFields fields) (.dict entries) = .ok w) ↔
      (extra = .forbid → ∀ e ∈ entries, e.1 ∈ fields.map Prod.fst) ∧
      (∀ f ∈ fields, f.2.2.required = true → (entries.get f.1).isSome = true) ∧
      ∀ f ∈ fields, ∃ w,
        coerceValue f.2.1 ((entries.get f.1).getD f.2.2.default) f.1 = .ok w := by
  rw [← missingFields_eq_nil_iff, ← coerceFields_clean_iff, ← unknownFields_eq_nil_iff]
  simp only [modelValidate]
  cases unknown : unknownFields fields entries with
  | cons key keys =>
    cases extra with
    | forbid => simp
    | allow =>
      cases missing : missingFields fields entries with
      | cons key keys => simp
      | nil => cases found : coerceFields fields entries with
        | mk errors attributes => cases errors <;> simp
  | nil =>
    cases missing : missingFields fields entries with
    | cons key keys => simp
    | nil => cases found : coerceFields fields entries with
      | mk errors attributes => cases errors <;> simp

/-- `_coerce_value` takes the values that have the annotation's shape. -/
theorem coerceValue_ok_iff {a : Annotation} (grammar : InGrammar a) {value : Value}
    (json : IsJson value) {path : String} :
    (∃ w, coerceValue a value path = .ok w) ↔ HasShape a value := by
  induction a using annotation_induction generalizing value path with
  | any => simp [coerceValue, HasShape]
  | null => simp [coerceValue, HasShape]
  | str => exact coerceScalar_ok_iff
  | int => exact coerceScalar_ok_iff
  | bool => exact coerceScalar_ok_iff
  | float => exact coerceScalar_ok_iff
  | dict => exact coerceScalar_ok_iff
  | list item ih | tuple item ih =>
    rw [coerceValue, HasShape, coerceItems_ok_iff]
    refine exists_congr fun xs => and_congr_right fun same => forall₂_congr fun x hx => ?_
    subst same
    exact ih grammar (allJson_iff.mp json x hx)
  | union args ih =>
    rw [coerceValue, HasShape, coerceUnion_ok_iff, someShape_iff]
    refine exists_congr fun b => and_congr_right fun hb => ?_
    exact ih b hb (allInGrammar_iff.mp grammar b hb) json
  | literal values => exact coerceScalar_ok_iff
  | enum name values =>
    rw [coerceValue, HasShape]
    split
    · next inside => simp [inside]
    · next outside => simp [outside]
  | model name extra fields ih =>
    rw [coerceValue, HasShape]
    cases value with
    | dict entries =>
      rw [modelValidate_ok_iff]
      simp only [Value.dict.injEq, exists_eq_left']
      refine and_congr_right fun _ => ?_
      rw [fieldShapes_iff, ← forall₂_and]
      refine forall₂_congr fun f hf => and_congr_right fun present => ?_
      obtain ⟨inGrammar, default⟩ := fieldsInGrammar_iff.mp grammar.2 f hf
      cases found : Fields.get entries f.1 with
      | none =>
        have optional : f.2.2.required = false := by simpa [found] using present
        exact iff_of_true (default optional) nofun
      | some v =>
        rw [Option.getD_some, ih f hf inGrammar (isJson_of_get json found)]
        simp
    | obj cls attributes => exact json.elim
    | _ => simp [modelValidate]

end Coercion

end SthBoring.Capability.ModelShapes
