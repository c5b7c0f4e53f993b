/- Module: SthBoring/Capability/ModelValidation
   source: sdk_test_agent/capability/_pydantic_compat.py
   digest: How a payload becomes an instance of a model, and an instance a payload again. -/

import SthBoring.Lib.Dataclasses
import SthBoring.Capability.CapabilityIoModels

set_option autoImplicit false
set_option relaxedAutoImplicit false

namespace SthBoring.Capability.ModelValidation

open SthBoring.Lib
open SthBoring.Lib.PyValue (Value Fields joinWith)
open SthBoring.Lib.Dataclasses (plain plainFields)
open SthBoring.Capability.CapabilityIoModels

/-- The annotation of each field, with what `Field` adds to it. -/
abbrev FieldSpecs := List (String × Annotation × FieldInfo)

/-- A value, or the texts of a `ValidationError`. -/
abbrev Coerced (α : Type) := Except (List String) α

/-- `repr` of a tuple of strings. -/
def reprTuple : List String → String
  | [s] => "(" ++ PyValue.reprStr s ++ ",)"
  | values => "(" ++ joinWith ", " (values.map PyValue.reprStr) ++ ")"

def expected (path what : String) : List String := [s!"{path}: expected {what}"]

/-- A list comprehension: the first error ends it. -/
def coerceEach (coerce : Value → Coerced Value) : List Value → Coerced (List Value)
  | [] => .ok []
  | v :: vs => do
    let w ← coerce v
    let ws ← coerceEach coerce vs
    return w :: ws

/-- `_coerce_value` on a list or, where lists are no tuples, a tuple. -/
def coerceItems (coerce : Value → Coerced Value) (what : String) (value : Value) (path : String) :
    Coerced Value :=
  match value with
  | .list xs => do
    let ws ← coerceEach coerce xs
    return .list ws
  | _ => .error (expected path what)

/-- The names that `extra="forbid"` objects to, in sorted order. -/
def unknownFields (fields : FieldSpecs) (payload : Fields) : List String :=
  ((payload.map Prod.fst).filter fun key => !(fields.map Prod.fst).contains key).insertionSort
    (· ≤ ·)

/-- The fields without a default that a payload leaves out. -/
def missingFields (fields : FieldSpecs) (payload : Fields) : List String :=
  (fields.filter fun f => f.2.2.required && (payload.get f.1).isNone).map Prod.fst

/-- The attributes that `extra="allow"` adds to an instance. -/
def extraAttributes (extra : Extra) (fields : FieldSpecs) (payload : Fields) : Fields :=
  match extra with
  | .forbid => []
  | .allow => payload.filter fun e => !(fields.map Prod.fst).contains e.1

/-- `model_validate` of a class, given the `__post_init__` of its instances. An instance of the
class is returned as it is. -/
def modelValidate (name : String) (extra : Extra) (fields : FieldSpecs)
    (postInit : Fields → List String × Fields) (payload : Value) : Coerced Value :=
  match payload with
  | .dict entries =>
    let unknown := unknownFields fields entries
    let names := joinWith ", " unknown
    let missing := missingFields fields entries
    if extra = .forbid && !unknown.isEmpty then
      .error [s!"extra fields are not permitted: {names}"]
    else if !missing.isEmpty then
      .error (missing.map fun name => s!"missing required field: {name}")
    else
      match postInit entries with
      | ([], attributes) => .ok (.obj name (attributes ++ extraAttributes extra fields entries))
      | (errors, _) => .error errors
  | .obj cls attributes =>
    if cls = name then .ok (.obj cls attributes) else .error [s!"expected object for {name}"]
  | _ => .error [s!"expected object for {name}"]

/-- What a scalar annotation asks of a value. -/
def coerceScalar (fits : Bool) (what : String) (value : Value) (path : String) : Coerced Value :=
  if fits then .ok value else .error (expected path what)

def isFloat : Value → Bool
  | .float _ => true
  | _ => false

def isDict : Value → Bool
  | .dict _ => true
  | _ => false

mutual

/-- `_coerce_value`. -/
def coerceValue : Annotation → Value → String → Coerced Value
  | .any, value, _ => .ok value
  | .null, value, _ => .ok value
  | .str, value, path => coerceScalar value.isStr "str" value path
  | .int, value, path => coerceScalar value.isInt "int" value path
  | .bool, value, path => coerceScalar value.isBool "bool" value path
  | .float, value, path => coerceScalar (isFloat value) "float" value path
  | .dict, value, path => coerceScalar (isDict value) "object" value path
  | .list item, value, path =>
    coerceItems (fun v => coerceValue item v s!"{path}[]") "list" value path
  | .tuple item, value, path =>
    coerceItems (fun v => coerceValue item v s!"{path}[]") "tuple" value path
  | .union args, value, path => coerceUnion args value path []
  | .literal values, value, path =>
    coerceScalar (values.any fun s => (Value.str s).pyEq value) s!"one of {reprTuple values}" value
      path
  | .enum _ values, value, path =>
    if values.any fun s => (Value.str s).pyEq value then .ok value
    else .error [s!"{path}: invalid enum value {value.text}"]
  | .model name extra fields, value, _ =>
    modelValidate name extra fields (coerceFields fields) value

/-- The members of a union are tried in turn; `NoneType` lets every value pass. -/
def coerceUnion : List Annotation → Value → String → List String → Coerced Value
  | [], _, path, errors =>
    let all := joinWith "; " errors
    .error [s!"{path}: does not match any allowed type ({all})"]
  | a :: as, value, path, errors =>
    match coerceValue a value path with
    | .ok w => .ok w
    | .error es => coerceUnion as value path (errors ++ [joinWith "; " es])

/-- `__post_init__`: each field is coerced, the defaults of omitted fields as well, and the errors
of all of them are gathered. -/
def coerceFields : List (String × Annotation × FieldInfo) → Fields → List String × Fields
  | [], _ => ([], [])
  | (name, annotation, info) :: fields, payload =>
    let (errors, attributes) := coerceFields fields payload
    match coerceValue annotation ((payload.get name).getD info.default) name with
    | .ok w => (errors, (name, w) :: attributes)
    | .error es => (es ++ errors, attributes)

end

/-- `_dump_value`. -/
abbrev dumpValue : Value → Value := plain

/-- `_dump_value` on the values of a dict. -/
abbrev dumpFields : Fields → Fields := plainFields

section Validation

variable {name : String} {extra : Extra} {fields : FieldSpecs} {payload : Fields}

theorem unknownFields_eq_nil_iff :
    unknownFields fields payload = [] ↔ ∀ e ∈ payload, e.1 ∈ fields.map Prod.fst := by
  have sorted : unknownFields fields payload = [] ↔
      (payload.map Prod.fst).filter (fun key => !(fields.map Prod.fst).contains key) = [] := by
    unfold unknownFields
    rw [← List.length_eq_zero_iff, List.length_insertionSort, List.length_eq_zero_iff]
  rw [sorted, List.filter_eq_nil_iff]
  simp

theorem missingFields_eq_nil_iff :
    missingFields fields payload = [] ↔
      ∀ f ∈ fields, f.2.2.required = true → (payload.get f.1).isSome = true := by
  unfold missingFields
  rw [List.map_eq_nil_iff, List.filter_eq_nil_iff]
  refine forall₂_congr fun f _ => ?_
  cases f.2.2.required <;> cases payload.get f.1 <;> simp

theorem coerceEach_eq_ok_iff {coerce : Value → Coerced Value} {xs : List Value} :
    (∃ ws, coerceEach coerce xs = .ok ws) ↔ ∀ x ∈ xs, ∃ w, coerce x = .ok w := by
  induction xs with
  | nil => exact iff_of_true ⟨[], rfl⟩ (List.forall_mem_nil _)
  | cons x xs ih =>
    rw [List.forall_mem_cons, ← ih]
    simp only [coerceEach]
    cases coerce x with
    | error es => simp [bind, Except.bind]
    | ok w =>
      cases coerceEach coerce xs with
      | error es => simp [bind, Except.bind]
      | ok ws => simp [bind, Except.bind, pure, Except.pure]

end Validation

end SthBoring.Capability.ModelValidation
