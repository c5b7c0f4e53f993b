/- Module: SthBoring/Capability/SchemaValidation
   source: sdk_test_agent/capability/schema_validation.py
   digest: The checker of payloads against the supported part of JSON Schema. -/

import SthBoring.Lib.PyValue

set_option autoImplicit false
set_option relaxedAutoImplicit false

namespace SthBoring.Capability.SchemaValidation

open SthBoring.Lib.PyValue (Value Fields PyExc typeError attributeError recursionError collect)

/-- One validation error: `f"{path}: {complaint}"`. -/
structure SchemaError where
  path : String
  complaint : String
  deriving DecidableEq, Repr

def SchemaError.text (e : SchemaError) : String := e.path ++ ": " ++ e.complaint

abbrev Checked := Except PyExc (List SchemaError)

def report (path complaint : String) : Checked := .ok [⟨path, complaint⟩]

/-- `schema.get(key, default)`. -/
def getOr (schema : Value) (key : String) (default : Value) : Except PyExc Value := do
  let found ← schema.get key
  return found.getD default

/-- `ref` without `#/$defs/`, when it starts with it. -/
def defsName (ref : String) : Option String :=
  let pre := "#/$defs/".toList
  if pre.isPrefixOf ref.toList then some (String.ofList (ref.toList.drop pre.length)) else none

/-- `_resolve_ref`. -/
def resolveRef (ref rootSchema : Value) : Except PyExc Value :=
  match ref with
  | .str s =>
    match defsName s with
    | some name => do
      let defs ← getOr rootSchema "$defs" (.dict [])
      getOr defs name (.dict [])
    | none => .ok (.dict [])
  | v => .error (attributeError s!"'{v.typeName}' object has no attribute 'startswith'")

/-- A recursive call on a value, a schema and a path. -/
abbrev Recurse := Value → Value → String → Checked

/-- The branches of an `anyOf`: all are evaluated before one without errors is looked for. -/
def branchErrors (recurse : Recurse) (value : Value) (path : String) :
    List Value → Except PyExc (List (List SchemaError))
  | [] => .ok []
  | branch :: branches => do
    let errors ← recurse value branch path
    let rest ← branchErrors recurse value path branches
    return errors :: rest

def validateAnyOf (recurse : Recurse) (value schema : Value) (path : String) : Checked := do
  let anyOf ← schema.subscript "anyOf"
  let branches ← anyOf.iter
  let errors ← branchErrors recurse value path branches
  if errors.any List.isEmpty then return [] else report path "does not match any allowed schema"

/-- `key in value` fails for a required key. -/
def missingRequired (value : Value) (path : String) (key : Value) : Checked := do
  let present ← value.contains key
  if present then return [] else report s!"{path}.{key.text}" "missing required property"

/-- `set(v)`, whose members must be hashable. -/
def setOf (v : Value) : Except PyExc (List Value) := do
  let members ← v.iter
  match members.find? (fun x => !x.hashable) with
  | some x => .error (typeError s!"unhashable type: '{x.typeName}'")
  | none => return members

/-- The keys that `additionalProperties: false` objects to, in sorted order. -/
def additionalKeys (entries : Fields) (properties : Value) : Except PyExc (List String) := do
  let declared ← setOf properties
  let extra := (entries.map Prod.fst).filter (fun key => !declared.any (Value.pyEq (.str key)))
  return extra.insertionSort (· ≤ ·)

def additionalErrors (entries : Fields) (properties : Value) (path : String) : Checked := do
  let keys ← additionalKeys entries properties
  return keys.map (fun key => ⟨s!"{path}.{key}", "additional property is not allowed"⟩)

/-- An entry is checked when `properties` lists its key. -/
def validateEntry (recurse : Recurse) (properties : Value) (path : String)
    (entry : String × Value) : Checked := do
  let declared ← properties.contains (.str entry.1)
  if declared then
    let subSchema ← properties.subscript entry.1
    recurse entry.2 subSchema s!"{path}.{entry.1}"
  else return []

def isFalse : Value → Bool
  | .bool b => !b
  | _ => false

def validateObject (recurse : Recurse) (value schema : Value) (path : String) : Checked :=
  match value with
  | .dict entries => do
    let required ← getOr schema "required" (.list [])
    let keys ← required.iter
    let missing ← collect (missingRequired value path) keys
    let properties ← getOr schema "properties" (.dict [])
    let additional ← getOr schema "additionalProperties" .null
    let extra ← if isFalse additional then additionalErrors entries properties path else .ok []
    let nested ← collect (validateEntry recurse properties path) entries
    return missing ++ extra ++ nested
  | _ => report path "expected object"

def validateArray (recurse : Recurse) (value schema : Value) (path : String) : Checked :=
  match value with
  | .list items => do
    let minItems ← getOr schema "minItems" .null
    let short ← match minItems with
      | .null => .ok false
      | bound => (Value.int items.length).lt bound
    if short then report path s!"expected at least {minItems.text} item(s)"
    else
      let itemSchema ← getOr schema "items" (.dict [])
      collect (fun item => recurse item.1 itemSchema s!"{path}[{item.2}]") items.zipIdx
  | _ => report path "expected array"

/-- The bounds on a number. -/
def validateBounds (value schema : Value) (path : String) : Checked := do
  let hasMinimum ← schema.contains (.str "minimum")
  let minimum ← if hasMinimum then schema.subscript "minimum" else .ok .null
  let below ← if hasMinimum then value.lt minimum else .ok false
  if below then report path s!"below minimum {minimum.text}"
  else
    let hasMaximum ← schema.contains (.str "maximum")
    let maximum ← if hasMaximum then schema.subscript "maximum" else .ok .null
    let above ← if hasMaximum then value.gt maximum else .ok false
    if above then report path s!"above maximum {maximum.text}" else return []

/-- The checks by `type` that come before the bounds. -/
def typeMismatch (expectedType value : Value) : Option String :=
  if Value.pyEq expectedType (.str "string") && !value.isStr then some "expected string"
  else if Value.pyEq expectedType (.str "integer") && !value.isInt then some "expected integer"
  else if Value.pyEq expectedType (.str "number") && !value.isNumber then some "expected number"
  else if Value.pyEq expectedType (.str "boolean") && !value.isBool then some "expected boolean"
  else none

def validateScalar (expectedType value schema : Value) (path : String) : Checked :=
  match typeMismatch expectedType value with
  | some complaint => report path complaint
  | none => if value.isNumber then validateBounds value schema path else .ok []

def isNull : Value → Bool
  | .null => true
  | _ => false

/-- The checks by `type`, once references, `anyOf` and `enum` are dealt with. -/
def validateTyped (recurse : Recurse) (value schema : Value) (path : String) : Checked := do
  let expectedType ← getOr schema "type" .null
  if Value.pyEq expectedType (.str "null") then
    if isNull value then return [] else report path "expected null"
  else if Value.pyEq expectedType (.str "object") then validateObject recurse value schema path
  else if Value.pyEq expectedType (.str "array") then validateArray recurse value schema path
  else validateScalar expectedType value schema path

/-- `"enum" in schema and value not in schema["enum"]`, with the values it lists. -/
def outsideEnum (value schema : Value) : Except PyExc (Option Value) := do
  let hasEnum ← schema.contains (.str "enum")
  if hasEnum then
    let allowed ← schema.subscript "enum"
    let listed ← allowed.contains value
    return if listed then none else some allowed
  else return none

/-- A schema that is a reference stands for what it names. -/
def deref (schema rootSchema : Value) : Except PyExc Value := do
  let isRef ← schema.contains (.str "$ref")
  if isRef then
    let ref ← schema.subscript "$ref"
    resolveRef ref rootSchema
  else return schema

/-- `_validate`. The first argument is how many calls deep the interpreter still lets us go:
a schema may refer to itself through `anyOf`. -/
def validate : ℕ → Value → Value → Value → String → Checked
  | 0, _, _, _, _ => .error recursionError
  | depth + 1, rootSchema, value, schema, path =>
    if !schema.truthy then .ok []
    else do
      let schema ← deref schema rootSchema
      let hasAnyOf ← schema.contains (.str "anyOf")
      let recurse := fun v s p => validate depth rootSchema v s p
      if hasAnyOf then validateAnyOf recurse value schema path
      else
        let outside ← outsideEnum value schema
        match outside with
        | some allowed => report path s!"expected one of {allowed.text}"
        | none => validateTyped recurse value schema path

/-- `validate_payload_against_schema` under a recursion limit. -/
def validatePayloadAgainstSchema (recursionLimit : ℕ) (payload schema : Value) : Checked :=
  validate recursionLimit schema payload schema "$"

section ClosedObjects

variable {entries props fields : Fields} {path : String}

/-- Nothing to object to: every key is declared. -/
theorem declared_of_additionalErrors (clean : additionalErrors entries (.dict props) path = .ok []) :
    ∀ e ∈ entries, e.1 ∈ props.map Prod.fst := by
  have declared : SchemaValidation.setOf (.dict props) =
      .ok (props.map (fun e => Value.str e.1)) := by
    have plain : (props.map (fun e => Value.str e.1)).find? (fun x => !x.hashable) = none := by
      simp [Value.hashable]
    simp only [SchemaValidation.setOf, Value.iter, bind, Except.bind, plain, pure, Except.pure]
  unfold additionalErrors additionalKeys at clean
  rw [declared] at clean
  simp only [bind, Except.bind, pure, Except.pure, Except.ok.injEq, List.map_eq_nil_iff] at clean
  intro e he
  by_contra missing
  have kept : e.1 ∈ (entries.map Prod.fst).filter (fun key =>
      !(props.map (fun e => Value.str e.1)).any (Value.pyEq (.str key))) := by
    refine List.mem_filter.mpr ⟨List.mem_map_of_mem he, ?_⟩
    simp only [Bool.not_eq_true', List.any_eq_false, List.mem_map]
    rintro v ⟨p, hp, rfl⟩ same
    have equal : e.1 = p.1 := by simpa [Value.pyEq] using same
    exact missing (equal ▸ List.mem_map_of_mem hp)
  have sorted := (List.mem_insertionSort (· ≤ ·)).mpr kept
  rw [clean] at sorted
  cases sorted

/-- The schema of an object that allows no properties but these. -/
structure ClosedObject (fields props : Fields) : Prop where
  noRef : fields.get "$ref" = none
  noAnyOf : fields.get "anyOf" = none
  noEnum : fields.get "enum" = none
  object : fields.get "type" = some (.str "object")
  properties : fields.get "properties" = some (.dict props)
  closed : fields.get "additionalProperties" = some (.bool false)

theorem getOr_dict (key : String) (default : Value) :
    getOr (.dict fields) key default = .ok ((fields.get key).getD default) := rfl

theorem contains_dict (key : String) :
    (Value.dict fields).contains (.str key) = .ok (fields.get key).isSome := rfl

theorem declared_of_validateObject (closed : ClosedObject fields props) {recurse : Recurse}
    (clean : validateObject recurse (.dict entries) (.dict fields) path = .ok []) :
    ∀ e ∈ entries, e.1 ∈ props.map Prod.fst := by
  simp only [validateObject, getOr_dict, closed.properties, closed.closed, Option.getD_some,
    bind, Except.bind, isFalse, Bool.not_false, if_true] at clean
  split at clean
  · cases clean
  · split at clean
    · cases clean
    · cases extra : additionalErrors entries (.dict props) path with
      | error exc =>
        rw [extra] at clean
        cases clean
      | ok errors =>
        rw [extra] at clean
        dsimp only at clean
        split at clean
        · cases clean
        · simp only [pure, Except.pure, Except.ok.injEq, List.append_eq_nil_iff] at clean
          obtain ⟨⟨_, rfl⟩, _⟩ := clean
          exact declared_of_additionalErrors extra

/-- A payload without errors against a closed object schema has no undeclared keys. -/
theorem declared_of_valid (closed : ClosedObject fields props) {recursionLimit : ℕ}
    (valid : validatePayloadAgainstSchema recursionLimit (.dict entries) (.dict fields) = .ok []) :
    ∀ e ∈ entries, e.1 ∈ props.map Prod.fst := by
  unfold validatePayloadAgainstSchema at valid
  cases recursionLimit with
  | zero => cases valid
  | succ depth =>
    have truthy : (Value.dict fields).truthy = true := by
      cases fields with
      | nil => cases closed.object
      | cons e fields => rfl
    unfold validate at valid
    simp only [truthy, Bool.not_true, Bool.false_eq_true, if_false, deref, contains_dict,
      closed.noRef, closed.noAnyOf, closed.noEnum, closed.object, outsideEnum, validateTyped,
      getOr_dict, Option.isSome_none, Option.getD_some, bind, Except.bind, pure, Except.pure,
      Value.pyEq] at valid
    exact declared_of_validateObject closed valid

end ClosedObjects

end SthBoring.Capability.SchemaValidation
