/- Module: SthBoring/Capability/SchemaAgreement
   source: sdk_test_agent/capability/schema_validation.py
   digest: Where the checker's reading of a schema is the standard's. -/

import SthBoring.Capability.JsonSchema
import SthBoring.Capability.SchemaAnswers

set_option autoImplicit false
set_option relaxedAutoImplicit false

namespace SthBoring.Capability.SchemaAgreement

open SthBoring.Lib.OrderedDict (assocGet assocGet_eq_none_iff mem_of_assocGet)
open SthBoring.Lib.PyValue (Value Fields)
open SthBoring.Capability.SchemaValidation
open SthBoring.Capability.SchemaAnswers
open SthBoring.Capability.JsonSchema

/-- The keywords of the models' schemas that say which values are valid. -/
def keywords : List String :=
  ["$ref", "anyOf", "type", "enum", "const", "required", "properties", "additionalProperties",
    "minItems", "items", "minimum", "maximum"]

/-- A JSON pointer spells the name as it is. -/
def PlainName (name : String) : Prop := ∀ c ∈ name.toList, c ≠ '/' ∧ c ≠ '~' ∧ c ≠ '%'

/-- Every keyword holds a value of the right kind, and references resolve. -/
structure Shaped (root : Value) (fields : Fields) : Prop where
  type : ∀ t, fields.get "type" = some t → ∃ name ∈ typeNames, t = .str name
  enum : ∀ e, fields.get "enum" = some e → ∃ members, e = .list members
  required : ∀ r, fields.get "required" = some r → ∃ keys : List String, r = .list (keys.map .str)
  properties : ∀ p, fields.get "properties" = some p → ∃ props, p = .dict props
  additional : ∀ a, fields.get "additionalProperties" = some a →
    (∃ b, a = .bool b) ∨ ∃ sub, a = .dict sub
  minItems : ∀ m, fields.get "minItems" = some m → ∃ n : ℕ, m = .int n
  items : ∀ s, fields.get "items" = some s → ∃ sub, s = .dict sub
  minimum : ∀ m, fields.get "minimum" = some m → (jsonNumber m).isSome = true
  maximum : ∀ m, fields.get "maximum" = some m → (jsonNumber m).isSome = true
  anyOf : ∀ a, fields.get "anyOf" = some a → ∃ branches, a = .list branches
  ref : ∀ r, fields.get "$ref" = some r → ∃ name target, r = .str ("#/$defs/" ++ name) ∧
    PlainName name ∧ definition root name = some target

/-- A schema built of these keywords. -/
inductive Schema (root : Value) : Value → Prop where
  | intro {fields : Fields} (shaped : Shaped root fields)
      (properties : ∀ (props : Fields) key sub, fields.get "properties" = some (.dict props) →
        props.get key = some sub → Schema root sub)
      (additional : ∀ sub, fields.get "additionalProperties" = some (.dict sub) →
        Schema root (.dict sub))
      (items : ∀ sub, fields.get "items" = some sub → Schema root sub)
      (anyOf : ∀ branches b, fields.get "anyOf" = some (.list branches) → b ∈ branches →
        Schema root b) :
      Schema root (.dict fields)

/-- A schema together with the definitions it refers to. -/
structure Document (root : Value) : Prop where
  schema : Schema root root
  defs : ∀ name target, definition root name = some target → Schema root target

/-- The keywords that `_validate` looks at: the schema's own, or those of the definition that a
reference, which stands alone, leads to at once. -/
inductive LooksAt (root : Value) : Value → Fields → Prop where
  | own {fields : Fields} (noRef : fields.get "$ref" = none) : LooksAt root (.dict fields) fields
  | named {fields target : Fields} {name : String}
      (ref : fields.get "$ref" = some (.str ("#/$defs/" ++ name)))
      (alone : ∀ key ∈ keywords, key ≠ "$ref" → fields.get key = none)
      (found : definition root name = some (.dict target)) (noRef : target.get "$ref" = none) :
      LooksAt root (.dict fields) target

/-- Nothing here is read otherwise than the standard reads it. -/
structure Unaffected (value : Value) (fields : Fields) : Prop where
  /-- `isinstance(value, int)` accepts booleans and rejects `1.0`. -/
  integer : fields.get "type" = some (.str "integer") →
    value.isBool = false ∧ ∀ x, value = .float x → x.value.den ≠ 1
  /-- `isinstance(value, (int, float))` accepts booleans. -/
  number : fields.get "type" = some (.str "number") → value.isBool = false
  /-- A boolean is compared with the bounds. -/
  bounds : value.isBool = true →
    fields.get "type" = none ∨ fields.get "type" = some (.str "boolean") →
    fields.get "minimum" = none ∧ fields.get "maximum" = none
  /-- `1 == True`. -/
  enum : ∀ members, fields.get "enum" = some (.list members) →
    members.any (fun x => x.pyEq value) = true → ∃ m ∈ members, jsonEq m value = true
  /-- There is no check of `const`. -/
  const : ∀ c, fields.get "const" = some c → jsonEq c value = true
  /-- Undeclared properties pass unchecked when their schema is not `False`. -/
  additional : fields.get "type" = some (.str "object") → ∀ (entries : Fields) sub e,
    value = .dict entries → fields.get "additionalProperties" = some (.dict sub) →
    e ∈ entries → ¬ Undeclared fields e.1
  /-- Objects and arrays are only looked into under their `type`. -/
  object : fields.get "type" = none → ∀ entries, value = .dict entries →
    ∀ key ∈ ["required", "properties", "additionalProperties"], fields.get key = none
  array : fields.get "type" = none → ∀ items, value = .list items →
    ∀ key ∈ ["minItems", "items"], fields.get key = none
  /-- An `anyOf` is the last keyword that is looked at. -/
  anyOf : fields.get "anyOf" ≠ none → ∀ key ∈ keywords, key ≠ "anyOf" → fields.get key = none

/-- Nothing that `_validate` reaches, at most so many calls deep, is affected. -/
def Plain (root : Value) : ℕ → Value → Value → Prop
  | 0, _, _ => False
  | depth + 1, value, schema => ∃ fields, LooksAt root schema fields ∧ Unaffected value fields ∧
    (∀ branches b, fields.get "anyOf" = some (.list branches) → b ∈ branches →
      Plain root depth value b) ∧
    (Listed value fields →
      (fields.get "type" = some (.str "object") → ∀ (entries props : Fields) e sub,
        value = .dict entries → fields.get "properties" = some (.dict props) → e ∈ entries →
        props.get e.1 = some sub → Plain root depth e.2 sub) ∧
      (fields.get "type" = some (.str "array") → ∀ items x, value = .list items →
        (∀ n : ℤ, fields.get "minItems" = some (.int n) → n ≤ items.length) → x ∈ items →
        Plain root depth x ((fields.get "items").getD (.dict []))))

section Parts

variable {root value : Value} {fields : Fields}

/-- What is asked of an object. -/
structure ObjectPart (root value : Value) (fields : Fields) : Prop where
  required : ∀ entries keys, value = .dict entries → fields.get "required" = some (.list keys) →
    ∀ key, Value.str key ∈ keys → key ∈ entries.map Prod.fst
  properties : ∀ (entries props : Fields) e sub, value = .dict entries →
    fields.get "properties" = some (.dict props) → e ∈ entries → props.get e.1 = some sub →
    Valid root e.2 sub
  additional : ∀ (entries : Fields) sub e, value = .dict entries →
    fields.get "additionalProperties" = some sub → e ∈ entries → Undeclared fields e.1 →
    Valid root e.2 sub

/-- What is asked of an array. -/
structure ArrayPart (root value : Value) (fields : Fields) : Prop where
  minItems : ∀ items n, value = .list items → fields.get "minItems" = some (.int n) →
    n ≤ items.length
  items : ∀ values sub x, value = .list values → fields.get "items" = some sub → x ∈ values →
    Valid root x sub

/-- What is asked of a number. -/
structure NumberPart (value : Value) (fields : Fields) : Prop where
  minimum : ∀ q m b, jsonNumber value = some q → fields.get "minimum" = some m →
    jsonNumber m = some b → b ≤ q
  maximum : ∀ q m b, jsonNumber value = some q → fields.get "maximum" = some m →
    jsonNumber m = some b → q ≤ b

/-- The value is of the type that the schema names. -/
def Typed (value : Value) (fields : Fields) : Prop :=
  ∀ name, fields.get "type" = some (.str name) → hasType value name = true

/-- A schema without `$ref` and `anyOf`, keyword by keyword. -/
theorem valid_iff_parts (noRef : fields.get "$ref" = none) (noAnyOf : fields.get "anyOf" = none)
    (unaffected : Unaffected value fields) :
    Valid root value (.dict fields) ↔ Listed value fields ∧ Typed value fields ∧
      ObjectPart root value fields ∧ ArrayPart root value fields ∧ NumberPart value fields := by
  rw [valid_dict_iff]
  constructor
  · intro obeyed
    refine ⟨fun members found => ?_, obeyed.assertions.type, ?_, ?_, ?_⟩
    · obtain ⟨m, hm, same⟩ := obeyed.assertions.enum members found
      exact List.any_eq_true.mpr ⟨m, hm, pyEq_of_jsonEq m value same⟩
    · exact ⟨obeyed.assertions.required, obeyed.properties, obeyed.additional⟩
    · exact ⟨obeyed.assertions.minItems, obeyed.items⟩
    · exact ⟨obeyed.assertions.minimum, obeyed.assertions.maximum⟩
  · rintro ⟨listed, typed, object, array, number⟩
    have assertions : Assertions value fields :=
      ⟨typed, fun members found => unaffected.enum members found (listed members found),
        unaffected.const, object.required, array.minItems, number.minimum, number.maximum⟩
    refine ⟨assertions, fun name target found => ?_, fun branches found => ?_, object.properties,
      object.additional, array.items⟩
    · rw [noRef] at found
      cases found
    · rw [noAnyOf] at found
      cases found

theorem objectPart_of_other (other : ∀ entries, value ≠ .dict entries) :
    ObjectPart root value fields :=
  ⟨fun entries _ same => absurd same (other entries),
    fun entries _ _ _ same => absurd same (other entries),
    fun entries _ _ same => absurd same (other entries)⟩

theorem arrayPart_of_other (other : ∀ items, value ≠ .list items) : ArrayPart root value fields :=
  ⟨fun items _ same => absurd same (other items), fun items _ _ same => absurd same (other items)⟩

theorem numberPart_of_other (other : jsonNumber value = none) : NumberPart value fields := by
  constructor
  · intro q m b number
    rw [other] at number
    cases number
  · intro q m b number
    rw [other] at number
    cases number

end Parts

section Pieces

variable {root value : Value} {fields : Fields} {recurse : Recurse} {path : String}

/-- On a scalar type the two notions of type agree. -/
theorem typeMismatch_eq_none_iff (unaffected : Unaffected value fields) {name : String}
    (typed : fields.get "type" = some (.str name)) (scalar : name ∈ ["boolean", "string", "integer",
      "number"]) : typeMismatch (.str name) value = none ↔ hasType value name = true := by
  simp only [List.mem_cons, List.not_mem_nil, or_false] at scalar
  rcases scalar with rfl | rfl | rfl | rfl
  · simp [typeMismatch, Value.pyEq, hasType]
  · simp [typeMismatch, Value.pyEq, hasType]
  · obtain ⟨notBool, fraction⟩ := unaffected.integer typed
    cases value with
    | bool b => cases notBool
    | float x => simpa [typeMismatch, Value.pyEq, hasType, Value.isInt, jsonNumber] using fraction x rfl
    | _ => simp [typeMismatch, Value.pyEq, hasType, Value.isInt, jsonNumber]
  · have notBool := unaffected.number typed
    cases value with
    | bool b => cases notBool
    | _ => simp [typeMismatch, Value.pyEq, hasType, Value.isNumber, Value.number, jsonNumber]

theorem not_dict_of_scalar {name : String} (typed : hasType value name = true)
    (scalar : name ∈ ["null", "boolean", "string", "integer", "number"]) :
    (∀ entries, value ≠ .dict entries) ∧ ∀ items, value ≠ .list items := by
  simp only [List.mem_cons, List.not_mem_nil, or_false] at scalar
  constructor
  · rintro entries rfl
    rcases scalar with rfl | rfl | rfl | rfl | rfl <;> cases typed
  · rintro items rfl
    rcases scalar with rfl | rfl | rfl | rfl | rfl <;> cases typed

theorem numeric_of_shaped {key : String}
    (shaped : ∀ m, fields.get key = some m → (jsonNumber m).isSome = true) : Numeric fields key := by
  intro m found
  obtain ⟨b, number⟩ := Option.isSome_iff_exists.mp (shaped m found)
  rw [number_of_jsonNumber number]
  rfl

/-- A number is within the bounds that the checker reads. -/
theorem numberPart_iff (root : Value) (shaped : Shaped root fields)
    (noBool : value.isBool = true → fields.get "minimum" = none ∧ fields.get "maximum" = none) :
    (∀ q, value.number = some q → (∀ b, bound fields "minimum" = some b → b ≤ q) ∧
      ∀ b, bound fields "maximum" = some b → q ≤ b) ↔ NumberPart value fields := by
  have read {key : String} (numbers : ∀ m, fields.get key = some m → (jsonNumber m).isSome = true)
      {b : ℚ} : bound fields key = some b ↔
        ∃ m, fields.get key = some m ∧ jsonNumber m = some b := by
    unfold bound
    rw [Option.bind_eq_some_iff]
    constructor
    · rintro ⟨m, found, number⟩
      obtain ⟨c, json⟩ := Option.isSome_iff_exists.mp (numbers m found)
      rw [number_of_jsonNumber json] at number
      exact ⟨m, found, json.trans number⟩
    · rintro ⟨m, found, json⟩
      exact ⟨m, found, number_of_jsonNumber json⟩
  constructor
  · intro within
    constructor
    · intro q m b number found json
      exact (within q (number_of_jsonNumber number)).1 b ((read shaped.minimum).mpr ⟨m, found, json⟩)
    · intro q m b number found json
      exact (within q (number_of_jsonNumber number)).2 b ((read shaped.maximum).mpr ⟨m, found, json⟩)
  · intro part q number
    cases isBool : value.isBool with
    | true =>
      obtain ⟨noMinimum, noMaximum⟩ := noBool isBool
      simp [bound, noMinimum, noMaximum]
    | false =>
      have json : jsonNumber value = some q := by
        cases value with
        | bool b => cases isBool
        | int n => exact number
        | float x => exact number
        | _ => cases number
      constructor
      · intro b least
        obtain ⟨m, found, json'⟩ := (read shaped.minimum).mp least
        exact part.minimum q m b json found json'
      · intro b most
        obtain ⟨m, found, json'⟩ := (read shaped.maximum).mp most
        exact part.maximum q m b json found json'

theorem typed_iff {name : String} (found : fields.get "type" = some (.str name)) :
    Typed value fields ↔ hasType value name = true := by
  constructor
  · intro typed
    exact typed name found
  · intro typed other found'
    obtain rfl : name = other := by
      rw [found] at found'
      exact Value.str.inj (Option.some.inj found')
    exact typed

/-- The parts that the keywords of one type add up to. -/
def Parts (root value : Value) (fields : Fields) : Prop :=
  Typed value fields ∧ ObjectPart root value fields ∧ ArrayPart root value fields ∧
    NumberPart value fields

theorem answers_nullType (found : fields.get "type" = some (.str "null")) :
    Answers (validateTyped recurse value (.dict fields) path) (Parts root value fields) := by
  rw [validateTyped_null found]
  cases value with
  | null =>
    exact answers_none ⟨(typed_iff found).mpr rfl, objectPart_of_other nofun,
      arrayPart_of_other nofun, numberPart_of_other rfl⟩
  | _ =>
    refine answers_report fun parts => ?_
    cases (typed_iff found).mp parts.1

/-- The keys that are required; the default requires none. -/
theorem required_of_shaped (shaped : Shaped root fields) : ∃ keys : List String,
    (fields.get "required").getD (.list []) = .list (keys.map .str) ∧
    ∀ key, key ∈ keys ↔ ∃ all, fields.get "required" = some (.list all) ∧ Value.str key ∈ all := by
  cases has : fields.get "required" with
  | none => exact ⟨[], rfl, by simp⟩
  | some r =>
    obtain ⟨keys, rfl⟩ := shaped.required r has
    exact ⟨keys, rfl, by simp⟩

theorem properties_of_shaped (shaped : Shaped root fields) : ∃ props : Fields,
    (fields.get "properties").getD (.dict []) = .dict props ∧
    ∀ key sub, props.get key = some sub ↔ ∃ all : Fields,
      fields.get "properties" = some (.dict all) ∧ all.get key = some sub := by
  cases has : fields.get "properties" with
  | none => exact ⟨[], rfl, by simp [Fields.get]⟩
  | some p =>
    obtain ⟨props, rfl⟩ := shaped.properties p has
    exact ⟨props, rfl, by simp⟩

theorem undeclared_iff {props : Fields} {key : String}
    (declared : ∀ sub, props.get key = some sub ↔ ∃ all : Fields,
      fields.get "properties" = some (.dict all) ∧ all.get key = some sub) :
    Undeclared fields key ↔ key ∉ props.map Prod.fst := by
  rw [← assocGet_eq_none_iff]
  constructor
  · intro absent
    cases inside : assocGet key props with
    | none => rfl
    | some sub =>
      obtain ⟨all, has, inside'⟩ := (declared sub).mp inside
      rw [absent all has] at inside'
      cases inside'
  · intro absent all has
    cases inside : all.get key with
    | none => rfl
    | some sub =>
      have inside' : assocGet key props = some sub := (declared sub).mpr ⟨all, has, inside⟩
      rw [absent] at inside'
      cases inside'

theorem answers_objectType (shaped : Shaped root fields) (unaffected : Unaffected value fields)
    (found : fields.get "type" = some (.str "object"))
    (each : ∀ (entries props : Fields) e sub, value = .dict entries →
      fields.get "properties" = some (.dict props) → e ∈ entries → props.get e.1 = some sub →
      ∀ path, Answers (recurse e.2 sub path) (Valid root e.2 sub)) :
    Answers (validateTyped recurse value (.dict fields) path) (Parts root value fields) := by
  rw [validateTyped_object found]
  cases value with
  | dict entries =>
    obtain ⟨keys, required, listed⟩ := required_of_shaped shaped
    obtain ⟨props, properties, declared⟩ := properties_of_shaped shaped
    have undeclared {key : String} := undeclared_iff (declared key)
    refine (answers_object (P := fun e sub => Valid root e.2 sub) required properties
      fun e he sub hsub => ?_).congr ?_
    · obtain ⟨all, has, inside⟩ := (declared e.1 sub).mp hsub
      exact each entries all e sub rfl has he inside _
    · constructor
      · rintro ⟨present, closed, nested⟩
        refine ⟨(typed_iff found).mpr rfl, ⟨?_, ?_, ?_⟩, arrayPart_of_other (by simp),
          numberPart_of_other rfl⟩
        · rintro entries' all same has key hk
          cases same
          exact present key ((listed key).mpr ⟨all, has, hk⟩)
        · rintro entries' all e sub same has he inside
          cases same
          exact nested e he sub ((declared e.1 sub).mpr ⟨all, has, inside⟩)
        · rintro entries' sub e same has he absent
          cases same
          rcases shaped.additional sub has with ⟨b, rfl⟩ | ⟨more, rfl⟩
          · cases b with
            | true => exact valid_true
            | false => exact absurd (closed has e he) (undeclared.mp absent)
          · exact absurd absent (unaffected.additional found entries more e rfl has he)
      · rintro ⟨-, object, -, -⟩
        refine ⟨fun key hk => ?_, fun closed e he => ?_, fun e he sub hsub => ?_⟩
        · obtain ⟨all, has, inside⟩ := (listed key).mp hk
          exact object.required entries all rfl has key inside
        · by_contra absent
          exact not_valid_false
            (object.additional entries (.bool false) e rfl closed he (undeclared.mpr absent))
        · obtain ⟨all, has, inside⟩ := (declared e.1 sub).mp hsub
          exact object.properties entries all e sub rfl has he inside
  | _ =>
    refine (answers_object_other (by simp)).congr ⟨False.elim, fun parts => ?_⟩
    cases (typed_iff found).mp parts.1

theorem answers_arrayType (shaped : Shaped root fields)
    (found : fields.get "type" = some (.str "array"))
    (each : ∀ items x, value = .list items →
      (∀ n : ℤ, fields.get "minItems" = some (.int n) → n ≤ items.length) → x ∈ items →
      ∀ path, Answers (recurse x ((fields.get "items").getD (.dict [])) path)
        (Valid root x ((fields.get "items").getD (.dict [])))) :
    Answers (validateTyped recurse value (.dict fields) path) (Parts root value fields) := by
  rw [validateTyped_array found]
  cases value with
  | list items =>
    obtain ⟨minItems, least⟩ : ∃ n : Option ℤ, fields.get "minItems" = n.map .int := by
      cases has : fields.get "minItems" with
      | none => exact ⟨none, rfl⟩
      | some m =>
        obtain ⟨n, rfl⟩ := shaped.minItems m has
        exact ⟨some n, rfl⟩
    have enough : (∀ n, minItems = some n → n ≤ items.length) ↔
        ∀ n : ℤ, fields.get "minItems" = some (.int n) → n ≤ items.length := by
      rw [least]
      cases minItems <;> simp
    refine (answers_array (P := fun x => Valid root x ((fields.get "items").getD (.dict [])))
      least fun h x hx path => each items x rfl (enough.mp h) hx path).congr ?_
    rw [enough]
    constructor
    · rintro ⟨long, nested⟩
      refine ⟨(typed_iff found).mpr rfl, objectPart_of_other nofun, ⟨?_, ?_⟩,
        numberPart_of_other rfl⟩
      · rintro items' n same has
        cases same
        exact long n has
      · rintro items' sub x same has hx
        cases same
        have fits := nested x hx
        rwa [has] at fits
    · rintro ⟨-, -, array, -⟩
      refine ⟨fun n has => array.minItems items n rfl has, fun x hx => ?_⟩
      cases has : fields.get "items" with
      | none => exact valid_empty
      | some sub => exact array.items items sub x rfl has hx
  | _ =>
    refine (answers_array_other (by simp)).congr ⟨False.elim, fun parts => ?_⟩
    cases (typed_iff found).mp parts.1

theorem answers_scalarType (shaped : Shaped root fields) (unaffected : Unaffected value fields)
    {name : String} (found : fields.get "type" = some (.str name))
    (scalar : name ∈ ["boolean", "string", "integer", "number"]) :
    Answers (validateTyped recurse value (.dict fields) path) (Parts root value fields) := by
  have last : ScalarType ((fields.get "type").getD .null) := by
    rw [found]
    refine Or.inr ⟨name, rfl, ?_⟩
    simp only [List.mem_cons, List.not_mem_nil, or_false] at scalar
    rcases scalar with rfl | rfl | rfl | rfl <;> decide
  rw [validateTyped_scalar last, found, Option.getD_some]
  refine (answers_scalar (numeric_of_shaped shaped.minimum)
    (numeric_of_shaped shaped.maximum)).congr ?_
  rw [typeMismatch_eq_none_iff unaffected found scalar]
  have among : name ∈ ["null", "boolean", "string", "integer", "number"] :=
    List.mem_cons_of_mem _ scalar
  have noBool (typed : hasType value name = true) (isBool : value.isBool = true) :
      fields.get "minimum" = none ∧ fields.get "maximum" = none := by
    refine unaffected.bounds isBool (Or.inr ?_)
    cases value with
    | bool b =>
      simp only [List.mem_cons, List.not_mem_nil, or_false] at scalar
      rcases scalar with rfl | rfl | rfl | rfl
      · exact found
      · cases typed
      · cases typed
      · cases typed
    | _ => cases isBool
  constructor
  · rintro ⟨typed, within⟩
    obtain ⟨notDict, notList⟩ := not_dict_of_scalar typed among
    exact ⟨(typed_iff found).mpr typed, objectPart_of_other notDict, arrayPart_of_other notList,
      (numberPart_iff root shaped (noBool typed)).mp within⟩
  · rintro ⟨typed, -, -, number⟩
    have typed := (typed_iff found).mp typed
    exact ⟨typed, (numberPart_iff root shaped (noBool typed)).mpr number⟩

theorem answers_untyped (shaped : Shaped root fields) (unaffected : Unaffected value fields)
    (untyped : fields.get "type" = none) :
    Answers (validateTyped recurse value (.dict fields) path) (Parts root value fields) := by
  have last : ScalarType ((fields.get "type").getD .null) := by
    rw [untyped]
    exact Or.inl rfl
  rw [validateTyped_scalar last, untyped, Option.getD_none]
  refine (answers_scalar (numeric_of_shaped shaped.minimum)
    (numeric_of_shaped shaped.maximum)).congr ?_
  have quiet : typeMismatch .null value = none := rfl
  rw [numberPart_iff root shaped fun isBool => unaffected.bounds isBool (Or.inl untyped)]
  have typed : Typed value fields := by
    intro name found
    rw [untyped] at found
    cases found
  have object : ObjectPart root value fields := by
    refine ⟨fun entries keys same has => ?_, fun entries props e sub same has => ?_,
      fun entries sub e same has => ?_⟩
    · rw [unaffected.object untyped entries same "required" (by simp)] at has
      cases has
    · rw [unaffected.object untyped entries same "properties" (by simp)] at has
      cases has
    · rw [unaffected.object untyped entries same "additionalProperties" (by simp)] at has
      cases has
  have array : ArrayPart root value fields := by
    refine ⟨fun items n same has => ?_, fun items sub x same has => ?_⟩
    · rw [unaffected.array untyped items same "minItems" (by simp)] at has
      cases has
    · rw [unaffected.array untyped items same "items" (by simp)] at has
      cases has
  exact ⟨fun h => ⟨typed, object, array, h.2⟩, fun parts => ⟨quiet, parts.2.2.2⟩⟩

theorem answers_validateTyped (shaped : Shaped root fields) (unaffected : Unaffected value fields)
    (object : fields.get "type" = some (.str "object") → ∀ (entries props : Fields) e sub,
      value = .dict entries → fields.get "properties" = some (.dict props) → e ∈ entries →
      props.get e.1 = some sub → ∀ path, Answers (recurse e.2 sub path) (Valid root e.2 sub))
    (array : fields.get "type" = some (.str "array") → ∀ items x, value = .list items →
      (∀ n : ℤ, fields.get "minItems" = some (.int n) → n ≤ items.length) → x ∈ items →
      ∀ path, Answers (recurse x ((fields.get "items").getD (.dict [])) path)
        (Valid root x ((fields.get "items").getD (.dict [])))) :
    Answers (validateTyped recurse value (.dict fields) path) (Parts root value fields) := by
  cases found : fields.get "type" with
  | none => exact answers_untyped shaped unaffected found
  | some t =>
    obtain ⟨name, known, rfl⟩ := shaped.type t found
    simp only [typeNames, List.mem_cons, List.not_mem_nil, or_false] at known
    rcases known with rfl | rfl | rfl | rfl | rfl | rfl | rfl
    · exact answers_nullType found
    · exact answers_scalarType shaped unaffected found (by simp)
    · exact answers_scalarType shaped unaffected found (by simp)
    · exact answers_scalarType shaped unaffected found (by simp)
    · exact answers_scalarType shaped unaffected found (by simp)
    · exact answers_arrayType shaped found (array found)
    · exact answers_objectType shaped unaffected found (object found)

/-- A schema with no other keywords than `$ref` and `anyOf`. -/
theorem valid_iff_of_bare
    (bare : ∀ key ∈ keywords, key ≠ "$ref" → key ≠ "anyOf" → fields.get key = none) :
    Valid root value (.dict fields) ↔
      (∀ name target, fields.get "$ref" = some (.str ("#/$defs/" ++ name)) →
        definition root name = some target → Valid root value target) ∧
      ∀ branches, fields.get "anyOf" = some (.list branches) → ∃ b ∈ branches, Valid root value b := by
  rw [valid_dict_iff]
  constructor
  · intro obeyed
    exact ⟨obeyed.ref, obeyed.anyOf⟩
  · rintro ⟨ref, anyOf⟩
    have absent {key : String} (known : key ∈ keywords) (h : key ≠ "$ref") (h' : key ≠ "anyOf")
        {v : Value} : fields.get key ≠ some v := by
      rw [bare key known h h']
      exact nofun
    refine ⟨⟨?_, ?_, ?_, ?_, ?_, ?_, ?_⟩, ref, anyOf, ?_, ?_, ?_⟩
    · intro name found
      exact absurd found (absent (by simp [keywords]) (by decide) (by decide))
    · intro members found
      exact absurd found (absent (by simp [keywords]) (by decide) (by decide))
    · intro c found
      exact absurd found (absent (by simp [keywords]) (by decide) (by decide))
    · intro entries keys same found
      exact absurd found (absent (by simp [keywords]) (by decide) (by decide))
    · intro items n same found
      exact absurd found (absent (by simp [keywords]) (by decide) (by decide))
    · intro q m b number found
      exact absurd found (absent (by simp [keywords]) (by decide) (by decide))
    · intro q m b number found
      exact absurd found (absent (by simp [keywords]) (by decide) (by decide))
    · intro entries props e sub same found
      exact absurd found (absent (by simp [keywords]) (by decide) (by decide))
    · intro entries sub e same found
      exact absurd found (absent (by simp [keywords]) (by decide) (by decide))
    · intro items sub x same found
      exact absurd found (absent (by simp [keywords]) (by decide) (by decide))

/-- The keywords that `_validate` looks at are checked as the standard has them. -/
theorem answers_resolved (shaped : Shaped root fields) (noRef : fields.get "$ref" = none)
    (unaffected : Unaffected value fields)
    (branch : ∀ branches b, fields.get "anyOf" = some (.list branches) → b ∈ branches →
      Answers (recurse value b path) (Valid root value b))
    (object : Listed value fields → fields.get "type" = some (.str "object") →
      ∀ (entries props : Fields) e sub,
      value = .dict entries → fields.get "properties" = some (.dict props) → e ∈ entries →
      props.get e.1 = some sub → ∀ path, Answers (recurse e.2 sub path) (Valid root e.2 sub))
    (array : Listed value fields → fields.get "type" = some (.str "array") →
      ∀ items x, value = .list items →
      (∀ n : ℤ, fields.get "minItems" = some (.int n) → n ≤ items.length) → x ∈ items →
      ∀ path, Answers (recurse x ((fields.get "items").getD (.dict [])) path)
        (Valid root x ((fields.get "items").getD (.dict [])))) :
    Answers (checkResolved recurse value (.dict fields) path) (Valid root value (.dict fields)) := by
  cases has : fields.get "anyOf" with
  | none =>
    rw [valid_iff_parts noRef has unaffected]
    exact answers_typed has shaped.enum fun listed =>
      answers_validateTyped shaped unaffected (object listed) (array listed)
  | some a =>
    obtain ⟨branches, rfl⟩ := shaped.anyOf a has
    have listed : fields.get "anyOf" = some (.list (branches.map id)) := by rw [has, List.map_id]
    refine (answers_branches branches id listed fun b hb => branch branches b has hb).congr ?_
    have alone := unaffected.anyOf (by simp [has])
    rw [valid_iff_of_bare fun key known _ other => alone key known other, noRef, has]
    simp

end Pieces

section Agreement

variable {root : Value}

theorem append_left_cancel {s t u : String} (h : s ++ t = s ++ u) : t = u := by
  have chars := congrArg String.toList h
  rw [String.toList_append, String.toList_append] at chars
  exact String.toList_inj.mp (List.append_cancel_left chars)

theorem schema_empty : Schema root (.dict []) := by
  refine .intro ⟨?_, ?_, ?_, ?_, ?_, ?_, ?_, ?_, ?_, ?_, ?_⟩ ?_ ?_ ?_ ?_
  all_goals intros; simp_all [Fields.get]

theorem Schema.shaped {fields : Fields} (h : Schema root (.dict fields)) : Shaped root fields := by
  cases h with
  | intro shaped => exact shaped

/-- What a schema looks at is a schema's keywords, and says which values the schema allows. -/
theorem LooksAt.sound (document : Document root) {schema : Value} {fields : Fields}
    (looksAt : LooksAt root schema fields) (formed : Schema root schema) :
    Schema root (.dict fields) ∧ fields.get "$ref" = none ∧
      ∀ value, Valid root value schema ↔ Valid root value (.dict fields) := by
  cases looksAt with
  | own noRef => exact ⟨formed, noRef, fun _ => Iff.rfl⟩
  | named ref alone found noRef =>
    refine ⟨document.defs _ _ found, noRef, fun value => ?_⟩
    rw [valid_iff_of_bare fun key known other _ => alone key known other]
    have noAnyOf := alone "anyOf" (by simp [keywords]) (by decide)
    constructor
    · rintro ⟨follows, -⟩
      exact follows _ _ ref found
    · intro valid
      refine ⟨fun name target ref' found' => ?_, fun branches has => ?_⟩
      · rw [ref] at ref'
        rw [← append_left_cancel (Value.str.inj (Option.some.inj ref')), found] at found'
        cases found'
        exact valid
      · rw [noAnyOf] at has
        cases has

theorem definition_eq_some {name : String} {target : Value}
    (found : definition root name = some target) :
    ∃ rootFields defs : Fields, root = .dict rootFields ∧
      rootFields.get "$defs" = some (.dict defs) ∧ defs.get name = some target := by
  unfold definition at found
  split at found
  · next rootFields =>
    split at found
    · next defs has => exact ⟨rootFields, defs, rfl, has, found⟩
    · cases found
  · cases found

/-- `_validate` goes on with the keywords that it looks at. -/
theorem LooksAt.validate_eq {schema value : Value} {fields : Fields} {depth : ℕ} {path : String}
    (looksAt : LooksAt root schema fields) :
    validate (depth + 1) root value schema path =
      checkResolved (fun v s p => validate depth root v s p) value (.dict fields) path := by
  cases looksAt with
  | own noRef => exact validate_of_noRef noRef
  | named ref alone found noRef =>
    obtain ⟨rootFields, defs, rfl, has, named⟩ := definition_eq_some found
    exact validate_of_ref ref has named

/-- Where nothing reached is affected, the checker returns and decides what the standard says. -/
theorem answers_of_plain (document : Document root) {depth : ℕ} {value schema : Value}
    {path : String} (formed : Schema root schema) (plain : Plain root depth value schema) :
    Answers (validate depth root value schema path) (Valid root value schema) := by
  induction depth generalizing value schema path with
  | zero => exact plain.elim
  | succ depth ih =>
    obtain ⟨fields, looksAt, unaffected, branch, nested⟩ := plain
    obtain ⟨formed', noRef, same⟩ := looksAt.sound document formed
    rw [looksAt.validate_eq]
    refine Answers.congr ?_ (same value).symm
    cases formed' with
    | intro shaped properties additional items anyOf =>
      refine answers_resolved shaped noRef unaffected (fun branches b has hb => ?_)
        (fun listed found entries props e sub hv has he inside path => ?_)
        (fun listed found values x hv long hx path => ?_)
      · exact ih (anyOf branches b has hb) (branch branches b has hb)
      · exact ih (properties props e.1 sub has inside)
          ((nested listed).1 found entries props e sub hv has he inside)
      · refine ih ?_ ((nested listed).2 found values x hv long hx)
        cases has : fields.get "items" with
        | none => exact schema_empty
        | some sub => exact items sub has

/-- The schema of an object with one property. -/
def oneProperty (sub : Fields) : Value :=
  .dict [("type", .str "object"), ("properties", .dict [("n", .dict sub)])]

theorem valid_oneProperty_iff {sub : Fields} {v : Value} :
    Valid root (.dict [("n", v)]) (oneProperty sub) ↔ Valid root v (.dict sub) := by
  constructor
  · intro valid
    have obeyed := valid_dict_iff.mp valid
    exact obeyed.properties [("n", v)] [("n", .dict sub)] ("n", v) (.dict sub) rfl rfl (by simp) rfl
  · intro valid
    have properties : ∀ (entries props : Fields) e sub', Value.dict [("n", v)] = .dict entries →
        Fields.get [("type", Value.str "object"), ("properties", .dict [("n", .dict sub)])]
          "properties" = some (.dict props) → e ∈ entries → props.get e.1 = some sub' →
        Valid root e.2 sub' := by
      intro entries props e sub' same has he inside
      cases same
      cases has
      obtain rfl := List.mem_singleton.mp he
      cases inside
      exact valid
    have assertions : Assertions (.dict [("n", v)])
        [("type", .str "object"), ("properties", .dict [("n", .dict sub)])] := by
      refine ⟨fun name has => ?_, nofun, nofun, nofun, nofun, nofun, nofun⟩
      cases has
      rfl
    exact valid_dict_iff.mpr ⟨assertions, nofun, nofun, properties, nofun, nofun⟩

theorem document_oneProperty {sub : Fields} (shaped : Shaped (oneProperty sub) sub)
    (flat : ∀ key ∈ ["properties", "additionalProperties", "items", "anyOf"],
      sub.get key = none) : Document (oneProperty sub) := by
  have inner : Schema (oneProperty sub) (.dict sub) := by
    refine .intro shaped ?_ ?_ ?_ ?_
    all_goals intros; simp_all [Fields.get]
  have outer : Shaped (oneProperty sub)
      [("type", .str "object"), ("properties", .dict [("n", .dict sub)])] :=
    { type := fun t has => ⟨"object", by decide, (Option.some.inj has).symm⟩
      properties := fun p has => ⟨[("n", .dict sub)], (Option.some.inj has).symm⟩
      enum := fun _ has => by cases has
      required := fun _ has => by cases has
      additional := fun _ has => by cases has
      minItems := fun _ has => by cases has
      items := fun _ has => by cases has
      minimum := fun _ has => by cases has
      maximum := fun _ has => by cases has
      anyOf := fun _ has => by cases has
      ref := fun _ has => by cases has }
  refine ⟨.intro outer (fun props key sub' has inside => ?_) (fun _ has => by cases has)
    (fun _ has => by cases has) (fun _ _ has => by cases has), fun _ _ has => by cases has⟩
  cases has
  obtain rfl : sub' = .dict sub := by
    have listed := mem_of_assocGet inside
    exact (Prod.ext_iff.mp (List.mem_singleton.mp listed)).2
  exact inner

def boundedInteger : Fields := [("type", .str "integer"), ("minimum", .int 1)]

theorem document_boundedInteger : Document (oneProperty boundedInteger) := by
  refine document_oneProperty ⟨fun t has => ⟨"integer", by decide, (Option.some.inj has).symm⟩,
    nofun, nofun, nofun, nofun, nofun, nofun, fun m has => ?_, nofun, nofun, nofun⟩ (by decide)
  cases has
  rfl

end Agreement

end SthBoring.Capability.SchemaAgreement
