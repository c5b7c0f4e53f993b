/- Module: SthBoring/Capability/JsonSchema
   source: JSON Schema's own definition of the keywords that the models emit
   digest: Which values a schema allows, as the standard has it. -/

import SthBoring.Lib.PyValue

set_option autoImplicit false
set_option relaxedAutoImplicit false

namespace SthBoring.Capability.JsonSchema

open SthBoring.Lib.PyValue (Value Fields)
open SthBoring.Lib.OrderedDict (assocGet)

/-- The numbers of JSON; booleans are not among them. -/
def jsonNumber : Value → Option ℚ
  | .int n => some n
  | .float x => some x.value
  | _ => none

mutual

/-- Equality of JSON values: numbers by value, objects without regard to order. -/
def jsonEq : Value → Value → Bool
  | .null, .null => true
  | .bool b, .bool c => b == c
  | .str s, .str t => s == t
  | .list xs, .list ys => jsonEqList xs ys
  | .dict es, .dict fs => es.length == fs.length && jsonEqFields es fs
  | a, b =>
    match jsonNumber a, jsonNumber b with
    | some x, some y => x == y
    | _, _ => false

def jsonEqList : List Value → List Value → Bool
  | [], [] => true
  | x :: xs, y :: ys => jsonEq x y && jsonEqList xs ys
  | _, _ => false

def jsonEqFields : Fields → Fields → Bool
  | [], _ => true
  | (k, v) :: es, fs =>
    (match assocGet k fs with
      | some w => jsonEq v w
      | none => false) && jsonEqFields es fs

end

def typeNames : List String :=
  ["null", "boolean", "string", "integer", "number", "array", "object"]

/-- The types of JSON Schema; an integer is a number without a fraction. -/
def hasType (value : Value) : String → Bool
  | "null" => match value with | .null => true | _ => false
  | "boolean" => value.isBool
  | "string" => value.isStr
  | "integer" => match jsonNumber value with | some q => q.den == 1 | none => false
  | "number" => (jsonNumber value).isSome
  | "array" => match value with | .list _ => true | _ => false
  | "object" => match value with | .dict _ => true | _ => false
  | _ => false

/-- What the keywords that hold no schemas demand. -/
structure Assertions (value : Value) (fields : Fields) : Prop where
  type : ∀ name, fields.get "type" = some (.str name) → hasType value name = true
  enum : ∀ members, fields.get "enum" = some (.list members) → ∃ m ∈ members, jsonEq m value = true
  const : ∀ c, fields.get "const" = some c → jsonEq c value = true
  required : ∀ entries keys, value = .dict entries → fields.get "required" = some (.list keys) →
    ∀ key, Value.str key ∈ keys → key ∈ entries.map Prod.fst
  minItems : ∀ items n, value = .list items → fields.get "minItems" = some (.int n) →
    n ≤ items.length
  minimum : ∀ q m b, jsonNumber value = some q → fields.get "minimum" = some m →
    jsonNumber m = some b → b ≤ q
  maximum : ∀ q m b, jsonNumber value = some q → fields.get "maximum" = some m →
    jsonNumber m = some b → q ≤ b

/-- The schema under `$defs` of the root that a name stands for. -/
def definition (root : Value) (name : String) : Option Value :=
  match root with
  | .dict fields =>
    match Fields.get fields "$defs" with
    | some (.dict defs) => Fields.get defs name
    | _ => none
  | _ => none

/-- No entry under `properties` speaks of this key. -/
def Undeclared (fields : Fields) (key : String) : Prop :=
  ∀ props : Fields, fields.get "properties" = some (.dict props) → props.get key = none

/-- The value is valid: every keyword of the schema allows it, whatever its siblings say.
Nothing is valid under `false`. -/
inductive Valid (root : Value) : Value → Value → Prop where
  | anything (value : Value) : Valid root value (.bool true)
  | keywords {value : Value} {fields : Fields} (branch : Value)
      (assertions : Assertions value fields)
      (ref : ∀ name target, fields.get "$ref" = some (.str ("#/$defs/" ++ name)) →
        definition root name = some target → Valid root value target)
      (listed : ∀ branches, fields.get "anyOf" = some (.list branches) → branch ∈ branches)
      (anyOf : ∀ branches, fields.get "anyOf" = some (.list branches) → Valid root value branch)
      (properties : ∀ (entries props : Fields) e sub, value = .dict entries →
        fields.get "properties" = some (.dict props) → e ∈ entries →
        props.get (Prod.fst e) = some sub → Valid root (Prod.snd e) sub)
      (additional : ∀ (entries : Fields) sub e, value = .dict entries →
        fields.get "additionalProperties" = some sub → e ∈ entries →
        Undeclared fields (Prod.fst e) → Valid root (Prod.snd e) sub)
      (items : ∀ values sub x, value = .list values → fields.get "items" = some sub →
        x ∈ values → Valid root x sub) :
      Valid root value (.dict fields)

section Rules

variable {root value : Value} {fields : Fields}

/-- The keywords of a valid value, one by one. -/
structure Obeyed (root value : Value) (fields : Fields) : Prop where
  assertions : Assertions value fields
  ref : ∀ name target, fields.get "$ref" = some (.str ("#/$defs/" ++ name)) →
    definition root name = some target → Valid root value target
  anyOf : ∀ branches, fields.get "anyOf" = some (.list branches) →
    ∃ b ∈ branches, Valid root value b
  properties : ∀ (entries props : Fields) e sub, value = .dict entries →
    fields.get "properties" = some (.dict props) → e ∈ entries → props.get e.1 = some sub →
    Valid root e.2 sub
  additional : ∀ (entries : Fields) sub e, value = .dict entries →
    fields.get "additionalProperties" = some sub → e ∈ entries → Undeclared fields e.1 →
    Valid root e.2 sub
  items : ∀ values sub x, value = .list values → fields.get "items" = some sub → x ∈ values →
    Valid root x sub

theorem valid_dict_iff : Valid root value (.dict fields) ↔ Obeyed root value fields := by
  constructor
  · intro valid
    cases valid with
    | keywords branch assertions ref listed anyOf properties additional items =>
      exact ⟨assertions, ref, fun bs h => ⟨_, listed bs h, anyOf bs h⟩, properties, additional,
        items⟩
  · rintro ⟨assertions, ref, anyOf, properties, additional, items⟩
    by_cases some_branch : ∃ bs, fields.get "anyOf" = some (.list bs)
    · obtain ⟨bs, found⟩ := some_branch
      obtain ⟨b, hb, fits⟩ := anyOf bs found
      have same : ∀ bs', fields.get "anyOf" = some (.list bs') → bs' = bs := by
        intro bs' found'
        rw [found] at found'
        cases found'
        rfl
      refine .keywords b assertions ref (fun bs' h => ?_) (fun _ _ => fits) properties
        additional items
      rw [same bs' h]
      exact hb
    · exact .keywords .null assertions ref (fun bs h => absurd ⟨bs, h⟩ some_branch)
        (fun bs h => absurd ⟨bs, h⟩ some_branch) properties additional items

theorem valid_true : Valid root value (.bool true) := .anything value

/-- A schema without keywords allows everything. -/
theorem valid_empty : Valid root value (.dict []) := by
  refine valid_dict_iff.mpr ⟨⟨?_, ?_, ?_, ?_, ?_, ?_, ?_⟩, ?_, ?_, ?_, ?_, ?_⟩
  all_goals intros; simp_all [Fields.get]

theorem not_valid_false : ¬ Valid root value (.bool false) := nofun

end Rules

section Equality

theorem number_of_jsonNumber {v : Value} {q : ℚ} (h : jsonNumber v = some q) :
    v.number = some q := by
  cases v <;> first | exact h | cases h

mutual

/-- Equal in JSON is equal in Python, which has other equal values besides: `1 == True`. -/
theorem pyEq_of_jsonEq (v w : Value) (h : jsonEq v w = true) : v.pyEq w = true := by
  cases v with
  | null => cases w <;> simp_all [jsonEq, jsonNumber, Value.pyEq]
  | bool b => cases w <;> simp_all [jsonEq, jsonNumber, Value.pyEq, Value.number]
  | int n => cases w <;> simp_all [jsonEq, jsonNumber, Value.pyEq, Value.number]
  | float x => cases w <;> simp_all [jsonEq, jsonNumber, Value.pyEq, Value.number]
  | str s => cases w <;> simp_all [jsonEq, jsonNumber, Value.pyEq]
  | bytes b => cases w <;> simp_all [jsonEq, jsonNumber]
  | list xs =>
    cases w with
    | list ys => exact pyEqList_of_jsonEqList xs ys h
    | _ => simp_all [jsonEq, jsonNumber]
  | dict es =>
    cases w with
    | dict fs =>
      simp only [jsonEq, Bool.and_eq_true] at h
      simp only [Value.pyEq, Bool.and_eq_true]
      exact ⟨h.1, pyEqFields_of_jsonEqFields es fs h.2⟩
    | _ => simp_all [jsonEq, jsonNumber]
  | obj c es => cases w <;> simp_all [jsonEq, jsonNumber]

theorem pyEqList_of_jsonEqList (xs ys : List Value) (h : jsonEqList xs ys = true) :
    Value.pyEqList xs ys = true := by
  cases xs with
  | nil => cases ys with
    | nil => rfl
    | cons y ys => cases h
  | cons x xs => cases ys with
    | nil => cases h
    | cons y ys =>
      simp only [jsonEqList, Bool.and_eq_true] at h
      simp only [Value.pyEqList, Bool.and_eq_true]
      exact ⟨pyEq_of_jsonEq x y h.1, pyEqList_of_jsonEqList xs ys h.2⟩

theorem pyEqFields_of_jsonEqFields (es fs : Fields) (h : jsonEqFields es fs = true) :
    Value.pyEqFields es fs = true := by
  cases es with
  | nil => simp [Value.pyEqFields]
  | cons e es =>
    obtain ⟨k, v⟩ := e
    simp only [jsonEqFields, Bool.and_eq_true] at h
    simp only [Value.pyEqFields, Bool.and_eq_true]
    refine ⟨?_, pyEqFields_of_jsonEqFields es fs h.2⟩
    cases found : assocGet k fs with
    | none =>
      rw [found] at h
      cases h.1
    | some w =>
      rw [found] at h
      exact pyEq_of_jsonEq v w h.1

end

end Equality

end SthBoring.Capability.JsonSchema
