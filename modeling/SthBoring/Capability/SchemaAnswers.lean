/- Module: SthBoring/Capability/SchemaAnswers
   source: sdk_test_agent/capability/schema_validation.py
   digest: When the parts of the checker return, and when they find nothing. -/

import Mathlib.Algebra.Order.Field.Rat
import SthBoring.Capability.SchemaValidation

set_option autoImplicit false
set_option relaxedAutoImplicit false

namespace SthBoring.Capability.SchemaAnswers

open SthBoring.Lib.OrderedDict (assocGet assocGet_eq_none_iff)
open SthBoring.Lib.PyValue (Value Fields PyExc collect collect_cons_eq_ok)
open SthBoring.Capability.SchemaValidation

/-- A check returns, and finds no errors just in case. -/
def Answers (checked : Checked) (P : Prop) : Prop :=
  ∃ errors, checked = .ok errors ∧ (errors = [] ↔ P)

section Rules

variable {P Q : Prop} {path : String}

theorem Answers.congr {checked : Checked} (h : Answers checked P) (same : P ↔ Q) :
    Answers checked Q := by
  obtain ⟨errors, returned, clean⟩ := h
  exact ⟨errors, returned, clean.trans same⟩

theorem answers_none (h : P) : Answers (.ok []) P := ⟨[], rfl, iff_of_true rfl h⟩

theorem answers_report {complaint : String} (h : ¬ P) : Answers (report path complaint) P :=
  ⟨_, rfl, iff_of_false (List.cons_ne_nil _ _) h⟩

theorem answers_collect {α : Type} {f : α → Checked} {Q : α → Prop} {xs : List α}
    (each : ∀ x ∈ xs, Answers (f x) (Q x)) : Answers (collect f xs) (∀ x ∈ xs, Q x) := by
  induction xs with
  | nil => exact answers_none nofun
  | cons x xs ih =>
    obtain ⟨ys, hx, first⟩ := each x List.mem_cons_self
    obtain ⟨zs, hxs, rest⟩ := ih fun y hy => each y (List.mem_cons_of_mem x hy)
    refine ⟨ys ++ zs, collect_cons_eq_ok.mpr ⟨ys, zs, hx, hxs, rfl⟩, ?_⟩
    rw [List.append_eq_nil_iff, first, rest, List.forall_mem_cons]

theorem subscript_dict {fields : Fields} {key : String} {v : Value} (found : fields.get key = some v) :
    (Value.dict fields).subscript key = .ok v := by
  have inside : assocGet key fields = some v := found
  simp only [Value.subscript, inside]

end Rules

section Parts

variable {recurse : Recurse} {value : Value} {fields : Fields} {path : String}

/-- With an `anyOf` the value must fit one of its branches. -/
theorem answers_anyOf {α : Type} {args : List α} {schemaOf : α → Value} {P : α → Prop}
    (listed : fields.get "anyOf" = some (.list (args.map schemaOf)))
    (each : ∀ a ∈ args, Answers (recurse value (schemaOf a) path) (P a)) :
    Answers (validateAnyOf recurse value (.dict fields) path) (∃ a ∈ args, P a) := by
  have all : ∃ errors, branchErrors recurse value path (args.map schemaOf) = .ok errors ∧
      (errors.any List.isEmpty = true ↔ ∃ a ∈ args, P a) := by
    clear listed
    induction args with
    | nil => exact ⟨[], rfl, by simp⟩
    | cons a args ih =>
      obtain ⟨found, returned, clean⟩ := each a List.mem_cons_self
      obtain ⟨rest, returned', some'⟩ := ih fun b hb => each b (List.mem_cons_of_mem a hb)
      refine ⟨found :: rest, ?_, ?_⟩
      · simp only [List.map_cons, branchErrors, returned, returned', bind, Except.bind, pure,
          Except.pure]
      · rw [List.any_cons, Bool.or_eq_true, some', List.isEmpty_iff, clean]
        simp
  obtain ⟨errors, returned, found⟩ := all
  unfold validateAnyOf
  rw [subscript_dict listed]
  simp only [Value.iter, returned, bind, Except.bind]
  by_cases fits : errors.any List.isEmpty = true
  · rw [if_pos fits]
    exact answers_none (found.mp fits)
  · rw [if_neg fits]
    exact answers_report fun holds => fits (found.mpr holds)

theorem isSome_get_iff {entries : Fields} {key : String} :
    (entries.get key).isSome = true ↔ key ∈ entries.map Prod.fst := by
  rw [Option.isSome_iff_ne_none, Ne, Fields.get, assocGet_eq_none_iff, not_not]

theorem answers_missingRequired {entries : Fields} (key : String) :
    Answers (missingRequired (.dict entries) path (.str key)) (key ∈ entries.map Prod.fst) := by
  unfold missingRequired
  rw [contains_dict]
  simp only [bind, Except.bind]
  by_cases inside : (entries.get key).isSome = true
  · rw [if_pos inside]
    exact answers_none (isSome_get_iff.mp inside)
  · rw [if_neg inside]
    exact answers_report fun holds => inside (isSome_get_iff.mpr holds)

/-- A closed object objects to every key that is not declared. -/
theorem answers_additionalErrors {entries props : Fields} :
    Answers (additionalErrors entries (.dict props) path)
      (∀ e ∈ entries, e.1 ∈ props.map Prod.fst) := by
  have declared : SchemaValidation.setOf (.dict props) =
      .ok (props.map (fun e => Value.str e.1)) := by
    have plain : (props.map (fun e => Value.str e.1)).find? (fun x => !x.hashable) = none := by
      simp [Value.hashable]
    simp only [SchemaValidation.setOf, Value.iter, bind, Except.bind, plain, pure, Except.pure]
  have returned : ∃ errors, additionalErrors entries (.dict props) path = .ok errors ∧
      errors = (((entries.map Prod.fst).filter (fun key =>
        !(props.map (fun e => Value.str e.1)).any (Value.pyEq (.str key)))).insertionSort
          (· ≤ ·)).map (fun key => ⟨s!"{path}.{key}", "additional property is not allowed"⟩) := by
    refine ⟨_, ?_, rfl⟩
    simp only [additionalErrors, additionalKeys, declared, bind, Except.bind, pure, Except.pure]
  obtain ⟨errors, returned, shape⟩ := returned
  refine ⟨errors, returned, ?_⟩
  · constructor
    · intro clean
      rw [clean] at returned
      exact declared_of_additionalErrors returned
    · intro all
      have none_left : (entries.map Prod.fst).filter (fun key =>
          !(props.map (fun e => Value.str e.1)).any (Value.pyEq (.str key))) = [] := by
        refine List.filter_eq_nil_iff.mpr fun key hk => ?_
        obtain ⟨e, he, rfl⟩ := List.mem_map.mp hk
        obtain ⟨p, hp, same⟩ := List.mem_map.mp (all e he)
        have inside : (props.map (fun e => Value.str e.1)).any (Value.pyEq (.str e.1)) = true :=
          List.any_eq_true.mpr ⟨.str p.1, List.mem_map_of_mem hp, by simp [Value.pyEq, same]⟩
        simp [inside]
      rw [shape, none_left]
      rfl

theorem answers_validateEntry {props : Fields} {entry : String × Value} {P : Value → Prop}
    (each : ∀ sub, props.get entry.1 = some sub →
      Answers (recurse entry.2 sub s!"{path}.{entry.1}") (P sub)) :
    Answers (validateEntry recurse (.dict props) path entry)
      (∀ sub, props.get entry.1 = some sub → P sub) := by
  unfold validateEntry
  rw [contains_dict]
  simp only [bind, Except.bind]
  cases found : props.get entry.1 with
  | none =>
    rw [if_neg (by simp)]
    exact answers_none nofun
  | some sub =>
    rw [if_pos (by simp), subscript_dict found]
    exact (each sub found).congr (by simp)

/-- An object has the required keys, no others if it is closed, and fits where it is declared. -/
theorem answers_object {entries props : Fields} {keys : List String}
    {P : String × Value → Value → Prop}
    (required : (fields.get "required").getD (.list []) = .list (keys.map .str))
    (properties : (fields.get "properties").getD (.dict []) = .dict props)
    (each : ∀ e ∈ entries, ∀ sub, props.get e.1 = some sub →
      Answers (recurse e.2 sub s!"{path}.{e.1}") (P e sub)) :
    Answers (validateObject recurse (.dict entries) (.dict fields) path)
      ((∀ key ∈ keys, key ∈ entries.map Prod.fst) ∧
        (fields.get "additionalProperties" = some (.bool false) →
          ∀ e ∈ entries, e.1 ∈ props.map Prod.fst) ∧
        ∀ e ∈ entries, ∀ sub, props.get e.1 = some sub → P e sub) := by
  have all : Answers (collect (missingRequired (.dict entries) path) (keys.map .str))
      (∀ key ∈ keys, key ∈ entries.map Prod.fst) := by
    refine (answers_collect (Q := fun v => ∀ key, v = .str key → key ∈ entries.map Prod.fst)
      fun v hv => ?_).congr ?_
    · obtain ⟨key, -, rfl⟩ := List.mem_map.mp hv
      exact (answers_missingRequired key).congr
        ⟨fun inside k same => Value.str.inj same ▸ inside, fun h => h key rfl⟩
    · constructor
      · intro h key hk
        exact h (.str key) (List.mem_map_of_mem hk) key rfl
      · intro h v hv key same
        obtain ⟨k, hk, rfl⟩ := List.mem_map.mp hv
        exact Value.str.inj same ▸ h k hk
  have extra : Answers
      (if SchemaValidation.isFalse ((fields.get "additionalProperties").getD .null) then
        additionalErrors entries (.dict props) path else .ok [])
      (fields.get "additionalProperties" = some (.bool false) →
        ∀ e ∈ entries, e.1 ∈ props.map Prod.fst) := by
    by_cases closed : fields.get "additionalProperties" = some (.bool false)
    · have yes : SchemaValidation.isFalse ((fields.get "additionalProperties").getD .null) = true := by
        rw [closed]
        rfl
      rw [if_pos yes]
      exact answers_additionalErrors.congr ⟨fun h _ => h, fun h => h closed⟩
    · have open' : ¬ SchemaValidation.isFalse
          ((fields.get "additionalProperties").getD .null) = true := by
        intro h
        cases found : fields.get "additionalProperties" with
        | none =>
          rw [found] at h
          cases h
        | some v =>
          rw [found, Option.getD_some] at h
          cases v with
          | bool b =>
            cases b with
            | false => exact closed found
            | true => cases h
          | _ => cases h
      rw [if_neg open']
      exact answers_none fun h => absurd h closed
  have nested := answers_collect (f := validateEntry recurse (.dict props) path)
    fun e he => answers_validateEntry (each e he)
  obtain ⟨missing, hmissing, cleanMissing⟩ := all
  obtain ⟨more, hmore, cleanMore⟩ := extra
  obtain ⟨inside, hinside, cleanInside⟩ := nested
  refine ⟨missing ++ more ++ inside, ?_, ?_⟩
  · cases closed : SchemaValidation.isFalse ((fields.get "additionalProperties").getD .null) with
    | true =>
      rw [closed, if_pos rfl] at hmore
      simp only [validateObject, getOr_dict, required, properties, Value.iter, hmissing, hinside,
        closed, if_true, hmore, bind, Except.bind, pure, Except.pure]
    | false =>
      rw [closed, if_neg Bool.false_ne_true] at hmore
      cases hmore
      simp only [validateObject, getOr_dict, required, properties, Value.iter, hmissing, hinside,
        closed, Bool.false_eq_true, if_false, bind, Except.bind, pure, Except.pure]
  · rw [List.append_eq_nil_iff, List.append_eq_nil_iff, cleanMissing, cleanMore, cleanInside,
      and_assoc]

theorem answers_object_other (other : ∀ entries, value ≠ .dict entries) :
    Answers (validateObject recurse value (.dict fields) path) False := by
  unfold validateObject
  split
  · exact absurd rfl (other _)
  · exact answers_report id

/-- An array has items enough, and each fits. -/
theorem answers_array {items : List Value} {minItems : Option ℤ} {P : Value → Prop}
    (bound : fields.get "minItems" = minItems.map .int)
    (each : (∀ n, minItems = some n → n ≤ items.length) → ∀ x ∈ items, ∀ path, Answers
      (recurse x ((fields.get "items").getD (.dict [])) path) (P x)) :
    Answers (validateArray recurse (.list items) (.dict fields) path)
      ((∀ n, minItems = some n → n ≤ items.length) ∧ ∀ x ∈ items, P x) := by
  have swept (enough : ∀ n, minItems = some n → n ≤ items.length) : Answers
      (collect (fun item : Value × ℕ => recurse item.1 ((fields.get "items").getD (.dict []))
        s!"{path}[{item.2}]") items.zipIdx) (∀ x ∈ items, P x) := by
    refine (answers_collect (Q := fun item : Value × ℕ => P item.1) fun item hi => ?_).congr ?_
    · exact each enough item.1 (List.fst_mem_of_mem_zipIdx hi) _
    · constructor
      · intro h x hx
        obtain ⟨idx, inRange, hidx⟩ := List.mem_iff_getElem.mp hx
        refine h (x, idx) ?_
        rw [List.mem_zipIdx_iff_getElem?, List.getElem?_eq_getElem inRange, hidx]
      · intro h item hi
        exact h item.1 (List.fst_mem_of_mem_zipIdx hi)
  unfold validateArray
  simp only [getOr_dict, bound, bind, Except.bind]
  cases minItems with
  | none => exact (swept nofun).congr (by simp)
  | some n =>
    have compared : (Value.int items.length).lt (.int n) =
        .ok (decide (((items.length : ℤ) : ℚ) < n)) := rfl
    simp only [Option.map_some, Option.getD_some, compared]
    by_cases short : (items.length : ℤ) < n
    · have short' : ((items.length : ℤ) : ℚ) < n := Rat.intCast_lt_intCast.mpr short
      rw [if_pos (decide_eq_true short')]
      refine answers_report fun h => ?_
      have enough := h.1 n rfl
      omega
    · have short' : ¬ ((items.length : ℤ) : ℚ) < n := fun h => short (Rat.intCast_lt_intCast.mp h)
      rw [if_neg (by simpa using short')]
      have enough : ∀ m, some n = some m → m ≤ items.length := by
        intro m hm
        rw [← Option.some.inj hm]
        omega
      exact (swept enough).congr ⟨fun h => ⟨enough, h⟩, fun h => h.2⟩

theorem answers_array_other (other : ∀ items, value ≠ .list items) :
    Answers (validateArray recurse value (.dict fields) path) False := by
  unfold validateArray
  split
  · exact absurd rfl (other _)
  · exact answers_report id

/-- A bound on numbers, if there is one. -/
def bound (fields : Fields) (key : String) : Option ℚ := (fields.get key).bind Value.number

/-- Every bound that is there is a number. -/
def Numeric (fields : Fields) (key : String) : Prop :=
  ∀ v, fields.get key = some v → v.number.isSome = true

theorem answers_bounds {q : ℚ} (number : value.number = some q) (minimum : Numeric fields "minimum")
    (maximum : Numeric fields "maximum") :
    Answers (validateBounds value (.dict fields) path)
      ((∀ b, bound fields "minimum" = some b → b ≤ q) ∧
        ∀ b, bound fields "maximum" = some b → q ≤ b) := by
  have upper : Answers
      (do
        let hasMaximum ← (Value.dict fields).contains (.str "maximum")
        let maximum ← if hasMaximum then (Value.dict fields).subscript "maximum" else .ok .null
        let above ← if hasMaximum then value.gt maximum else .ok false
        if above then report path s!"above maximum {maximum.text}" else return [])
      (∀ b, bound fields "maximum" = some b → q ≤ b) := by
    rw [contains_dict]
    cases found : fields.get "maximum" with
    | none => exact answers_none (by simp [bound, found])
    | some m =>
      obtain ⟨b, hb⟩ := Option.isSome_iff_exists.mp (maximum m found)
      have here : bound fields "maximum" = some b := by rw [bound, found, Option.bind_some, hb]
      have compared : value.gt m = .ok (decide (b < q)) := by
        simp [Value.gt, Value.compare, number, hb]
      simp only [Option.isSome_some, if_true, subscript_dict found, compared, bind, Except.bind]
      by_cases above : b < q
      · rw [if_pos (decide_eq_true above)]
        exact answers_report fun h => absurd (h b here) (not_le.mpr above)
      · rw [if_neg (by simpa using above)]
        refine answers_none fun b' hb' => ?_
        obtain rfl : b = b' := Option.some.inj (here.symm.trans hb')
        exact not_lt.mp above
  unfold validateBounds
  rw [contains_dict]
  cases found : fields.get "minimum" with
  | none =>
    refine Answers.congr upper ?_
    simp [bound, found]
  | some m =>
    obtain ⟨b, hb⟩ := Option.isSome_iff_exists.mp (minimum m found)
    have here : bound fields "minimum" = some b := by rw [bound, found, Option.bind_some, hb]
    have compared : value.lt m = .ok (decide (q < b)) := by
      simp [Value.lt, Value.compare, number, hb]
    simp only [Option.isSome_some, if_true, subscript_dict found, compared, bind, Except.bind]
    by_cases below : q < b
    · rw [if_pos (decide_eq_true below)]
      exact answers_report fun h => absurd (h.1 b here) (not_le.mpr below)
    · rw [if_neg (by simpa using below)]
      refine Answers.congr upper ⟨fun h => ⟨fun b' hb' => ?_, h⟩, fun h => h.2⟩
      obtain rfl : b = b' := Option.some.inj (here.symm.trans hb')
      exact not_lt.mp below

end Parts

section Dispatch

variable {recurse : Recurse} {value : Value} {fields : Fields} {path : String}

/-- `_validate` on a schema that is no reference. -/
def checkResolved (recurse : Recurse) (value schema : Value) (path : String) : Checked := do
  let hasAnyOf ← schema.contains (.str "anyOf")
  if hasAnyOf then validateAnyOf recurse value schema path
  else
    let outside ← outsideEnum value schema
    match outside with
    | some allowed => report path s!"expected one of {allowed.text}"
    | none => validateTyped recurse value schema path

theorem validateTyped_null (typed : fields.get "type" = some (.str "null")) :
    validateTyped recurse value (.dict fields) path =
      if isNull value then .ok [] else report path "expected null" := by
  simp [validateTyped, getOr_dict, typed, Value.pyEq, bind, Except.bind, pure, Except.pure]

theorem validateTyped_object (typed : fields.get "type" = some (.str "object")) :
    validateTyped recurse value (.dict fields) path =
      validateObject recurse value (.dict fields) path := by
  simp [validateTyped, getOr_dict, typed, Value.pyEq, bind, Except.bind]

theorem validateTyped_array (typed : fields.get "type" = some (.str "array")) :
    validateTyped recurse value (.dict fields) path =
      validateArray recurse value (.dict fields) path := by
  simp [validateTyped, getOr_dict, typed, Value.pyEq, bind, Except.bind]

/-- The type of a schema that is looked at last: one of these, or none. -/
def ScalarType (expectedType : Value) : Prop :=
  expectedType = .null ∨ ∃ name, expectedType = .str name ∧ name ≠ "null" ∧ name ≠ "object" ∧
    name ≠ "array"

theorem validateTyped_scalar (scalar : ScalarType ((fields.get "type").getD .null)) :
    validateTyped recurse value (.dict fields) path =
      validateScalar ((fields.get "type").getD .null) value (.dict fields) path := by
  rcases scalar with absent | ⟨name, typed, notNull, notObject, notArray⟩
  · simp [validateTyped, getOr_dict, absent, Value.pyEq, Value.number, bind, Except.bind]
  · simp [validateTyped, getOr_dict, typed, Value.pyEq, notNull, notObject, notArray, bind,
      Except.bind]

theorem answers_scalar {expectedType : Value} (minimum : Numeric fields "minimum")
    (maximum : Numeric fields "maximum") :
    Answers (validateScalar expectedType value (.dict fields) path)
      (typeMismatch expectedType value = none ∧ ∀ q, value.number = some q →
        (∀ b, bound fields "minimum" = some b → b ≤ q) ∧
          ∀ b, bound fields "maximum" = some b → q ≤ b) := by
  unfold validateScalar
  cases typed : typeMismatch expectedType value with
  | some complaint => exact answers_report (by simp)
  | none =>
    cases number : value.number with
    | none =>
      rw [if_neg (by simp [Value.isNumber, number])]
      exact answers_none ⟨rfl, nofun⟩
    | some q =>
      rw [if_pos (by simp [Value.isNumber, number])]
      refine (answers_bounds number minimum maximum).congr ⟨fun h => ⟨rfl, ?_⟩, fun h => h.2 q rfl⟩
      intro q' same
      rw [← Option.some.inj same]
      exact h

/-- The value is among those that an `enum` lists, as `in` compares them. -/
def Listed (value : Value) (fields : Fields) : Prop :=
  ∀ members, fields.get "enum" = some (.list members) →
    members.any (fun x => x.pyEq value) = true

theorem outsideEnum_dict (value : Value)
    (enum : ∀ e, fields.get "enum" = some e → ∃ members, e = .list members) :
    ∃ outside, outsideEnum value (.dict fields) = .ok outside ∧
      (outside = none ↔ Listed value fields) := by
  unfold outsideEnum
  rw [contains_dict]
  cases found : fields.get "enum" with
  | none => exact ⟨none, rfl, iff_of_true rfl fun ms same => by rw [found] at same; cases same⟩
  | some e =>
    obtain ⟨members, rfl⟩ := enum e found
    simp only [Option.isSome_some, if_true, subscript_dict found, Value.contains, bind, Except.bind,
      pure, Except.pure]
    cases inside : members.any (fun x => x.pyEq value) with
    | true =>
      refine ⟨none, rfl, iff_of_true rfl fun ms same => ?_⟩
      rw [found] at same
      cases same
      exact inside
    | false =>
      refine ⟨some (.list members), rfl, iff_of_false (by simp) fun h => ?_⟩
      rw [h members found] at inside
      cases inside

/-- Without an `anyOf` the value must be one of the values listed, and fit by its type. -/
theorem answers_typed {P : Prop} (noAnyOf : fields.get "anyOf" = none)
    (enum : ∀ e, fields.get "enum" = some e → ∃ members, e = .list members)
    (typed : Listed value fields → Answers (validateTyped recurse value (.dict fields) path) P) :
    Answers (checkResolved recurse value (.dict fields) path) (Listed value fields ∧ P) := by
  obtain ⟨outside, returned, inside⟩ := outsideEnum_dict value enum
  unfold checkResolved
  rw [contains_dict, noAnyOf]
  simp only [Option.isSome_none, Bool.false_eq_true, if_false, returned, bind, Except.bind]
  cases outside with
  | some allowed =>
    refine answers_report fun h => ?_
    cases inside.mpr h.1
  | none => exact (typed (inside.mp rfl)).congr ⟨fun h => ⟨inside.mp rfl, h⟩, fun h => h.2⟩

theorem answers_of_noEnum {P : Prop} (noAnyOf : fields.get "anyOf" = none)
    (noEnum : fields.get "enum" = none)
    (typed : Answers (validateTyped recurse value (.dict fields) path) P) :
    Answers (checkResolved recurse value (.dict fields) path) P := by
  have listed : Listed value fields := by
    intro members found
    rw [noEnum] at found
    cases found
  refine (answers_typed noAnyOf (fun e found => ?_) fun _ => typed).congr (and_iff_right listed)
  rw [noEnum] at found
  cases found

theorem answers_branches {α : Type} (args : List α) (schemaOf : α → Value) {P : α → Prop}
    (listed : fields.get "anyOf" = some (.list (args.map schemaOf)))
    (each : ∀ a ∈ args, Answers (recurse value (schemaOf a) path) (P a)) :
    Answers (checkResolved recurse value (.dict fields) path) (∃ a ∈ args, P a) := by
  unfold checkResolved
  rw [contains_dict, listed]
  exact answers_anyOf listed each

variable {depth : ℕ} {root : Value}

/-- A schema that is no reference is checked as it is; an empty one lets everything pass. -/
theorem validate_of_noRef (noRef : fields.get "$ref" = none) :
    validate (depth + 1) root value (.dict fields) path =
      checkResolved (fun v s p => validate depth root v s p) value (.dict fields) path := by
  cases fields with
  | nil =>
    have scalar : ScalarType ((Fields.get [] "type").getD .null) := Or.inl rfl
    have typed : validateTyped (fun v s p => validate depth root v s p) value (.dict []) path =
        validateScalar .null value (.dict []) path := validateTyped_scalar scalar
    have passed : validateScalar .null value (.dict []) path = .ok [] := by
      have quiet : typeMismatch .null value = none := rfl
      have bounds : validateBounds value (.dict []) path = .ok [] := rfl
      simp only [validateScalar, quiet, bounds, ite_self]
    have resolved : checkResolved (fun v s p => validate depth root v s p) value (.dict []) path =
        validateTyped (fun v s p => validate depth root v s p) value (.dict []) path := rfl
    rw [resolved, typed]
    exact passed.symm
  | cons e fields =>
    have noRef' : (Value.dict (e :: fields)).contains (.str "$ref") = .ok false := by
      rw [contains_dict, noRef]
      rfl
    simp only [validate, Value.truthy, List.isEmpty_cons, Bool.not_false, Bool.not_true,
      Bool.false_eq_true, if_false, deref, noRef', checkResolved]
    rfl

/-- A reference stands for the definition it names. -/
theorem validate_of_ref {name : String} {rootFields defs : Fields} {target : Value}
    (ref : fields.get "$ref" = some (.str ("#/$defs/" ++ name)))
    (defined : rootFields.get "$defs" = some (.dict defs)) (named : defs.get name = some target) :
    validate (depth + 1) (.dict rootFields) value (.dict fields) path =
      checkResolved (fun v s p => validate depth (.dict rootFields) v s p) value target path := by
  have truthy : (Value.dict fields).truthy = true := by
    cases fields with
    | nil => cases ref
    | cons e fields => rfl
  have plain : defsName ("#/$defs/" ++ name) = some name := by
    unfold defsName
    have split : ("#/$defs/" ++ name).toList = "#/$defs/".toList ++ name.toList :=
      String.toList_append
    rw [split]
    simp
  have resolved : deref (.dict fields) (.dict rootFields) = .ok target := by
    simp only [deref, contains_dict, ref, Option.isSome_some, if_true, subscript_dict ref,
      resolveRef, plain, getOr_dict, defined, Option.getD_some, named, bind, Except.bind]
  simp only [validate, truthy, Bool.not_true, Bool.false_eq_true, if_false, resolved, checkResolved]
  rfl

end Dispatch

end SthBoring.Capability.SchemaAnswers
