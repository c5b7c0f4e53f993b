/- Module: SthBoring/Capability/SchemaOrder
   source: sdk_test_agent/capability/schema_validation.py
   digest: The checker reports as many errors whatever the order of the members of a schema. -/

import Mathlib.Data.ENat.Basic
import Mathlib.Algebra.BigOperators.Group.List.Basic
import SthBoring.Lib.CanonicalJson
import SthBoring.Capability.SchemaValidation

set_option autoImplicit false
set_option relaxedAutoImplicit false

namespace SthBoring.Capability.SchemaOrder

open SthBoring.Lib.OrderedDict (assocGet)
open SthBoring.Lib.PyValue (Value Fields PyExc bind_eq_ok collect)
open SthBoring.Lib.JsonValue
open SthBoring.Lib.CanonicalJson
open SthBoring.Capability.SchemaValidation

section Counting

/-- How many errors a check reports. One that raises counts as infinitely many. -/
def errorCount : Checked → ℕ∞
  | .ok errors => errors.length
  | .error _ => ⊤

@[simp] theorem errorCount_ok (errors : List SchemaError) :
    errorCount (.ok errors) = errors.length := rfl

@[simp] theorem errorCount_error (exc : PyExc) : errorCount (.error exc) = ⊤ := rfl

@[simp] theorem errorCount_report (path complaint : String) :
    errorCount (report path complaint) = 1 := rfl

theorem errorCount_append (x y : Checked) :
    errorCount (do let a ← x; let b ← y; return a ++ b) = errorCount x + errorCount y := by
  cases x with
  | error exc => simp [bind, Except.bind]
  | ok a =>
    cases y with
    | error exc => simp [bind, Except.bind]
    | ok b => simp [bind, Except.bind, pure, Except.pure]

theorem errorCount_append₃ (x y z : Checked) :
    errorCount (do let a ← x; let b ← y; let c ← z; return a ++ b ++ c) =
      errorCount x + errorCount y + errorCount z := by
  cases x with
  | error exc => simp [bind, Except.bind]
  | ok a =>
    cases y with
    | error exc => simp [bind, Except.bind]
    | ok b =>
      cases z with
      | error exc => simp [bind, Except.bind]
      | ok c => simp [bind, Except.bind, pure, Except.pure, add_assoc]

theorem errorCount_collect {α : Type} (f : α → Checked) (xs : List α) :
    errorCount (collect f xs) = (xs.map fun x => errorCount (f x)).sum := by
  induction xs with
  | nil => rfl
  | cons x xs ih =>
    rw [List.map_cons, List.sum_cons, ← ih]
    exact errorCount_append (f x) (collect f xs)

theorem errorCount_collect_congr {α : Type} {f g : α → Checked} {xs : List α}
    (each : ∀ x ∈ xs, errorCount (f x) = errorCount (g x)) :
    errorCount (collect f xs) = errorCount (collect g xs) := by
  rw [errorCount_collect, errorCount_collect, List.map_congr_left each]

/-- The branches of an `anyOf` count together: none may raise, and one must fit. -/
def anyOfCount (counts : List ℕ∞) : ℕ∞ := if ⊤ ∈ counts then ⊤ else if 0 ∈ counts then 0 else 1

theorem errorCount_branches (recurse : Recurse) (value : Value) (path complaint : String)
    (branches : List Value) :
    errorCount (do
        let errors ← branchErrors recurse value path branches
        if errors.any List.isEmpty then return [] else report path complaint) =
      anyOfCount (branches.map fun b => errorCount (recurse value b path)) := by
  have swept : (⊤ ∈ branches.map (fun b => errorCount (recurse value b path)) →
        ∃ exc, branchErrors recurse value path branches = .error exc) ∧
      (⊤ ∉ branches.map (fun b => errorCount (recurse value b path)) →
        ∃ errors, branchErrors recurse value path branches = .ok errors ∧
          (errors.any List.isEmpty = true ↔
            0 ∈ branches.map fun b => errorCount (recurse value b path))) := by
    induction branches with
    | nil => exact ⟨nofun, fun _ => ⟨[], rfl, by simp⟩⟩
    | cons b branches ih =>
      cases first : recurse value b path with
      | error exc =>
        refine ⟨fun _ => ⟨exc, by simp [branchErrors, first, bind, Except.bind]⟩, fun finite => ?_⟩
        exact absurd (by simp [first]) finite
      | ok found =>
        constructor
        · intro raised
          obtain ⟨exc, rest⟩ := ih.1 (by simpa [first] using raised)
          exact ⟨exc, by simp [branchErrors, first, rest, bind, Except.bind]⟩
        · intro finite
          obtain ⟨errors, rest, clean⟩ := ih.2 (by simpa [first] using finite)
          refine ⟨found :: errors, by simp [branchErrors, first, rest, bind, Except.bind, pure,
            Except.pure], ?_⟩
          rw [List.any_cons, Bool.or_eq_true, clean, List.map_cons, List.mem_cons, first,
            List.isEmpty_iff, errorCount_ok, eq_comm (a := (0 : ℕ∞)), Nat.cast_eq_zero,
            List.length_eq_zero_iff]
  unfold anyOfCount
  split
  · next raised =>
    obtain ⟨exc, all⟩ := swept.1 raised
    simp [all, bind, Except.bind]
  · next finite =>
    obtain ⟨errors, all, clean⟩ := swept.2 finite
    by_cases fits : errors.any List.isEmpty = true
    · rw [if_pos (clean.mp fits)]
      simp [all, bind, Except.bind, fits, pure, Except.pure]
    · rw [if_neg fun h => fits (clean.mpr h)]
      simp [all, bind, Except.bind, fits]

end Counting

section Lookups

variable {s : Value} (json : IsJson s)

@[simp] theorem typeName_canon (v : Value) : (canon v).typeName = v.typeName := by
  cases v <;> rfl

@[simp] theorem number_canon (v : Value) : (canon v).number = v.number := by
  cases v <;> rfl

@[simp] theorem hashable_canon (v : Value) : (canon v).hashable = v.hashable := by
  cases v <;> rfl

theorem truthy_canon (v : Value) : (canon v).truthy = v.truthy := by
  cases v with
  | list xs =>
    rw [canon_list]
    cases xs <;> rfl
  | dict es =>
    have same : (canonFields es).isEmpty = es.isEmpty := by
      rw [canonFields, (perm_canonMembers es).isEmpty_eq, List.isEmpty_map]
    rw [canon_dict]
    exact congrArg (!·) same
  | _ => rfl

include json

theorem contains_canon (item : Value) : (canon s).contains item = s.contains item := by
  cases s with
  | list xs =>
    rw [canon_list, Value.contains, Value.contains, List.any_map]
    simp only [Function.comp_def, pyEq_canon]
  | dict es =>
    rw [canon_dict]
    cases item with
    | str k =>
      show Except.ok (Fields.get (canonFields es) k).isSome = .ok (Fields.get es k).isSome
      rw [get_canonFields json, Option.isSome_map]
    | _ => rfl
  | _ => rfl

theorem get_canon (key : String) : (canon s).get key = (s.get key).map (Option.map canon) := by
  cases s with
  | dict es =>
    rw [canon_dict]
    exact congrArg Except.ok (get_canonFields json key)
  | _ => rfl

theorem getOr_canon (key : String) {default : Value} (own : canon default = default) :
    getOr (canon s) key default = (getOr s key default).map canon := by
  rw [getOr, getOr, get_canon json]
  cases s.get key with
  | error exc => rfl
  | ok found =>
    cases found with
    | none => exact congrArg Except.ok own.symm
    | some v => rfl

theorem subscript_canon (key : String) : (canon s).subscript key = (s.subscript key).map canon := by
  cases s with
  | dict es =>
    have found := get_canonFields json key
    change assocGet key (canonFields es) = (assocGet key es).map canon at found
    rw [canon_dict]
    unfold canonFields at found
    unfold Value.subscript
    dsimp only
    rw [found]
    cases assocGet key es <;> rfl
  | _ => rfl

theorem isJson_of_subscript {key : String} {v : Value} (found : s.subscript key = .ok v) :
    IsJson v := by
  cases s with
  | dict es =>
    rw [Value.subscript] at found
    split at found
    · next w own =>
      cases found
      exact isJson_of_get json own
    · cases found
  | _ => cases found

theorem isJson_of_getOr {key : String} {default v : Value} (own : IsJson default)
    (found : getOr s key default = .ok v) : IsJson v := by
  cases s with
  | dict es =>
    rw [getOr_dict, Except.ok.injEq] at found
    cases member : Fields.get es key with
    | none =>
      rw [member] at found
      exact found ▸ own
    | some w =>
      rw [member] at found
      exact found ▸ isJson_of_get json member
  | _ => cases found

end Lookups

section References

variable {ref root schema value : Value}

private theorem canon_empty : canon (.dict []) = .dict [] := rfl

private theorem isJson_empty : IsJson (.dict []) := ⟨List.nodup_nil, trivial⟩

theorem resolveRef_canon (json : IsJson root) :
    resolveRef (canon ref) (canon root) = (resolveRef ref root).map canon := by
  cases ref with
  | str r =>
    show resolveRef (.str r) (canon root) = _
    rw [resolveRef, resolveRef]
    cases defsName r with
    | none => rfl
    | some name =>
      simp only [getOr_canon json "$defs" canon_empty]
      cases defs : getOr root "$defs" (.dict []) with
      | error exc => rfl
      | ok v => exact getOr_canon (isJson_of_getOr json isJson_empty defs) name canon_empty
  | list xs =>
    rw [canon_list]
    rfl
  | dict es =>
    rw [canon_dict]
    rfl
  | _ => rfl

theorem isJson_of_resolveRef (json : IsJson root) {v : Value} (found : resolveRef ref root = .ok v) :
    IsJson v := by
  cases ref with
  | str r =>
    rw [resolveRef] at found
    split at found
    · obtain ⟨defs, listed, named⟩ := bind_eq_ok.mp found
      exact isJson_of_getOr (isJson_of_getOr json isJson_empty listed) isJson_empty named
    · cases found
      exact isJson_empty
  | _ => cases found

theorem deref_canon (json : IsJson schema) (json' : IsJson root) :
    deref (canon schema) (canon root) = (deref schema root).map canon := by
  rw [deref, deref, contains_canon json, subscript_canon json]
  cases schema.contains (.str "$ref") with
  | error exc => rfl
  | ok isRef =>
    cases isRef with
    | false => rfl
    | true =>
      cases schema.subscript "$ref" with
      | error exc => rfl
      | ok ref => exact resolveRef_canon json'

theorem isJson_of_deref (json : IsJson schema) (json' : IsJson root) {v : Value}
    (found : deref schema root = .ok v) : IsJson v := by
  obtain ⟨isRef, -, found⟩ := bind_eq_ok.mp found
  cases isRef with
  | false =>
    cases found
    exact json
  | true =>
    obtain ⟨ref, -, found⟩ := bind_eq_ok.mp found
    exact isJson_of_resolveRef json' found

theorem outsideEnum_canon (json : IsJson schema) :
    outsideEnum value (canon schema) = (outsideEnum value schema).map (Option.map canon) := by
  rw [outsideEnum, outsideEnum, contains_canon json, subscript_canon json]
  cases schema.contains (.str "enum") with
  | error exc => rfl
  | ok hasEnum =>
    cases hasEnum with
    | false => rfl
    | true =>
      cases listed : schema.subscript "enum" with
      | error exc => rfl
      | ok allowed =>
        have same := contains_canon (isJson_of_subscript json listed) value
        simp only [Except.map, if_true, same, bind, Except.bind]
        cases allowed.contains value with
        | error exc => rfl
        | ok inside => cases inside <;> rfl

end References

section Iteration

/-- What two values are iterated over: the same up to the order of members. -/
inductive Renamed : Except PyExc (List Value) → Except PyExc (List Value) → Prop where
  | raised (exc exc' : PyExc) : Renamed (.error exc) (.error exc')
  | listed {xs ys : List Value} (perm : ys.Perm (xs.map canon)) : Renamed (.ok xs) (.ok ys)

theorem renamed_iter (v : Value) : Renamed v.iter (canon v).iter := by
  cases v with
  | list xs =>
    rw [canon_list]
    exact .listed (.refl _)
  | dict es =>
    rw [canon_dict]
    refine .listed ?_
    rw [List.map_map, List.map_map]
    exact (perm_sortMembers es).map _
  | str t =>
    refine .listed (.of_eq ?_)
    rw [List.map_map]
    rfl
  | bytes b =>
    refine .listed (.of_eq ?_)
    rw [List.map_map]
    rfl
  | _ => exact .raised _ _

theorem isJson_of_iter {v : Value} (json : IsJson v) {xs : List Value} (iter : v.iter = .ok xs) :
    ∀ x ∈ xs, IsJson x := by
  cases v with
  | list ys =>
    cases iter
    exact allJson_iff.mp json
  | dict es =>
    cases iter
    intro x hx
    obtain ⟨e, -, rfl⟩ := List.mem_map.mp hx
    trivial
  | str t =>
    cases iter
    intro x hx
    obtain ⟨c, -, rfl⟩ := List.mem_map.mp hx
    trivial
  | bytes b => exact json.elim
  | _ => cases iter

theorem renamed_setOf (v : Value) :
    Renamed (SchemaValidation.setOf v) (SchemaValidation.setOf (canon v)) := by
  have renamed := renamed_iter v
  unfold SchemaValidation.setOf
  generalize v.iter = left at renamed ⊢
  generalize (canon v).iter = right at renamed ⊢
  cases renamed with
  | raised exc exc' => exact .raised exc exc'
  | @listed xs ys perm =>
    have unhashable : (ys.find? fun x => !x.hashable).isSome =
        (xs.find? fun x => !x.hashable).isSome := by
      rw [List.isSome_find?, List.isSome_find?, perm.any_eq, List.any_map]
      simp only [Function.comp_def, hashable_canon]
    simp only [bind, Except.bind]
    cases hx : xs.find? fun x => !x.hashable with
    | none =>
      rw [hx, Option.isSome_none] at unhashable
      rw [Option.isNone_iff_eq_none.mp (Option.isSome_eq_false_iff.mp unhashable)]
      exact .listed perm
    | some x =>
      rw [hx, Option.isSome_some] at unhashable
      obtain ⟨y, hy⟩ := Option.isSome_iff_exists.mp unhashable
      rw [hy]
      exact .raised _ _

end Iteration

section Parts

variable {recurse recurse' : Recurse} {value schema : Value} {fields : Fields} {path : String}

/-- One checker makes of a canonical schema what the other makes of the schema. -/
def Agree (recurse recurse' : Recurse) : Prop :=
  ∀ value schema path, IsJson schema →
    errorCount (recurse' value (canon schema) path) = errorCount (recurse value schema path)

theorem anyOfCount_perm {counts counts' : List ℕ∞} (perm : counts.Perm counts') :
    anyOfCount counts = anyOfCount counts' := by
  simp only [anyOfCount, perm.mem_iff]

theorem validateAnyOf_canon (agree : Agree recurse recurse') (json : IsJson schema) :
    errorCount (validateAnyOf recurse' value (canon schema) path) =
      errorCount (validateAnyOf recurse value schema path) := by
  rw [validateAnyOf, validateAnyOf, subscript_canon json]
  cases found : schema.subscript "anyOf" with
  | error exc => rfl
  | ok anyOf =>
    have own := isJson_of_subscript json found
    have renamed := renamed_iter anyOf
    have members : ∀ xs, anyOf.iter = .ok xs → ∀ x ∈ xs, IsJson x := fun _ => isJson_of_iter own
    simp only [Except.map, bind, Except.bind]
    generalize anyOf.iter = left at renamed members ⊢
    generalize (canon anyOf).iter = right at renamed ⊢
    cases renamed with
    | raised exc exc' => rfl
    | @listed xs ys perm =>
      have counts : (ys.map fun b => errorCount (recurse' value b path)).Perm
          (xs.map fun b => errorCount (recurse value b path)) := by
        refine (perm.map _).trans (.of_eq ?_)
        rw [List.map_map]
        exact List.map_congr_left fun b hb => agree value b path (members xs rfl b hb)
      exact (errorCount_branches recurse' value path _ ys).trans ((anyOfCount_perm counts).trans
        (errorCount_branches recurse value path _ xs).symm)

theorem missingRequired_canon (entries : Fields) (key : Value) :
    errorCount (missingRequired (.dict entries) path (canon key)) =
      errorCount (missingRequired (.dict entries) path key) := by
  have same : (Value.dict entries).contains (canon key) = (Value.dict entries).contains key := by
    cases key with
    | list xs =>
      rw [canon_list]
      rfl
    | dict es =>
      rw [canon_dict]
      rfl
    | _ => rfl
  rw [missingRequired, missingRequired, same]
  cases (Value.dict entries).contains key with
  | error exc => rfl
  | ok present => cases present <;> rfl

/-- Required keys are missing or not, whatever their order. -/
theorem required_canon (entries : Fields) (required : Value) :
    errorCount (do
        let keys ← (canon required).iter
        collect (missingRequired (.dict entries) path) keys) =
      errorCount (do
        let keys ← required.iter
        collect (missingRequired (.dict entries) path) keys) := by
  have renamed := renamed_iter required
  generalize required.iter = left at renamed ⊢
  generalize (canon required).iter = right at renamed ⊢
  cases renamed with
  | raised exc exc' => rfl
  | @listed xs ys perm =>
    show errorCount (collect _ ys) = errorCount (collect _ xs)
    rw [errorCount_collect, errorCount_collect, (perm.map _).sum_eq, List.map_map]
    simp only [Function.comp_def, missingRequired_canon]

theorem pyEq_str_canon (k : String) (v : Value) :
    Value.pyEq (.str k) (canon v) = Value.pyEq (.str k) v := by
  cases v <;> rfl

theorem additionalErrors_canon (entries : Fields) (properties : Value) :
    errorCount (additionalErrors entries (canon properties) path) =
      errorCount (additionalErrors entries properties path) := by
  have renamed := renamed_setOf properties
  unfold additionalErrors additionalKeys
  generalize SchemaValidation.setOf properties = left at renamed ⊢
  generalize SchemaValidation.setOf (canon properties) = right at renamed ⊢
  cases renamed with
  | raised exc exc' => rfl
  | @listed xs ys perm =>
    have declared : ∀ key : String, ys.any (Value.pyEq (.str key)) = xs.any (Value.pyEq (.str key)) := by
      intro key
      rw [perm.any_eq, List.any_map]
      simp only [Function.comp_def, pyEq_str_canon]
    simp only [bind, Except.bind, declared]

theorem validateEntry_canon (path : String) (agree : Agree recurse recurse') {properties : Value}
    (json : IsJson properties) (entry : String × Value) :
    errorCount (validateEntry recurse' (canon properties) path entry) =
      errorCount (validateEntry recurse properties path entry) := by
  rw [validateEntry, validateEntry, contains_canon json, subscript_canon json]
  cases properties.contains (.str entry.1) with
  | error exc => rfl
  | ok declared =>
    cases declared with
    | false => rfl
    | true =>
      cases found : properties.subscript entry.1 with
      | error exc => rfl
      | ok sub => exact agree _ _ _ (isJson_of_subscript json found)

theorem isFalse_canon (v : Value) :
    SchemaValidation.isFalse (canon v) = SchemaValidation.isFalse v := by
  cases v <;> rfl

/-- The value under a key of a canonical schema. -/
theorem member_canon (json : IsJson (.dict fields)) (key : String) (default : Value)
    (own : canon default = default) :
    (Fields.get (canonFields fields) key).getD default = canon ((fields.get key).getD default) := by
  rw [get_canonFields json]
  cases fields.get key with
  | none => exact own.symm
  | some v => rfl

theorem isJson_member (json : IsJson (.dict fields)) (key : String) {default : Value}
    (own : IsJson default) : IsJson ((fields.get key).getD default) := by
  cases found : Fields.get fields key with
  | none => exact own
  | some v => exact isJson_of_get json found

/-- The errors of an object are those of its three checks. -/
theorem errorCount_object (entries : Fields) :
    errorCount (validateObject recurse (.dict entries) (.dict fields) path) =
      errorCount (do
        let keys ← ((fields.get "required").getD (.list [])).iter
        collect (missingRequired (.dict entries) path) keys) +
      errorCount (if SchemaValidation.isFalse ((fields.get "additionalProperties").getD .null) then
        additionalErrors entries ((fields.get "properties").getD (.dict [])) path else .ok []) +
      errorCount (collect
        (validateEntry recurse ((fields.get "properties").getD (.dict [])) path) entries) := by
  rw [← errorCount_append₃, validateObject]
  simp only [getOr_dict, bind, Except.bind]
  cases ((fields.get "required").getD (.list [])).iter with
  | error exc => rfl
  | ok keys =>
    cases SchemaValidation.isFalse ((fields.get "additionalProperties").getD .null) <;> rfl

theorem validateObject_canon (agree : Agree recurse recurse') (json : IsJson (.dict fields)) :
    errorCount (validateObject recurse' value (.dict (canonFields fields)) path) =
      errorCount (validateObject recurse value (.dict fields) path) := by
  cases value with
  | dict entries =>
    have properties := isJson_member json "properties" isJson_empty
    have nested := errorCount_collect_congr fun entry (_ : entry ∈ entries) =>
      validateEntry_canon path agree properties entry
    rw [errorCount_object, errorCount_object, member_canon json "required" (.list []) rfl,
      member_canon json "properties" (.dict []) rfl,
      member_canon json "additionalProperties" .null rfl, required_canon, isFalse_canon, nested]
    split
    · rw [additionalErrors_canon]
    · rfl
  | _ => rfl

theorem lt_canon (v bound : Value) : v.lt (canon bound) = v.lt bound := by
  simp only [Value.lt, Value.compare, number_canon, typeName_canon]

theorem gt_canon (v bound : Value) : v.gt (canon bound) = v.gt bound := by
  simp only [Value.gt, Value.compare, number_canon, typeName_canon]

/-- A list has fewer items than `minItems` asks for. -/
def tooShort (items : List Value) : Value → Except PyExc Bool
  | .null => .ok false
  | bound => (Value.int items.length).lt bound

theorem tooShort_canon (items : List Value) (bound : Value) :
    tooShort items (canon bound) = tooShort items bound := by
  cases bound with
  | list xs =>
    rw [canon_list]
    rfl
  | dict es =>
    rw [canon_dict]
    rfl
  | _ => rfl

theorem errorCount_array (items : List Value) {bound : Value}
    (own : (fields.get "minItems").getD .null = bound) :
    errorCount (validateArray recurse (.list items) (.dict fields) path) =
      match tooShort items bound with
      | .error _ => ⊤
      | .ok true => 1
      | .ok false => errorCount (collect (fun item : Value × ℕ =>
          recurse item.1 ((fields.get "items").getD (.dict [])) s!"{path}[{item.2}]")
          items.zipIdx) := by
  have unfolded : validateArray recurse (.list items) (.dict fields) path = (do
      let short ← tooShort items bound
      if short then report path s!"expected at least {bound.text} item(s)"
      else
        collect (fun item : Value × ℕ =>
          recurse item.1 ((fields.get "items").getD (.dict [])) s!"{path}[{item.2}]")
          items.zipIdx) := by
    simp only [validateArray, getOr_dict, own, bind, Except.bind]
    cases bound <;> rfl
  rw [unfolded]
  cases tooShort items bound with
  | error exc => rfl
  | ok short => cases short <;> rfl

theorem validateArray_canon (agree : Agree recurse recurse') (json : IsJson (.dict fields)) :
    errorCount (validateArray recurse' value (.dict (canonFields fields)) path) =
      errorCount (validateArray recurse value (.dict fields) path) := by
  cases value with
  | list items =>
    have itemSchema := isJson_member json "items" isJson_empty
    have swept := errorCount_collect_congr fun item (_ : item ∈ items.zipIdx) =>
      agree item.1 _ s!"{path}[{item.2}]" itemSchema
    rw [errorCount_array items (member_canon json "minItems" .null rfl), errorCount_array items rfl,
      member_canon json "items" (.dict []) rfl, tooShort_canon, swept]
  | _ => rfl

/-- One of the two bounds on a number, and what is done with the comparison. -/
def withBound (compare : Value → Except PyExc Bool) (schema : Value) (key : String)
    (next : Bool → Value → Checked) : Checked := do
  let present ← schema.contains (.str key)
  let bound ← if present then schema.subscript key else .ok .null
  let outside ← if present then compare bound else .ok false
  next outside bound

theorem withBound_canon {compare : Value → Except PyExc Bool} (json : IsJson schema)
    (same : ∀ v, compare (canon v) = compare v) (key : String) {next next' : Bool → Value → Checked}
    (rest : ∀ outside v, errorCount (next' outside (canon v)) = errorCount (next outside v)) :
    errorCount (withBound compare (canon schema) key next') =
      errorCount (withBound compare schema key next) := by
  rw [withBound, withBound, contains_canon json, subscript_canon json]
  cases schema.contains (.str key) with
  | error exc => rfl
  | ok present =>
    cases present with
    | false => exact rest false .null
    | true =>
      cases schema.subscript key with
      | error exc => rfl
      | ok bound =>
        simp only [Except.map, if_true, same, bind, Except.bind]
        cases compare bound with
        | error exc => rfl
        | ok outside => exact rest outside bound

theorem validateBounds_eq : validateBounds value schema path =
    withBound value.lt schema "minimum" fun below minimum =>
      if below then report path s!"below minimum {minimum.text}"
      else withBound value.gt schema "maximum" fun above maximum =>
        if above then report path s!"above maximum {maximum.text}" else return [] := rfl

theorem validateBounds_canon (json : IsJson schema) :
    errorCount (validateBounds value (canon schema) path) =
      errorCount (validateBounds value schema path) := by
  rw [validateBounds_eq, validateBounds_eq]
  refine withBound_canon json (lt_canon value) "minimum" fun below minimum => ?_
  cases below with
  | true => rfl
  | false =>
    refine withBound_canon json (gt_canon value) "maximum" fun above maximum => ?_
    cases above <;> rfl

theorem validateScalar_canon (value : Value) (path : String) (json : IsJson schema)
    (expectedType : Value) :
    errorCount (validateScalar (canon expectedType) value (canon schema) path) =
      errorCount (validateScalar expectedType value schema path) := by
  have same : typeMismatch (canon expectedType) value = typeMismatch expectedType value := by
    simp only [typeMismatch, pyEq_canon]
  rw [validateScalar, validateScalar, same]
  cases typeMismatch expectedType value with
  | some complaint => rfl
  | none =>
    cases value.isNumber with
    | false => rfl
    | true => exact validateBounds_canon json

theorem validateTyped_canon (agree : Agree recurse recurse') (json : IsJson schema) :
    errorCount (validateTyped recurse' value (canon schema) path) =
      errorCount (validateTyped recurse value schema path) := by
  rw [validateTyped, validateTyped, getOr_canon json "type" rfl]
  cases own : getOr schema "type" .null with
  | error exc => rfl
  | ok expectedType =>
    simp only [Except.map, pyEq_canon, bind, Except.bind]
    cases schema with
    | dict fields =>
      rw [canon_dict]
      have scalar := validateScalar_canon value path json expectedType
      rw [canon_dict] at scalar
      split
      · rfl
      · split
        · exact validateObject_canon agree json
        · split
          · exact validateArray_canon agree json
          · exact scalar
    | _ => cases own

end Parts

section Checker

/-- **Order of members.** A JSON schema in canonical order draws as many errors as the schema. -/
theorem errorCount_validate {root : Value} (json : IsJson root) (depth : ℕ) :
    Agree (fun v s p => validate depth root v s p) (fun v s p => validate depth (canon root) v s p) := by
  induction depth with
  | zero => exact fun _ _ _ _ => rfl
  | succ depth ih =>
    intro value schema path own
    show errorCount (validate (depth + 1) (canon root) value (canon schema) path) =
      errorCount (validate (depth + 1) root value schema path)
    rw [validate, validate, truthy_canon]
    cases schema.truthy with
    | false => rfl
    | true =>
      simp only [Bool.not_true, Bool.false_eq_true, if_false]
      rw [deref_canon own json]
      cases found : deref schema root with
      | error exc => rfl
      | ok target =>
        have here := isJson_of_deref own json found
        simp only [Except.map, contains_canon here, outsideEnum_canon here, bind, Except.bind]
        cases target.contains (.str "anyOf") with
        | error exc => rfl
        | ok hasAnyOf =>
          cases hasAnyOf with
          | true => exact validateAnyOf_canon ih here
          | false =>
            simp only [Bool.false_eq_true, if_false]
            cases outsideEnum value target with
            | error exc => rfl
            | ok outside =>
              cases outside with
              | some allowed => rfl
              | none => exact validateTyped_canon ih here

theorem errorCount_canon {schema : Value} (json : IsJson schema) (limit : ℕ) (payload : Value) :
    errorCount (validatePayloadAgainstSchema limit payload (canon schema)) =
      errorCount (validatePayloadAgainstSchema limit payload schema) :=
  errorCount_validate json limit payload schema "$" json

end Checker

end SthBoring.Capability.SchemaOrder
