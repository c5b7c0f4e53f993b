/- Module: SthBoring/Capability/ModelAgreement
   source: sdk_test_agent/capability/_pydantic_compat.py, schema_validation.py
   digest: When a model and the schema made of it take the same payloads. -/

import SthBoring.Capability.ModelShapes
import SthBoring.Capability.SchemaAnswers

set_option autoImplicit false
set_option relaxedAutoImplicit false

namespace SthBoring.Capability.ModelAgreement

open SthBoring.Lib.OrderedDict (assocGet assocGet_of_mem mem_of_assocGet)
open SthBoring.Lib.PyValue (Value Fields)
open SthBoring.Lib.JsonValue
open SthBoring.Capability.SchemaValidation
open SthBoring.Capability.SchemaAnswers
open SthBoring.Capability.CapabilityIoModels
open SthBoring.Capability.ModelValidation
open SthBoring.Capability.ModelShapes

section Bounds

/-- A number respects `ge` and `le`. -/
def InBounds (info : FieldInfo) (v : Value) : Prop :=
  ∀ q, v.number = some q → (∀ n, info.ge = some n → (n : ℚ) ≤ q) ∧
    ∀ n, info.le = some n → q ≤ (n : ℚ)

def LongEnough (info : FieldInfo) (xs : List Value) : Prop :=
  ∀ n, info.minLength = some n → n ≤ xs.length

mutual

/-- The bounds of `Field` hold, and a value under a union is of one of its members, where only
`None` is of the member `NoneType`. -/
def Within : Annotation → FieldInfo → Value → Prop
  | .list item, info, v => ∀ xs, v = .list xs → LongEnough info xs ∧ ∀ x ∈ xs, Within item {} x
  | .tuple item, info, v => ∀ xs, v = .list xs → LongEnough info xs ∧ ∀ x ∈ xs, Within item {} x
  | .union args, _, v => SomeMember args v
  | .model _ _ fields, _, v => ∀ entries, v = .dict entries → FieldsWithin fields entries
  | _, info, v => InBounds info v

def SomeMember : List Annotation → Value → Prop
  | [], _ => False
  | .null :: as, v => v = .null ∨ SomeMember as v
  | a :: as, v => HasShape a v ∧ Within a {} v ∨ SomeMember as v

def FieldsWithin : List (String × Annotation × FieldInfo) → Fields → Prop
  | [], _ => True
  | (name, annotation, info) :: fields, entries =>
    (∀ v, entries.get name = some v → Within annotation info v) ∧ FieldsWithin fields entries

end

/-- A member of a union as its schema has it. -/
def IsMember : Annotation → Value → Prop
  | .null, v => v = .null
  | a, v => HasShape a v ∧ Within a {} v

theorem someMember_iff {args : List Annotation} {v : Value} :
    SomeMember args v ↔ ∃ a ∈ args, IsMember a v := by
  induction args with
  | nil => simp [SomeMember]
  | cons a as ih =>
    rw [List.exists_mem_cons_iff, ← ih]
    cases a <;> simp only [SomeMember, IsMember]

theorem fieldsWithin_iff {fields : FieldSpecs} {entries : Fields} :
    FieldsWithin fields entries ↔
      ∀ f ∈ fields, ∀ v, entries.get f.1 = some v → Within f.2.1 f.2.2 v := by
  induction fields with
  | nil => exact iff_of_true trivial nofun
  | cons f fields ih =>
    obtain ⟨name, annotation, info⟩ := f
    rw [FieldsWithin, ih, List.forall_mem_cons]

end Bounds

section Height

mutual

/-- How deep the checker goes below a value of the annotation. -/
def height : Annotation → ℕ
  | .list item => height item + 1
  | .tuple item => height item + 1
  | .union args => highest args + 1
  | .model _ _ fields => highestField fields + 1
  | _ => 1

def highest : List Annotation → ℕ
  | [] => 0
  | a :: as => max (height a) (highest as)

def highestField : List (String × Annotation × FieldInfo) → ℕ
  | [] => 0
  | (_, annotation, _) :: fields => max (height annotation) (highestField fields)

end

theorem height_le_highest {args : List Annotation} {a : Annotation} (h : a ∈ args) :
    height a ≤ highest args := by
  induction args with
  | nil => cases h
  | cons b as ih =>
    rw [highest]
    rcases List.mem_cons.mp h with rfl | h
    · exact le_max_left _ _
    · exact (ih h).trans (le_max_right _ _)

theorem height_le_highestField {fields : FieldSpecs} {f : String × Annotation × FieldInfo}
    (h : f ∈ fields) : height f.2.1 ≤ highestField fields := by
  induction fields with
  | nil => cases h
  | cons g fields ih =>
    obtain ⟨name, annotation, info⟩ := g
    rw [highestField]
    rcases List.mem_cons.mp h with rfl | h
    · exact le_max_left _ _
    · exact (ih h).trans (le_max_right _ _)

theorem height_pos (a : Annotation) : 0 < height a := by
  cases a <;> simp [height]

end Height

section Keys

mutual

/-- Of the objects that the checker looks into, none has a key twice. -/
def Keyed : Annotation → Value → Prop
  | .list item, v => ∀ xs, v = .list xs → ∀ x ∈ xs, Keyed item x
  | .tuple item, v => ∀ xs, v = .list xs → ∀ x ∈ xs, Keyed item x
  | .union args, v => AllKeyed args v
  | .model _ _ fields, v => ∀ entries, v = .dict entries →
      (entries.map Prod.fst).Nodup ∧ FieldsKeyed fields entries
  | _, _ => True

def AllKeyed : List Annotation → Value → Prop
  | [], _ => True
  | a :: as, v => Keyed a v ∧ AllKeyed as v

def FieldsKeyed : List (String × Annotation × FieldInfo) → Fields → Prop
  | [], _ => True
  | (name, annotation, _) :: fields, entries =>
    (∀ w, (name, w) ∈ entries → Keyed annotation w) ∧ FieldsKeyed fields entries

end

theorem allKeyed_iff {args : List Annotation} {v : Value} :
    AllKeyed args v ↔ ∀ a ∈ args, Keyed a v := by
  induction args with
  | nil => exact iff_of_true trivial (List.forall_mem_nil _)
  | cons a as ih => rw [AllKeyed, ih, List.forall_mem_cons]

theorem fieldsKeyed_iff {fields : FieldSpecs} {entries : Fields} :
    FieldsKeyed fields entries ↔ ∀ f ∈ fields, ∀ w, (f.1, w) ∈ entries → Keyed f.2.1 w := by
  induction fields with
  | nil => exact iff_of_true trivial nofun
  | cons f fields ih =>
    obtain ⟨name, annotation, info⟩ := f
    rw [FieldsKeyed, ih, List.forall_mem_cons]

theorem keyed_of_json {a : Annotation} {v : Value} (json : IsJson v) : Keyed a v := by
  induction a using annotation_induction generalizing v with
  | list item ih | tuple item ih =>
    rintro xs rfl x hx
    exact ih (allJson_iff.mp json x hx)
  | union args ih => exact allKeyed_iff.mpr fun a ha => ih a ha json
  | model name extra fields ih =>
    rintro entries rfl
    refine ⟨json.1, fieldsKeyed_iff.mpr fun f hf w given => ?_⟩
    exact ih f hf (membersJson_iff.mp json.2 (f.1, w) given)
  | _ => exact trivial

end Keys

section Lookups

theorem get_append (xs ys : Fields) (key : String) :
    Fields.get (xs ++ ys) key = (xs.get key).or (ys.get key) := by
  induction xs with
  | nil => rfl
  | cons e xs ih =>
    simp only [Fields.get, List.cons_append, assocGet] at ih ⊢
    split
    · rfl
    · exact ih

variable (info : FieldInfo)

theorem get_minItems :
    (boundEntries info).get "minItems" = info.minLength.map fun n : ℕ => Value.int n := by
  obtain ⟨minLength, ge, le, required, default⟩ := info
  cases minLength <;> cases ge <;> cases le <;> rfl

theorem get_minimum : (boundEntries info).get "minimum" = info.ge.map Value.int := by
  obtain ⟨minLength, ge, le, required, default⟩ := info
  cases minLength <;> cases ge <;> cases le <;> rfl

theorem get_maximum : (boundEntries info).get "maximum" = info.le.map Value.int := by
  obtain ⟨minLength, ge, le, required, default⟩ := info
  cases minLength <;> cases ge <;> cases le <;> rfl

theorem get_other {key : String} (other : key ∉ ["minItems", "minimum", "maximum"]) :
    (boundEntries info).get key = none := by
  simp only [List.mem_cons, List.not_mem_nil, or_false, not_or] at other
  obtain ⟨minLength, ge, le, required, default⟩ := info
  cases minLength <;> cases ge <;> cases le <;>
    simp [boundEntries, Fields.get, assocGet, Ne.symm other.1, Ne.symm other.2.1,
      Ne.symm other.2.2]

variable {info} {base : Fields}

theorem get_schema_other {key : String} (absent : base.get key = none)
    (other : key ∉ ["minItems", "minimum", "maximum"]) :
    Fields.get (base ++ boundEntries info) key = none := by
  rw [get_append, absent, get_other info other]
  rfl

theorem get_schema_base {key : String} (other : key ∉ ["minItems", "minimum", "maximum"]) :
    Fields.get (base ++ boundEntries info) key = base.get key := by
  rw [get_append, get_other info other, Option.or_none]

theorem get_schema_minItems (info : FieldInfo) (absent : base.get "minItems" = none) :
    Fields.get (base ++ boundEntries info) "minItems" =
      info.minLength.map fun n : ℕ => Value.int n := by
  rw [get_append, absent, get_minItems]
  rfl

theorem get_schema_minimum (info : FieldInfo) (absent : base.get "minimum" = none) :
    Fields.get (base ++ boundEntries info) "minimum" = info.ge.map Value.int := by
  rw [get_append, absent, get_minimum]
  rfl

theorem get_schema_maximum (info : FieldInfo) (absent : base.get "maximum" = none) :
    Fields.get (base ++ boundEntries info) "maximum" = info.le.map Value.int := by
  rw [get_append, absent, get_maximum]
  rfl

end Lookups

section Kinds

variable {depth : ℕ} {root v : Value} {base : Fields} {info : FieldInfo} {path : String}

theorem numeric_of_int {fields : Fields} {key : String} {b : Option ℤ}
    (found : fields.get key = b.map Value.int) : Numeric fields key := by
  intro w has
  rw [found] at has
  obtain ⟨n, -, rfl⟩ := Option.map_eq_some_iff.mp has
  rfl

theorem bound_of_int {fields : Fields} {key : String} {b : Option ℤ}
    (found : fields.get key = b.map Value.int) :
    SchemaAnswers.bound fields key = b.map fun n : ℤ => (n : ℚ) := by
  rw [SchemaAnswers.bound, found]
  cases b <;> rfl

/-- A schema whose type is that of a scalar, or which has no type. -/
theorem answers_scalarSchema (base : Fields)
    (clear : ∀ key ∈ ["$ref", "anyOf", "minimum", "maximum"], base.get key = none)
    (scalar : ScalarType ((base.get "type").getD .null))
    (enum : ∀ e, base.get "enum" = some e → ∃ members, e = .list members) :
    Answers (validate (depth + 1) root v (.dict (base ++ boundEntries info)) path)
      (Listed v base ∧ typeMismatch ((base.get "type").getD .null) v = none ∧ InBounds info v) := by
  have type : Fields.get (base ++ boundEntries info) "type" = base.get "type" :=
    get_schema_base (by decide)
  have least := get_schema_minimum info (clear "minimum" (by simp))
  have most := get_schema_maximum info (clear "maximum" (by simp))
  have enum' : Fields.get (base ++ boundEntries info) "enum" = base.get "enum" :=
    get_schema_base (by decide)
  have listed : Listed v (base ++ boundEntries info) ↔ Listed v base := by
    unfold Listed
    rw [enum']
  rw [validate_of_noRef (get_schema_other (clear "$ref" (by simp)) (by decide)), ← listed]
  refine answers_typed (get_schema_other (clear "anyOf" (by simp)) (by decide))
    (by rw [enum']; exact enum) fun _ => ?_
  rw [validateTyped_scalar (by rw [type]; exact scalar), type]
  refine (answers_scalar (numeric_of_int least) (numeric_of_int most)).congr ?_
  rw [bound_of_int least, bound_of_int most]
  refine and_congr_right fun _ => forall₂_congr fun q _ => ?_
  simp only [Option.map_eq_some_iff, forall_exists_index, and_imp, forall_comm (α := ℚ),
    forall_eq']

theorem answers_arraySchema {item : Fields} {P : Value → Prop} (each : ∀ x path,
      (∃ xs, v = .list xs ∧ x ∈ xs) → Answers (validate depth root x (.dict item) path) (P x)) :
    Answers (validate (depth + 1) root v
        (.dict ([("type", .str "array"), ("items", .dict item)] ++ boundEntries info)) path)
      ((∃ xs, v = .list xs) ∧ ∀ xs, v = .list xs → LongEnough info xs ∧ ∀ x ∈ xs, P x) := by
  have least : Fields.get ([("type", .str "array"), ("items", .dict item)] ++ boundEntries info)
      "minItems" = (info.minLength.map Int.ofNat).map .int := by
    rw [get_schema_minItems info rfl, Option.map_map]
    rfl
  rw [validate_of_noRef (get_schema_other rfl (by decide))]
  refine answers_of_noEnum (get_schema_other rfl (by decide)) (get_schema_other rfl (by decide)) ?_
  rw [validateTyped_array rfl]
  cases v with
  | list xs =>
    refine (answers_array (P := P) least fun _ x hx path => ?_).congr ?_
    · exact each x path ⟨xs, rfl, hx⟩
    · simp [LongEnough]
  | _ => exact (answers_array_other (by simp)).congr (by simp)

theorem answers_objectSchema {fields : Fields} (keys : List String) (props : Fields)
    {P : String × Value → Prop} (noRef : fields.get "$ref" = none)
    (noAnyOf : fields.get "anyOf" = none) (noEnum : fields.get "enum" = none)
    (object : fields.get "type" = some (.str "object"))
    (required : (fields.get "required").getD (.list []) = .list (keys.map .str))
    (properties : (fields.get "properties").getD (.dict []) = .dict props)
    (each : ∀ e sub path, (∃ entries, v = .dict entries ∧ e ∈ entries) →
      props.get e.1 = some sub → Answers (validate depth root e.2 sub path) (P e)) :
    Answers (validate (depth + 1) root v (.dict fields) path)
      (∃ entries, v = .dict entries ∧ (∀ key ∈ keys, key ∈ entries.map Prod.fst) ∧
        (fields.get "additionalProperties" = some (.bool false) →
          ∀ e ∈ entries, e.1 ∈ props.map Prod.fst) ∧
        ∀ e ∈ entries, ∀ sub, props.get e.1 = some sub → P e) := by
  rw [validate_of_noRef noRef]
  refine answers_of_noEnum noAnyOf noEnum ?_
  rw [validateTyped_object object]
  cases v with
  | dict entries =>
    refine (answers_object (P := fun e _ => P e) required properties fun e he sub hsub => ?_).congr
      (by simp only [Value.dict.injEq, exists_eq_left'])
    exact each e sub _ ⟨entries, rfl, he⟩ hsub
  | _ => exact (answers_object_other (by simp)).congr (by simp)

theorem answers_dictSchema :
    Answers (validate (depth + 1) root v (.dict ([("type", .str "object")] ++ boundEntries info))
      path) (isDict v = true) := by
  have absent (key : String) (differs : key ≠ "type")
      (other : key ∉ ["minItems", "minimum", "maximum"]) :
      Fields.get ([("type", .str "object")] ++ boundEntries info) key = none :=
    get_schema_other (by simp [Fields.get, assocGet, Ne.symm differs]) other
  refine (answers_objectSchema [] [] (P := fun _ => True)
    (absent "$ref" (by decide) (by decide)) (absent "anyOf" (by decide) (by decide))
    (absent "enum" (by decide) (by decide)) rfl ?_ ?_ fun e sub path _ found => ?_).congr ?_
  · rw [absent "required" (by decide) (by decide)]
    rfl
  · rw [absent "properties" (by decide) (by decide)]
    rfl
  · cases found
  · have noAdditional := absent "additionalProperties" (by decide) (by decide)
    rw [noAdditional]
    cases v <;> simp [isDict]

end Kinds

section Models

variable {name : String} {extra : Extra} {fields : FieldSpecs} {info : FieldInfo}

/-- The schema of a model, with what `Field` adds where the model stands as a field. -/
def modelSchema (name : String) (extra : Extra) (fields : FieldSpecs) (info : FieldInfo) : Fields :=
  schemaForType (.model name extra fields) ++ boundEntries info

def requiredNames (fields : FieldSpecs) : List String :=
  (fields.filter fun f => f.2.2.required).map Prod.fst

theorem get_modelSchema {key : String} (other : key ∉ ["minItems", "minimum", "maximum"])
    (notRequired : key ≠ "required") :
    (modelSchema name extra fields info).get key =
      Fields.get [("title", .str name), ("type", .str "object"),
        ("properties", .dict (propertySchemas fields)),
        ("additionalProperties", additionalProperties extra)] key := by
  unfold modelSchema
  rw [get_schema_base other, schemaForType, get_append, get_append]
  have absent : (requiredEntries fields).get key = none := by
    unfold requiredEntries
    split
    · rfl
    · simp [Fields.get, assocGet, Ne.symm notRequired]
  rw [absent, Option.or_none, ← get_append]
  rfl

theorem get_modelSchema_required :
    ((modelSchema name extra fields info).get "required").getD (.list []) =
      .list ((requiredNames fields).map .str) := by
  unfold modelSchema requiredNames
  rw [get_schema_base (by decide), schemaForType, requiredEntries]
  cases fields.filter fun f => f.2.2.required with
  | nil => rfl
  | cons f fs =>
    rw [List.map_map]
    rfl

theorem get_propertySchemas (key : String) :
    (propertySchemas fields).get key = (assocGet key fields).map fun f =>
      Value.dict (schemaForType f.1 ++ boundEntries f.2) := by
  rw [propertySchemas_eq]
  induction fields with
  | nil => rfl
  | cons f fields ih =>
    simp only [List.map_cons, Fields.get, assocGet] at ih ⊢
    split
    · rfl
    · exact ih

variable {depth : ℕ} {root v : Value} {path : String}

theorem answers_modelSchema (distinct : (fields.map Prod.fst).Nodup)
    (keyed : ∀ entries, v = .dict entries → (entries.map Prod.fst).Nodup)
    (each : ∀ f ∈ fields, ∀ w path entries, v = .dict entries → (f.1, w) ∈ entries → Answers
      (validate depth root w (.dict (schemaForType f.2.1 ++ boundEntries f.2.2)) path)
      (HasShape f.2.1 w ∧ Within f.2.1 f.2.2 w)) :
    Answers (validate (depth + 1) root v (.dict (modelSchema name extra fields info)) path)
      (HasShape (.model name extra fields) v ∧ Within (.model name extra fields) info v) := by
  have properties : (modelSchema name extra fields info).get "properties" =
      some (.dict (propertySchemas fields)) := get_modelSchema (by decide) (by decide)
  refine (answers_objectSchema (requiredNames fields) (propertySchemas fields)
    (P := fun e => ∀ f, assocGet e.1 fields = some f →
      HasShape f.1 e.2 ∧ Within f.1 f.2 e.2)
    (get_modelSchema (by decide) (by decide)) (get_modelSchema (by decide) (by decide))
    (get_modelSchema (by decide) (by decide)) (get_modelSchema (by decide) (by decide))
    get_modelSchema_required (by rw [properties]; rfl) fun e sub path given found => ?_).congr ?_
  · rw [get_propertySchemas] at found
    obtain ⟨f, has, rfl⟩ := Option.map_eq_some_iff.mp found
    obtain ⟨entries, rfl, he⟩ := given
    have inside := each (e.1, f) (mem_of_assocGet has) e.2 path entries rfl he
    refine inside.congr ⟨fun h g same => ?_, fun h => h f has⟩
    rw [has] at same
    cases same
    exact h
  · have additional : (modelSchema name extra fields info).get "additionalProperties" =
        some (.bool false) ↔ extra = .forbid := by
      have found : (modelSchema name extra fields info).get "additionalProperties" =
          some (additionalProperties extra) := get_modelSchema (by decide) (by decide)
      rw [found]
      cases extra <;> simp [additionalProperties]
    rw [additional, map_fst_propertySchemas]
    cases v with
    | dict entries =>
      have nodup := keyed entries rfl
      simp only [HasShape, Within, Value.dict.injEq, exists_eq_left', forall_eq',
        fieldShapes_iff, fieldsWithin_iff]
      constructor
      · rintro ⟨required, known, fits⟩
        have fitsOf : ∀ f ∈ fields, ∀ w, Fields.get entries f.1 = some w →
            HasShape f.2.1 w ∧ Within f.2.1 f.2.2 w := by
          intro f hf w found
          have has : assocGet f.1 fields = some f.2 := assocGet_of_mem distinct hf
          have sub : (propertySchemas fields).get f.1 =
              some (.dict (schemaForType f.2.1 ++ boundEntries f.2.2)) := by
            rw [get_propertySchemas, has]
            rfl
          exact fits (f.1, w) (mem_of_assocGet found) _ sub f.2 has
        refine ⟨⟨known, fun f hf => ⟨fun isRequired => ?_, fun w found => (fitsOf f hf w found).1⟩⟩,
          fun f hf w found => (fitsOf f hf w found).2⟩
        have listed : f.1 ∈ requiredNames fields :=
          List.mem_map_of_mem (List.mem_filter.mpr ⟨hf, isRequired⟩)
        exact isSome_get_iff.mpr (required f.1 listed)
      · rintro ⟨⟨known, shapes⟩, within⟩
        refine ⟨fun key listed => ?_, known, fun e he sub _ f has => ?_⟩
        · obtain ⟨f, hf, rfl⟩ := List.mem_map.mp listed
          obtain ⟨hf, isRequired⟩ := List.mem_filter.mp hf
          exact isSome_get_iff.mp ((shapes f hf).1 isRequired)
        · have hf : (e.1, f) ∈ fields := mem_of_assocGet has
          have found : Fields.get entries e.1 = some e.2 := assocGet_of_mem nodup he
          exact ⟨(shapes _ hf).2 e.2 found, within _ hf e.2 found⟩
    | _ => simp [HasShape]

end Models

section Agreement

theorem isStr_of_literal {values : List String} {v : Value}
    (inside : (values.any fun s => (Value.str s).pyEq v) = true) : v.isStr = true := by
  obtain ⟨s, -, same⟩ := List.any_eq_true.mp inside
  cases v with
  | str t => rfl
  | _ => simp [Value.pyEq, Value.number] at same

/-- The members of an enumeration, as `in` compares them with a value. -/
theorem listed_iff {values : List String} {v : Value} {base : Fields}
    (enum : base.get "enum" = some (.list (values.map .str))) :
    Listed v base ↔ (values.any fun s => (Value.str s).pyEq v) = true := by
  unfold Listed
  rw [enum]
  simp

theorem answers_textSchema (values : List String) {info : FieldInfo} {depth : ℕ} {root v : Value}
    {path : String} {base : Fields}
    (clear : ∀ key ∈ ["$ref", "anyOf", "minimum", "maximum"], base.get key = none)
    (typed : (base.get "type").getD .null = .str "string" ∨
      (base.get "type").getD .null = .null)
    (enum : base.get "enum" = some (.list (values.map .str))) :
    Answers (validate (depth + 1) root v (.dict (base ++ boundEntries info)) path)
      ((values.any fun s => (Value.str s).pyEq v) = true ∧ InBounds info v) := by
  have scalar : ScalarType ((base.get "type").getD .null) := by
    rcases typed with typed | typed
    · exact Or.inr ⟨"string", typed, by decide⟩
    · exact Or.inl typed
  refine (answers_scalarSchema base clear scalar (by simp [enum])).congr ?_
  rw [listed_iff enum]
  refine and_congr_right fun inside => and_iff_right ?_
  have text := isStr_of_literal inside
  rcases typed with typed | typed
  · rw [typed]
    simp [typeMismatch, Value.pyEq, text]
  · rw [typed]
    rfl

variable {info : FieldInfo} {depth : ℕ} {root v : Value} {path : String}

theorem answers_untypedSchema :
    Answers (validate (depth + 1) root v (.dict (boundEntries info)) path) (InBounds info v) := by
  refine (answers_scalarSchema [] (by simp [Fields.get]) (Or.inl rfl)
    (by simp [Fields.get])).congr ?_
  have listed : Listed v [] := fun _ has => by cases has
  have quiet : typeMismatch .null v = none := rfl
  simp [listed, quiet, Fields.get]

theorem answers_namedSchema {name : String} (scalar : ScalarType (.str name)) :
    Answers (validate (depth + 1) root v (.dict ([("type", .str name)] ++ boundEntries info)) path)
      (typeMismatch (.str name) v = none ∧ InBounds info v) := by
  refine (answers_scalarSchema [("type", .str name)] (by simp [Fields.get, assocGet])
    scalar (by simp [Fields.get, assocGet])).congr ?_
  have listed : Listed v [("type", .str name)] := fun _ has => by cases has
  simp [listed, Fields.get, assocGet]

theorem succ_of_height {a : Annotation} (deep : height a ≤ depth) : ∃ d, depth = d + 1 := by
  have positive := height_pos a
  exact ⟨depth - 1, by omega⟩

/-- A list or a tuple, given what the checker says of its items. -/
theorem answers_itemsSchema {item : Annotation}
    (each : ∀ x path xs, v = .list xs → x ∈ xs → Answers
      (validate depth root x (.dict (schemaForType item ++ boundEntries {})) path)
      (HasShape item x ∧ Within item {} x)) :
    Answers (validate (depth + 1) root v
        (.dict ([("type", .str "array"), ("items", .dict (schemaForType item))] ++
          boundEntries info)) path)
      ((∃ xs, v = .list xs ∧ ∀ x ∈ xs, HasShape item x) ∧
        ∀ xs, v = .list xs → LongEnough info xs ∧ ∀ x ∈ xs, Within item {} x) := by
  have unbounded : schemaForType item ++ boundEntries {} = schemaForType item :=
    List.append_nil _
  rw [unbounded] at each
  refine (answers_arraySchema (P := fun x => HasShape item x ∧ Within item {} x)
    fun x path inside => ?_).congr ?_
  · obtain ⟨xs, rfl, hx⟩ := inside
    exact each x path xs rfl hx
  · cases v with
    | list xs =>
      simp only [Value.list.injEq, exists_eq', true_and, forall_eq', exists_eq_left',
        ← and_assoc, forall₂_and]
      tauto
    | _ => simp

theorem shape_of_isMember {a : Annotation} (isMember : IsMember a v) : HasShape a v := by
  cases a with
  | null => exact trivial
  | _ => exact isMember.1

/-- A member of a union, given what the checker says of it as an annotation. -/
theorem answers_memberSchema {a : Annotation} (deep : height a ≤ depth)
    (known : ∀ info, Answers
      (validate depth root v (.dict (schemaForType a ++ boundEntries info)) path)
      (HasShape a v ∧ Within a info v)) :
    Answers (validate depth root v (memberSchema a) path) (IsMember a v) := by
  cases a with
  | null =>
    obtain ⟨depth, rfl⟩ := succ_of_height deep
    rw [memberSchema, validate_of_noRef rfl]
    refine answers_of_noEnum rfl rfl ?_
    rw [validateTyped_null rfl]
    cases v with
    | null => exact answers_none rfl
    | _ => exact answers_report (by simp [IsMember])
  | _ =>
    have unbounded := known {}
    rwa [show boundEntries {} = [] from rfl, List.append_nil] at unbounded

/-- The checker finds nothing where the payload has the shape of the annotation and is within its
bounds. -/
theorem answers_schemaForType {a : Annotation} (grammar : InGrammar a) (keyed : Keyed a v)
    (deep : height a ≤ depth) :
    Answers (validate depth root v (.dict (schemaForType a ++ boundEntries info)) path)
      (HasShape a v ∧ Within a info v) := by
  induction a using annotation_induction generalizing info v depth path with
  | any | null =>
    obtain ⟨depth, rfl⟩ := succ_of_height deep
    exact answers_untypedSchema.congr (by simp [HasShape, Within])
  | str =>
    obtain ⟨depth, rfl⟩ := succ_of_height deep
    refine (answers_namedSchema (Or.inr ⟨"string", rfl, by decide⟩)).congr ?_
    simp [typeMismatch, Value.pyEq, HasShape, Within]
  | int =>
    obtain ⟨depth, rfl⟩ := succ_of_height deep
    refine (answers_namedSchema (Or.inr ⟨"integer", rfl, by decide⟩)).congr ?_
    simp [typeMismatch, Value.pyEq, HasShape, Within]
  | bool =>
    obtain ⟨depth, rfl⟩ := succ_of_height deep
    refine (answers_namedSchema (Or.inr ⟨"boolean", rfl, by decide⟩)).congr ?_
    simp [typeMismatch, Value.pyEq, HasShape, Within]
  | float => exact grammar.elim
  | dict =>
    obtain ⟨depth, rfl⟩ := succ_of_height deep
    refine answers_dictSchema.congr ⟨fun shape => ⟨shape, fun q number => ?_⟩, fun h => h.1⟩
    cases v with
    | dict entries => cases number
    | _ => cases shape
  | list item ih | tuple item ih =>
    obtain ⟨depth, rfl⟩ := succ_of_height deep
    rw [height, Nat.add_le_add_iff_right] at deep
    rw [schemaForType, HasShape, Within]
    exact answers_itemsSchema fun x path xs same hx => ih grammar (keyed xs same x hx) deep
  | union args ih =>
    obtain ⟨depth, rfl⟩ := succ_of_height deep
    rw [height, Nat.add_le_add_iff_right] at deep
    rw [schemaForType, schemasForTypes_eq, validate_of_noRef (get_schema_other rfl (by decide))]
    refine (answers_branches args memberSchema (P := fun b => IsMember b v)
      rfl fun b hb => ?_).congr ?_
    · exact answers_memberSchema ((height_le_highest hb).trans deep) fun info =>
        ih b hb (allInGrammar_iff.mp grammar b hb) (allKeyed_iff.mp keyed b hb)
          ((height_le_highest hb).trans deep)
    · rw [HasShape, Within, someShape_iff, someMember_iff]
      refine (and_iff_right_of_imp ?_).symm
      rintro ⟨b, hb, isMember⟩
      exact ⟨b, hb, shape_of_isMember isMember⟩
  | literal values =>
    obtain ⟨depth, rfl⟩ := succ_of_height deep
    rw [schemaForType]
    refine (answers_textSchema values ?_ ?_ rfl).congr Iff.rfl
    · split <;> simp [Fields.get, assocGet]
    · split <;> simp [Fields.get, assocGet]
  | enum name values =>
    obtain ⟨depth, rfl⟩ := succ_of_height deep
    rw [schemaForType]
    exact (answers_textSchema values (by simp [Fields.get, assocGet]) (Or.inl rfl)
      rfl).congr Iff.rfl
  | model name extra fields ih =>
    obtain ⟨depth, rfl⟩ := succ_of_height deep
    rw [height, Nat.add_le_add_iff_right] at deep
    refine answers_modelSchema grammar.1 (fun entries same => (keyed entries same).1)
      fun f hf w path entries same given => ?_
    exact ih f hf (fieldsInGrammar_iff.mp grammar.2 f hf).1
      (fieldsKeyed_iff.mp (keyed entries same).2 f hf w given) ((height_le_highestField hf).trans deep)

/-- `M.model_validate(payload)` returns an instance. -/
def Accepts (model : Annotation) (payload : Value) : Prop :=
  ∃ made, coerceValue model payload "" = .ok made

/-- For models whose defaults fit, and JSON objects: the model and its schema take the same payload
just in case the payload lacks the shape of the model, or is within all bounds as well. -/
theorem validators_agree_iff {name : String} {extra : Extra} {fields : FieldSpecs}
    {entries : Fields} {recursionLimit : ℕ} (grammar : InGrammar (.model name extra fields))
    (json : IsJson (.dict entries)) (deep : height (.model name extra fields) ≤ recursionLimit) :
    (∃ errors, validatePayloadAgainstSchema recursionLimit (.dict entries)
      (modelJsonSchema (.model name extra fields)) = .ok errors) ∧
    ((Accepts (.model name extra fields) (.dict entries) ↔
        validatePayloadAgainstSchema recursionLimit (.dict entries)
          (modelJsonSchema (.model name extra fields)) = .ok []) ↔
      (HasShape (.model name extra fields) (.dict entries) →
        Within (.model name extra fields) {} (.dict entries))) := by
  have answer : Answers (validate recursionLimit (modelJsonSchema (.model name extra fields))
      (.dict entries) (.dict (schemaForType (.model name extra fields) ++ boundEntries {})) "$")
      (HasShape (.model name extra fields) (.dict entries) ∧
        Within (.model name extra fields) {} (.dict entries)) :=
    answers_schemaForType grammar (keyed_of_json json) deep
  have unbounded : boundEntries {} = [] := rfl
  rw [unbounded, List.append_nil] at answer
  obtain ⟨errors, returned, clean⟩ := answer
  have checked : validatePayloadAgainstSchema recursionLimit (.dict entries)
      (modelJsonSchema (.model name extra fields)) = .ok errors := returned
  refine ⟨⟨errors, checked⟩, ?_⟩
  rw [Accepts, coerceValue_ok_iff grammar json, checked, Except.ok.injEq, clean]
  tauto

theorem inGrammar_inspectExecPayload : InGrammar inspectExecPayload :=
  ⟨by decide, trivial, nofun, ⟨trivial, trivial, trivial⟩, fun _ => ⟨.null, rfl⟩, trivial,
    fun _ => ⟨.int 30, rfl⟩, trivial⟩

theorem validators_agree_iff_thirty :
    (∃ errors, validatePayloadAgainstSchema 1000
      (.dict [("cmd", .list [.str "ls"]), ("timeout_sec", .int 30)])
      (modelJsonSchema inspectExecPayload) = .ok errors) ∧
    ((Accepts inspectExecPayload (.dict [("cmd", .list [.str "ls"]), ("timeout_sec", .int 30)]) ↔
        validatePayloadAgainstSchema 1000
          (.dict [("cmd", .list [.str "ls"]), ("timeout_sec", .int 30)])
          (modelJsonSchema inspectExecPayload) = .ok []) ↔
      (HasShape inspectExecPayload (.dict [("cmd", .list [.str "ls"]), ("timeout_sec", .int 30)]) →
        Within inspectExecPayload {}
          (.dict [("cmd", .list [.str "ls"]), ("timeout_sec", .int 30)]))) :=
  validators_agree_iff inGrammar_inspectExecPayload
    ⟨by decide, ⟨trivial, trivial⟩, trivial, trivial⟩ (by decide)

/-- The model takes a timeout beyond its bound, and a working directory that is no text; its
schema takes neither. -/
theorem bound_passes :
    InGrammar inspectExecPayload ∧
    (Accepts inspectExecPayload (.dict [("cmd", .list [.str "ls"]), ("timeout_sec", .int 1000)]) ∧
      validatePayloadAgainstSchema 1000
        (.dict [("cmd", .list [.str "ls"]), ("timeout_sec", .int 1000)])
        (modelJsonSchema inspectExecPayload) ≠ .ok []) ∧
    Accepts inspectExecPayload (.dict [("cmd", .list [.str "ls"]), ("cwd", .int 5)]) ∧
      validatePayloadAgainstSchema 1000 (.dict [("cmd", .list [.str "ls"]), ("cwd", .int 5)])
        (modelJsonSchema inspectExecPayload) ≠ .ok [] := by
  refine ⟨inGrammar_inspectExecPayload, ⟨⟨_, rfl⟩, ?_⟩, ⟨_, rfl⟩, ?_⟩
  · intro clean
    cases clean
  · intro clean
    cases clean

end Agreement

end SthBoring.Capability.ModelAgreement
