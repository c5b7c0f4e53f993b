/- Module: SthBoring/Capability/CapabilityIoModels
   source: sdk_test_agent/capability/_pydantic_compat.py, capability_io_models.py
   digest: The input and output models of the capabilities and the schemas made of them. -/

import SthBoring.Capability.SchemaValidation

set_option autoImplicit false
set_option relaxedAutoImplicit false

namespace SthBoring.Capability.CapabilityIoModels

open SthBoring.Lib.PyValue (Value Fields)
open SthBoring.Capability.SchemaValidation (ClosedObject)

/-- `model_config["extra"]`. -/
inductive Extra where
  | forbid | allow
  deriving DecidableEq, Repr

/-- What `Field` adds to an annotation; a field without a default is required. -/
structure FieldInfo where
  minLength : Option ℕ := none
  ge : Option ℤ := none
  le : Option ℤ := none
  required : Bool := true
  default : Value := .null

/-- The annotations of the models' fields. `tuple` is one of any length, `enum` a string
enumeration by the values of its members. -/
inductive Annotation where
  | any
  | str
  | int
  | bool
  | float
  | null
  | dict
  | list (item : Annotation)
  | tuple (item : Annotation)
  | union (args : List Annotation)
  | literal (values : List String)
  | enum (name : String) (values : List String)
  | model (name : String) (extra : Extra) (fields : List (String × Annotation × FieldInfo))

/-- The bounds, as JSON Schema has them. -/
def boundEntries (info : FieldInfo) : Fields :=
  (match info.minLength with | some n => [("minItems", .int n)] | none => []) ++
    (match info.ge with | some n => [("minimum", .int n)] | none => []) ++
    (match info.le with | some n => [("maximum", .int n)] | none => [])

def additionalProperties : Extra → Value
  | .forbid => .bool false
  | .allow => .bool true

/-- The names of the fields without a default, an entry of its own when there are some. -/
def requiredEntries (fields : List (String × Annotation × FieldInfo)) : Fields :=
  match fields.filter (fun f => f.2.2.required) with
  | [] => []
  | required => [("required", .list (required.map (fun f => .str f.1)))]

mutual

/-- `_schema_for_type`, before the bounds are added. -/
def schemaForType : Annotation → Fields
  | .any => []
  | .str => [("type", .str "string")]
  | .int => [("type", .str "integer")]
  | .bool => [("type", .str "boolean")]
  | .float => [("type", .str "number")]
  -- `NoneType` is only known as a member of a union.
  | .null => []
  | .dict => [("type", .str "object")]
  | .list item => [("type", .str "array"), ("items", .dict (schemaForType item))]
  | .tuple item => [("type", .str "array"), ("items", .dict (schemaForType item))]
  | .union args => [("anyOf", .list (schemasForTypes args))]
  | .literal values =>
    ("enum", .list (values.map .str)) :: if values.isEmpty then [] else [("type", .str "string")]
  | .enum _ values => [("type", .str "string"), ("enum", .list (values.map .str))]
  | .model name extra fields =>
    [("title", .str name), ("type", .str "object"), ("properties", .dict (propertySchemas fields))] ++
      requiredEntries fields ++ [("additionalProperties", additionalProperties extra)]

def schemasForTypes : List Annotation → List Value
  | [] => []
  | .null :: as => .dict [("type", .str "null")] :: schemasForTypes as
  | a :: as => .dict (schemaForType a) :: schemasForTypes as

def propertySchemas : List (String × Annotation × FieldInfo) → Fields
  | [] => []
  | (name, annotation, info) :: fields =>
    (name, .dict (schemaForType annotation ++ boundEntries info)) :: propertySchemas fields

end

/-- `model_json_schema`. -/
def modelJsonSchema (model : Annotation) : Value := .dict (schemaForType model)

/-- The schema of one member of a union. -/
def memberSchema : Annotation → Value
  | .null => .dict [("type", .str "null")]
  | a => .dict (schemaForType a)

theorem schemasForTypes_eq (args : List Annotation) :
    schemasForTypes args = args.map memberSchema := by
  induction args with
  | nil => rfl
  | cons a args ih => cases a <;> simp only [schemasForTypes, ih, List.map_cons, memberSchema]

theorem propertySchemas_eq (fields : List (String × Annotation × FieldInfo)) :
    propertySchemas fields =
      fields.map fun f => (f.1, .dict (schemaForType f.2.1 ++ boundEntries f.2.2)) := by
  induction fields with
  | nil => rfl
  | cons f fields ih =>
    obtain ⟨name, annotation, info⟩ := f
    rw [propertySchemas, ih, List.map_cons]

theorem map_fst_propertySchemas (fields : List (String × Annotation × FieldInfo)) :
    (propertySchemas fields).map Prod.fst = fields.map Prod.fst := by
  rw [propertySchemas_eq, List.map_map]
  rfl

/-- A model that forbids extra fields is the schema of a closed object. -/
theorem closedObject_of_forbid (name : String) (fields : List (String × Annotation × FieldInfo)) :
    ClosedObject (schemaForType (.model name .forbid fields)) (propertySchemas fields) := by
  have shape : schemaForType (.model name .forbid fields) =
      [("title", .str name), ("type", .str "object"), ("properties", .dict (propertySchemas fields))] ++
        requiredEntries fields ++ [("additionalProperties", .bool false)] := by
    simp only [schemaForType, additionalProperties]
  rw [shape]
  unfold requiredEntries
  split
  · exact ⟨rfl, rfl, rfl, rfl, rfl, rfl⟩
  · exact ⟨rfl, rfl, rfl, rfl, rfl, rfl⟩

def inspectExecPayload : Annotation :=
  .model "InspectExecPayload" .forbid
    [("cmd", .list .str, { minLength := some 1 }),
      ("cwd", .union [.str, .null], { required := false }),
      ("timeout_sec", .int, { ge := some 1, le := some 300, required := false, default := .int 30 })]

def runPythonPayload : Annotation :=
  .model "RunPythonPayload" .forbid
    [("argv", .list .str, { minLength := some 1 }),
      ("timeout_sec", .int, { ge := some 1, le := some 300, required := false, default := .int 30 })]

def runCommandInput : Annotation :=
  .model "RunCommandInput" .forbid
    [("action", .literal ["inspect_exec", "run_python"], {}),
      ("payload", .union [inspectExecPayload, runPythonPayload], {})]

def runCommandOutput : Annotation :=
  .model "RunCommandOutput" .allow
    [("exit_code", .union [.int, .null], { required := false }),
      ("stdout", .str, { required := false, default := .str "" }),
      ("stderr", .str, { required := false, default := .str "" }),
      ("artifact_refs", .list .str, { required := false, default := .list [] })]

def inspectPackageInput : Annotation :=
  .model "InspectPackageInput" .forbid
    [("package_type", .literal ["java", "python", "unknown"],
        { required := false, default := .str "unknown" }),
      ("input_refs", .dict, { required := false, default := .dict [] })]

def inspectPackageOutput : Annotation :=
  .model "InspectPackageOutput" .allow
    [("inspection_status", .str, {}),
      ("package_report", .dict, { required := false, default := .dict [] })]

def dockerfileRef : Annotation :=
  .model "DockerfileRef" .forbid
    [("artifact_ref", .str, {}), ("path_in_context", .union [.str, .null], { required := false })]

def buildContextRef : Annotation :=
  .model "BuildContextRef" .forbid
    [("artifact_ref", .union [.str, .null], { required := false }),
      ("context_dir", .union [.str, .null], { required := false })]

def buildImageInput : Annotation :=
  .model "BuildImageInput" .forbid
    [("image_name", .str, {}), ("dockerfile", dockerfileRef, {}),
      ("tag", .union [.str, .null], { required := false }),
      ("context", .union [buildContextRef, .null], { required := false }),
      ("build_args", .dict, { required := false, default := .dict [] })]

def buildImageOutput : Annotation :=
  .model "BuildImageOutput" .allow
    [("image_ref", .union [.str, .null], { required := false }),
      ("image_id", .union [.str, .null], { required := false }),
      ("build_log_artifact_id", .union [.str, .null], { required := false })]

def createRuntimeInput : Annotation :=
  .model "CreateRuntimeInput" .forbid
    [("image_ref", .str, {}),
      ("name", .union [.str, .null], { required := false }),
      ("command", .union [.list .str, .null], { required := false }),
      ("env", .dict, { required := false, default := .dict [] }),
      ("ports", .dict, { required := false, default := .dict [] }),
      ("start", .bool, { required := false, default := .bool true }),
      ("reusable", .bool, { required := false, default := .bool false })]

def createRuntimeOutput : Annotation :=
  .model "CreateRuntimeOutput" .allow
    [("runtime_ref", .union [.str, .null], { required := false }),
      ("container_id", .union [.str, .null], { required := false }),
      ("deployment_id", .union [.str, .null], { required := false })]

def inspectEnvironmentInput : Annotation :=
  .model "InspectEnvironmentInput" .forbid
    [("runtime_ref", .union [.str, .null], { required := false }),
      ("container_id", .union [.str, .null], { required := false }),
      ("probes", .list .str, { required := false, default := .list [] })]

def inspectEnvironmentOutput : Annotation :=
  .model "InspectEnvironmentOutput" .allow
    [("env_status", .str, {}),
      ("env_report", .dict, { required := false, default := .dict [] })]

def executeProbeInput : Annotation :=
  .model "ExecuteProbeInput" .forbid
    [("probe_name", .str, {}), ("payload", inspectExecPayload, {}),
      ("action", .literal ["inspect_exec"], { required := false, default := .str "inspect_exec" })]

def executeProbeOutput : Annotation :=
  .model "ExecuteProbeOutput" .allow
    [("probe_status", .str, {}),
      ("stdout", .str, { required := false, default := .str "" }),
      ("stderr", .str, { required := false, default := .str "" }),
      ("exit_code", .union [.int, .null], { required := false }),
      ("artifact_refs", .list .str, { required := false, default := .list [] })]

def collectArtifactInput : Annotation :=
  .model "CollectArtifactInput" .forbid
    [("source_path", .str, {}), ("artifact_kind", .str, {}),
      ("mime_type", .str, { required := false, default := .str "application/octet-stream" }),
      ("name", .union [.str, .null], { required := false }),
      ("metadata", .dict, { required := false, default := .dict [] })]

def collectArtifactOutput : Annotation :=
  .model "CollectArtifactOutput" .allow
    [("artifact_id", .union [.str, .null], { required := false }),
      ("artifact_ref", .union [.str, .null], { required := false })]

def emptyPlaceholderInput : Annotation := .model "EmptyPlaceholderInput" .allow []

def emptyPlaceholderOutput : Annotation := .model "EmptyPlaceholderOutput" .allow []

end SthBoring.Capability.CapabilityIoModels
