/- Module: SthBoring/Capability/TraceModels
   source: sdk_test_agent/capability/trace_models.py, capability_models.py, capability_panel.py
   digest: The record of a resolution, and the classes of the capability layer as models. -/

import SthBoring.Capability.ModelValidation
import SthBoring.Capability.Panel

set_option autoImplicit false
set_option relaxedAutoImplicit false

namespace SthBoring.Capability.TraceModels

open SthBoring.Lib.PyValue (Value Fields PyFloat)
open SthBoring.Capability.CapabilityModels
open SthBoring.Capability.CapabilityIoModels
open SthBoring.Capability.ModelValidation
open SthBoring.Capability.Panel

structure CapabilityResolutionRecord where
  recordId : String
  inputPayload : Fields
  outputSnapshotId : String
  outputCapabilityDigest : String
  descriptorIds : List String
  enabledCapabilityIds : List String
  disabledCapabilityIds : List String
  unavailableCapabilityIds : List String
  placeholderCapabilityIds : List String
  deprecatedCapabilityIds : List String
  availabilityRecords : List Fields
  createdAt : PyFloat
  taskId : Option String := none
  actionName : String := "capability.build_snapshot"
  promptArtifactId : Option String := none
  snapshotArtifactId : Option String := none
  metadata : Fields := []

section Instances

/-- An instance of `CapabilityDescriptor`, with its attributes in the order of the fields. A tuple
is a list here, and a member of a string enumeration its value. -/
def descriptorObj (d : CapabilityDescriptor) : Value :=
  .obj "CapabilityDescriptor"
    [("capability_id", .str d.capabilityId), ("version", .str d.version),
      ("step_kind", .str d.stepKind), ("owner_module", .str d.ownerModule), ("name", .str d.name),
      ("description", .str d.description), ("executor_name", optionalText d.executorName),
      ("input_model_ref", optionalText d.inputModelRef),
      ("output_model_ref", optionalText d.outputModelRef), ("input_schema", d.inputSchema),
      ("output_schema", d.outputSchema), ("required_context_keys", texts d.requiredContextKeys),
      ("required_capabilities", texts d.requiredCapabilities),
      ("risk_level", .str d.riskLevel.text), ("visibility", .str d.visibility.text),
      ("default_enabled", .bool d.defaultEnabled), ("is_placeholder", .bool d.isPlaceholder),
      ("is_deprecated", .bool d.isDeprecated), ("examples", .list d.examples),
      ("tags", texts d.tags), ("metadata", .dict d.metadata)]

def requestObj (r : BuildCapabilitySnapshotInput) : Value :=
  .obj "BuildCapabilitySnapshotInput"
    [("task_id", optionalText r.taskId), ("task_type", optionalText r.taskType),
      ("available_context_keys", texts r.availableContextKeys),
      ("required_capability_ids", texts r.requiredCapabilityIds),
      ("recommended_capability_ids", texts r.recommendedCapabilityIds),
      ("forbidden_capability_ids", texts r.forbiddenCapabilityIds),
      ("max_risk_level", .str r.maxRiskLevel.text),
      ("allow_placeholder", .bool r.allowPlaceholder),
      ("allow_deprecated", .bool r.allowDeprecated),
      ("feature_flags", .dict (r.featureFlags.entries.map fun e => (e.1, .bool e.2))),
      ("metadata", .dict r.metadata)]

def availabilityObj (a : CapabilityAvailability) : Value :=
  .obj "CapabilityAvailability"
    [("capability_id", .str a.capabilityId), ("step_kind", .str a.stepKind),
      ("status", .str a.status.text), ("reason", optionalText a.reason),
      ("missing_context_keys", texts a.missingContextKeys),
      ("blocked_by_policy", .bool a.blockedByPolicy),
      ("blocked_by_skill", .bool a.blockedBySkill),
      ("blocked_by_feature_flag", .bool a.blockedByFeatureFlag),
      ("effective_risk_level", .str a.effectiveRiskLevel.text)]

def snapshotObj (s : CapabilitySnapshot) : Value :=
  .obj "CapabilitySnapshot"
    [("snapshot_id", .str s.snapshotId), ("capabilities", .list (s.capabilities.map descriptorObj)),
      ("availability", .list (s.availability.map availabilityObj)),
      ("available_step_kinds", texts s.availableStepKinds),
      ("unavailable_step_kinds", texts s.unavailableStepKinds),
      ("capability_digest", .str s.capabilityDigest), ("task_id", optionalText s.taskId),
      ("metadata", .dict s.metadata)]

def recordObj (r : CapabilityResolutionRecord) : Value :=
  .obj "CapabilityResolutionRecord"
    [("record_id", .str r.recordId), ("input_payload", .dict r.inputPayload),
      ("output_snapshot_id", .str r.outputSnapshotId),
      ("output_capability_digest", .str r.outputCapabilityDigest),
      ("descriptor_ids", texts r.descriptorIds),
      ("enabled_capability_ids", texts r.enabledCapabilityIds),
      ("disabled_capability_ids", texts r.disabledCapabilityIds),
      ("unavailable_capability_ids", texts r.unavailableCapabilityIds),
      ("placeholder_capability_ids", texts r.placeholderCapabilityIds),
      ("deprecated_capability_ids", texts r.deprecatedCapabilityIds),
      ("availability_records", .list (r.availabilityRecords.map .dict)),
      ("created_at", .float r.createdAt), ("task_id", optionalText r.taskId),
      ("action_name", .str r.actionName), ("prompt_artifact_id", optionalText r.promptArtifactId),
      ("snapshot_artifact_id", optionalText r.snapshotArtifactId), ("metadata", .dict r.metadata)]

end Instances

section Classes

/-- `str | None`. -/
def optionalStr : Annotation := .union [.str, .null]

def optional (default : Value) : FieldInfo := { required := false, default := default }

def riskLevels : Annotation := .enum "CapabilityRiskLevel" ["low", "medium", "high", "critical"]

def statuses : Annotation :=
  .enum "CapabilityStatus" ["enabled", "disabled", "unavailable", "placeholder", "deprecated"]

def visibilities : Annotation :=
  .enum "CapabilityVisibility" ["planner_visible", "validator_only", "internal"]

def descriptorFields : FieldSpecs :=
  [("capability_id", .str, {}), ("version", .str, {}), ("step_kind", .str, {}),
    ("owner_module", .str, {}), ("name", .str, {}), ("description", .str, {}),
    ("executor_name", optionalStr, optional .null), ("input_model_ref", optionalStr, optional .null),
    ("output_model_ref", optionalStr, optional .null), ("input_schema", .dict, optional (.dict [])),
    ("output_schema", .dict, optional (.dict [])),
    ("required_context_keys", .tuple .str, optional (.list [])),
    ("required_capabilities", .tuple .str, optional (.list [])),
    ("risk_level", riskLevels, optional (.str "low")),
    ("visibility", visibilities, optional (.str "planner_visible")),
    ("default_enabled", .bool, optional (.bool true)),
    ("is_placeholder", .bool, optional (.bool false)),
    ("is_deprecated", .bool, optional (.bool false)),
    ("examples", .tuple .dict, optional (.list [])), ("tags", .tuple .str, optional (.list [])),
    ("metadata", .dict, optional (.dict []))]

def capabilityDescriptor : Annotation := .model "CapabilityDescriptor" .forbid descriptorFields

def availabilityFields : FieldSpecs :=
  [("capability_id", .str, {}), ("step_kind", .str, {}), ("status", statuses, {}),
    ("reason", optionalStr, optional .null),
    ("missing_context_keys", .tuple .str, optional (.list [])),
    ("blocked_by_policy", .bool, optional (.bool false)),
    ("blocked_by_skill", .bool, optional (.bool false)),
    ("blocked_by_feature_flag", .bool, optional (.bool false)),
    ("effective_risk_level", riskLevels, optional (.str "low"))]

def capabilityAvailability : Annotation :=
  .model "CapabilityAvailability" .forbid availabilityFields

def snapshotFields : FieldSpecs :=
  [("snapshot_id", .str, {}), ("capabilities", .tuple capabilityDescriptor, {}),
    ("availability", .tuple capabilityAvailability, {}),
    ("available_step_kinds", .tuple .str, {}), ("unavailable_step_kinds", .tuple .str, {}),
    ("capability_digest", .str, {}), ("task_id", optionalStr, optional .null),
    ("metadata", .dict, optional (.dict []))]

def capabilitySnapshot : Annotation := .model "CapabilitySnapshot" .forbid snapshotFields

def recordFields : FieldSpecs :=
  [("record_id", .str, {}), ("input_payload", .dict, {}), ("output_snapshot_id", .str, {}),
    ("output_capability_digest", .str, {}), ("descriptor_ids", .list .str, {}),
    ("enabled_capability_ids", .list .str, {}), ("disabled_capability_ids", .list .str, {}),
    ("unavailable_capability_ids", .list .str, {}), ("placeholder_capability_ids", .list .str, {}),
    ("deprecated_capability_ids", .list .str, {}), ("availability_records", .list .dict, {}),
    ("created_at", .float, {}), ("task_id", optionalStr, optional .null),
    ("action_name", .literal ["capability.build_snapshot"],
      optional (.str "capability.build_snapshot")),
    ("prompt_artifact_id", optionalStr, optional .null),
    ("snapshot_artifact_id", optionalStr, optional .null),
    ("metadata", .dict, optional (.dict []))]

def capabilityResolutionRecord : Annotation :=
  .model "CapabilityResolutionRecord" .forbid recordFields

end Classes

/-- The fields of an instance, dumped: `model_dump(mode="json")`. -/
def modelDump : Value → Fields
  | .obj _ attributes => dumpFields attributes
  | _ => []

/-- `cls.model_validate(obj.model_dump(mode="json"))`. -/
def rebuild (model : Annotation) (instance' : Value) : Coerced Value :=
  coerceValue model (.dict (modelDump instance')) ""

section Record

/-- `by_status[status.value]`. -/
def idsByStatus (snapshot : CapabilitySnapshot) (status : CapabilityStatus) : List String :=
  (snapshot.availability.filter fun a => a.status = status).map (·.capabilityId)

/-- `build_resolution_record`, given the digits of the record's id and the time. -/
def buildResolutionRecord (request : BuildCapabilitySnapshotInput) (snapshot : CapabilitySnapshot)
    (promptArtifactId snapshotArtifactId : Option String) (uuidHex : String)
    (createdAt : PyFloat) : CapabilityResolutionRecord where
  recordId := s!"capres_{uuidHex}"
  taskId := request.taskId
  inputPayload := modelDump (requestObj request)
  outputSnapshotId := snapshot.snapshotId
  outputCapabilityDigest := snapshot.capabilityDigest
  descriptorIds := snapshot.capabilities.map (·.capabilityId)
  enabledCapabilityIds := idsByStatus snapshot .enabled
  disabledCapabilityIds := idsByStatus snapshot .disabled
  unavailableCapabilityIds := idsByStatus snapshot .unavailable
  placeholderCapabilityIds := idsByStatus snapshot .placeholder
  deprecatedCapabilityIds := idsByStatus snapshot .deprecated
  availabilityRecords := snapshot.availability.map fun a => modelDump (availabilityObj a)
  promptArtifactId := promptArtifactId
  snapshotArtifactId := snapshotArtifactId
  createdAt := createdAt

/-- `build_snapshot_and_record`, given the digits of the two ids and the time. -/
def buildSnapshotAndRecord (panel : CapabilityPanel) (request : BuildCapabilitySnapshotInput)
    (snapshotHex recordHex : String) (createdAt : PyFloat) :
    CapabilitySnapshot × CapabilityResolutionRecord :=
  let snapshot := buildSnapshot panel request snapshotHex
  (snapshot, buildResolutionRecord request snapshot none none recordHex createdAt)

end Record

end SthBoring.Capability.TraceModels
