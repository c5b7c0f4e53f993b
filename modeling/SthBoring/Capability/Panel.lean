/- Module: SthBoring/Capability/Panel
   source: sdk_test_agent/capability/capability_panel.py
   digest: Which capabilities a task gets, as a snapshot with a digest. -/

import SthBoring.Lib.PyJson
import SthBoring.Capability.CapabilityModels

set_option autoImplicit false
set_option relaxedAutoImplicit false

namespace SthBoring.Capability.Panel

open SthBoring.Lib.PyValue (Value Fields)
open SthBoring.Capability.CapabilityModels

/-- The panel, with `hashlib.sha256(..).hexdigest()`. -/
structure CapabilityPanel where
  registry : CapabilityRegistry
  sha256Hex : ByteArray → String

/-- Everything `_availability` takes besides the descriptor. -/
structure Verdict where
  status : CapabilityStatus
  reason : Option String := none
  missingContextKeys : List String := []
  blockedByPolicy : Bool := false
  blockedBySkill : Bool := false
  blockedByFeatureFlag : Bool := false

def availability (descriptor : CapabilityDescriptor) (v : Verdict) : CapabilityAvailability where
  capabilityId := descriptor.capabilityId
  stepKind := descriptor.stepKind
  status := v.status
  reason := v.reason
  missingContextKeys := v.missingContextKeys
  blockedByPolicy := v.blockedByPolicy
  blockedBySkill := v.blockedBySkill
  blockedByFeatureFlag := v.blockedByFeatureFlag
  effectiveRiskLevel := descriptor.riskLevel

/-- The ladder of checks in `_resolve_descriptor`; the first that applies decides. -/
def verdict (descriptor : CapabilityDescriptor) (request : BuildCapabilitySnapshotInput) :
    Verdict :=
  let missingContext :=
    descriptor.requiredContextKeys.filter (fun k => !request.availableContextKeys.contains k)
  let flagName := s!"capability.{descriptor.capabilityId}.enabled"
  if descriptor.isPlaceholder && !request.allowPlaceholder then
    { status := .placeholder, reason := some "placeholder capability is disabled by default" }
  else if descriptor.isDeprecated && !request.allowDeprecated then
    { status := .deprecated, reason := some "deprecated capability is not allowed" }
  else if !descriptor.defaultEnabled then
    { status := .disabled, reason := some "capability is disabled by default" }
  else if request.forbiddenCapabilityIds.contains descriptor.capabilityId then
    { status := .disabled, reason := some "capability is forbidden by skill or policy"
      blockedBySkill := true }
  else if request.featureFlags.get flagName = some false then
    { status := .disabled, reason := some "capability is disabled by feature flag"
      blockedByFeatureFlag := true }
  else if !missingContext.isEmpty then
    { status := .unavailable, reason := some "required execution context is unavailable"
      missingContextKeys := missingContext }
  else if riskOrder request.maxRiskLevel < riskOrder descriptor.riskLevel then
    { status := .disabled, reason := some "capability risk exceeds task policy"
      blockedByPolicy := true }
  else { status := .enabled }

def resolveDescriptor (descriptor : CapabilityDescriptor)
    (request : BuildCapabilitySnapshotInput) : CapabilityAvailability :=
  availability descriptor (verdict descriptor request)

def texts (xs : List String) : Value := .list (xs.map Value.str)

def optionalText : Option String → Value
  | some s => .str s
  | none => .null

def descriptorDigestPayload (d : CapabilityDescriptor) : Value :=
  .dict [("capability_id", .str d.capabilityId), ("version", .str d.version),
    ("step_kind", .str d.stepKind), ("input_schema", d.inputSchema),
    ("output_schema", d.outputSchema), ("required_context_keys", texts d.requiredContextKeys),
    ("risk_level", .str d.riskLevel.text), ("visibility", .str d.visibility.text),
    ("default_enabled", .bool d.defaultEnabled), ("is_placeholder", .bool d.isPlaceholder),
    ("is_deprecated", .bool d.isDeprecated)]

def availabilityDigestPayload (a : CapabilityAvailability) : Value :=
  .dict [("capability_id", .str a.capabilityId), ("step_kind", .str a.stepKind),
    ("status", .str a.status.text), ("reason", optionalText a.reason),
    ("missing_context_keys", texts a.missingContextKeys)]

/-- `digest_payload`, from the parts of a snapshot. -/
def digestPayload (descriptors : List CapabilityDescriptor)
    (availability : List CapabilityAvailability)
    (availableStepKinds unavailableStepKinds : List String) : Value :=
  .dict [("capabilities", .list (descriptors.map descriptorDigestPayload)),
    ("availability", .list (availability.map availabilityDigestPayload)),
    ("available_step_kinds", texts availableStepKinds),
    ("unavailable_step_kinds", texts unavailableStepKinds)]

/-- `sha256_digest`. -/
def sha256Digest (sha256Hex : ByteArray → String) (data : Value) : String :=
  "sha256:" ++ sha256Hex (SthBoring.Lib.PyJson.dumps .compact data).toUTF8

/-- `build_snapshot`, given the digits of the new snapshot's id. -/
def buildSnapshot (panel : CapabilityPanel) (request : BuildCapabilitySnapshotInput)
    (uuidHex : String) : CapabilitySnapshot :=
  let descriptors := panel.registry.listAll
  let resolved := descriptors.map (fun d => resolveDescriptor d request)
  let available := (resolved.filter (fun a => a.status = .enabled)).map (·.stepKind)
  let unavailable := (resolved.filter (fun a => a.status ≠ .enabled)).map (·.stepKind)
  { snapshotId := s!"capsnap_{uuidHex}"
    capabilities := descriptors
    availability := resolved
    availableStepKinds := available
    unavailableStepKinds := unavailable
    capabilityDigest :=
      sha256Digest panel.sha256Hex (digestPayload descriptors resolved available unavailable)
    taskId := request.taskId
    metadata := [("task_type", optionalText request.taskType),
      ("required_capability_ids", texts request.requiredCapabilityIds),
      ("recommended_capability_ids", texts request.recommendedCapabilityIds),
      ("max_risk_level", .str request.maxRiskLevel.text)] }

section Snapshot

variable (panel : CapabilityPanel) (request : BuildCapabilitySnapshotInput) (uuidHex : String)

@[simp] theorem buildSnapshot_capabilities :
    (buildSnapshot panel request uuidHex).capabilities = panel.registry.listAll := rfl

@[simp] theorem buildSnapshot_availability :
    (buildSnapshot panel request uuidHex).availability =
      panel.registry.listAll.map (fun d => resolveDescriptor d request) := rfl

@[simp] theorem resolveDescriptor_capabilityId (d : CapabilityDescriptor) :
    (resolveDescriptor d request).capabilityId = d.capabilityId := rfl

@[simp] theorem resolveDescriptor_stepKind (d : CapabilityDescriptor) :
    (resolveDescriptor d request).stepKind = d.stepKind := rfl

end Snapshot

end SthBoring.Capability.Panel
