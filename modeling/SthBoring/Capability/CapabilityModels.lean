/- Module: SthBoring/Capability/CapabilityModels
   source: sdk_test_agent/capability/capability_enums.py, capability_models.py,
     capability_registry.py
   digest: Capability descriptors, snapshots, and the registry with its two indexes. -/

import SthBoring.Lib.PyValue

set_option autoImplicit false
set_option relaxedAutoImplicit false

namespace SthBoring.Capability.CapabilityModels

open SthBoring.Lib.OrderedDict (PyDict)
open SthBoring.Lib.PyValue (Value Fields PyExc valueError keyError)

inductive CapabilityStatus where
  | enabled | disabled | unavailable | placeholder | deprecated
  deriving DecidableEq, Repr

inductive CapabilityRiskLevel where
  | low | medium | high | critical
  deriving DecidableEq, Repr

inductive CapabilityVisibility where
  | plannerVisible | validatorOnly | internal
  deriving DecidableEq, Repr

/-- A member of a string enumeration is its value in JSON, and in an f-string up to Python 3.11. -/
def CapabilityStatus.text : CapabilityStatus → String
  | enabled => "enabled"
  | disabled => "disabled"
  | unavailable => "unavailable"
  | placeholder => "placeholder"
  | deprecated => "deprecated"

def CapabilityRiskLevel.text : CapabilityRiskLevel → String
  | low => "low"
  | medium => "medium"
  | high => "high"
  | critical => "critical"

def CapabilityVisibility.text : CapabilityVisibility → String
  | plannerVisible => "planner_visible"
  | validatorOnly => "validator_only"
  | internal => "internal"

/-- `RISK_ORDER`. -/
def riskOrder : CapabilityRiskLevel → ℕ
  | .low => 0
  | .medium => 1
  | .high => 2
  | .critical => 3

structure CapabilityDescriptor where
  capabilityId : String
  version : String
  stepKind : String
  ownerModule : String
  name : String
  description : String
  executorName : Option String := none
  inputModelRef : Option String := none
  outputModelRef : Option String := none
  inputSchema : Value := .dict []
  outputSchema : Value := .dict []
  requiredContextKeys : List String := []
  requiredCapabilities : List String := []
  riskLevel : CapabilityRiskLevel := .low
  visibility : CapabilityVisibility := .plannerVisible
  defaultEnabled : Bool := true
  isPlaceholder : Bool := false
  isDeprecated : Bool := false
  examples : List Value := []
  tags : List String := []
  metadata : Fields := []

structure BuildCapabilitySnapshotInput where
  taskId : Option String := none
  taskType : Option String := none
  availableContextKeys : List String := []
  requiredCapabilityIds : List String := []
  recommendedCapabilityIds : List String := []
  forbiddenCapabilityIds : List String := []
  maxRiskLevel : CapabilityRiskLevel := .medium
  allowPlaceholder : Bool := false
  allowDeprecated : Bool := false
  featureFlags : PyDict String Bool := .empty
  metadata : Fields := []

structure CapabilityAvailability where
  capabilityId : String
  stepKind : String
  status : CapabilityStatus
  reason : Option String := none
  missingContextKeys : List String := []
  blockedByPolicy : Bool := false
  blockedBySkill : Bool := false
  blockedByFeatureFlag : Bool := false
  effectiveRiskLevel : CapabilityRiskLevel := .low

structure CapabilitySnapshot where
  snapshotId : String
  capabilities : List CapabilityDescriptor
  availability : List CapabilityAvailability
  availableStepKinds : List String
  unavailableStepKinds : List String
  capabilityDigest : String
  taskId : Option String := none
  metadata : Fields := []

/-- The two indexes hold the same descriptors, each under its own key. -/
structure CapabilityRegistry where
  byId : PyDict String CapabilityDescriptor
  byStepKind : PyDict String CapabilityDescriptor
  same : byStepKind.values = byId.values
  idKeys : byId.keys = byId.values.map CapabilityDescriptor.capabilityId
  kindKeys : byStepKind.keys = byStepKind.values.map CapabilityDescriptor.stepKind

namespace CapabilityRegistry

def empty : CapabilityRegistry := ⟨.empty, .empty, rfl, rfl, rfl⟩

/-- Both indexes reject a key they already have. -/
def register (r : CapabilityRegistry) (descriptor : CapabilityDescriptor) :
    Except PyExc CapabilityRegistry :=
  if newId : descriptor.capabilityId ∉ r.byId.keys then
    if newKind : descriptor.stepKind ∉ r.byStepKind.keys then
      .ok {
        byId := r.byId.set descriptor.capabilityId descriptor
        byStepKind := r.byStepKind.set descriptor.stepKind descriptor
        same := by
          rw [PyDict.values_set_of_notMem _ _ newKind, PyDict.values_set_of_notMem _ _ newId, r.same]
        idKeys := by
          rw [PyDict.keys_set_of_notMem _ _ newId, PyDict.values_set_of_notMem _ _ newId,
            List.map_append, r.idKeys]
          rfl
        kindKeys := by
          rw [PyDict.keys_set_of_notMem _ _ newKind, PyDict.values_set_of_notMem _ _ newKind,
            List.map_append, r.kindKeys]
          rfl }
    else .error (valueError s!"duplicated step_kind: {descriptor.stepKind}")
  else .error (valueError s!"duplicated capability_id: {descriptor.capabilityId}")

def getByStepKind (r : CapabilityRegistry) (stepKind : String) :
    Except PyExc CapabilityDescriptor :=
  match r.byStepKind.get stepKind with
  | some descriptor => .ok descriptor
  | none => .error (keyError stepKind)

def maybeGetByStepKind (r : CapabilityRegistry) (stepKind : String) :
    Option CapabilityDescriptor :=
  r.byStepKind.get stepKind

def listAll (r : CapabilityRegistry) : List CapabilityDescriptor := r.byId.values

def availableStepKinds (r : CapabilityRegistry) : List String := r.byStepKind.keys

theorem nodup_ids (r : CapabilityRegistry) :
    (r.listAll.map CapabilityDescriptor.capabilityId).Nodup := by
  rw [listAll, ← r.idKeys]
  exact r.byId.nodup

theorem nodup_kinds (r : CapabilityRegistry) :
    (r.listAll.map CapabilityDescriptor.stepKind).Nodup := by
  rw [listAll, ← r.same, ← r.kindKeys]
  exact r.byStepKind.nodup

/-- A descriptor is found under its step kind exactly when it is listed. -/
theorem maybeGetByStepKind_eq_some_iff (r : CapabilityRegistry) (stepKind : String)
    (descriptor : CapabilityDescriptor) :
    r.maybeGetByStepKind stepKind = some descriptor ↔
      descriptor ∈ r.listAll ∧ descriptor.stepKind = stepKind := by
  rw [maybeGetByStepKind, r.byStepKind.get_eq_some_iff_of_keyed _ r.kindKeys, r.same]
  rfl

end CapabilityRegistry

end SthBoring.Capability.CapabilityModels
