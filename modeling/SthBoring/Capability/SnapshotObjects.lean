/- Module: SthBoring/Capability/SnapshotObjects
   source: sdk_test_agent/capability/capability_models.py
   digest: Snapshots read from the instances of their classes. -/

import SthBoring.Capability.TraceModels

set_option autoImplicit false
set_option relaxedAutoImplicit false

namespace SthBoring.Capability.SnapshotObjects

open SthBoring.Lib.PyValue (Value Fields)
open SthBoring.Lib.Dataclasses
open SthBoring.Capability.CapabilityModels
open SthBoring.Capability.ModelValidation
open SthBoring.Capability.Panel (texts optionalText)
open SthBoring.Capability.TraceModels

section Texts

def readText : Value → Option (Option String) := readOptional readStr

def readTexts : Value → Option (List String) := readList readStr

theorem sound_text : Sound readText optionalText := by
  intro v s h
  have written := sound_optional sound_str v s h
  cases s <;> exact written

theorem sound_texts : Sound readTexts texts := sound_list sound_str

theorem complete_text : Complete readText optionalText := by
  intro s
  cases s <;> rfl

theorem complete_texts : Complete readTexts texts := complete_list fun _ => rfl

end Texts

section Enumerations

def readRiskLevel : Value → Option CapabilityRiskLevel
  | .str "low" => some .low
  | .str "medium" => some .medium
  | .str "high" => some .high
  | .str "critical" => some .critical
  | _ => none

def readStatus : Value → Option CapabilityStatus
  | .str "enabled" => some .enabled
  | .str "disabled" => some .disabled
  | .str "unavailable" => some .unavailable
  | .str "placeholder" => some .placeholder
  | .str "deprecated" => some .deprecated
  | _ => none

def readVisibility : Value → Option CapabilityVisibility
  | .str "planner_visible" => some .plannerVisible
  | .str "validator_only" => some .validatorOnly
  | .str "internal" => some .internal
  | _ => none

theorem complete_riskLevel : Complete readRiskLevel (.str ∘ CapabilityRiskLevel.text) := by
  intro r
  cases r <;> rfl

theorem complete_status : Complete readStatus (.str ∘ CapabilityStatus.text) := by
  intro s
  cases s <;> rfl

theorem complete_visibility : Complete readVisibility (.str ∘ CapabilityVisibility.text) := by
  intro v
  cases v <;> rfl

end Enumerations

section Instances

/-- The names of a class, in order. -/
def namesOf (specs : FieldSpecs) : List String := specs.map Prod.fst

def readDescriptor (v : Value) : Option CapabilityDescriptor := do
  let values ← attributesOf "CapabilityDescriptor" (namesOf descriptorFields) v
  let (capabilityId, version, stepKind, ownerModule, name, description, executorName,
    inputModelRef, outputModelRef, inputSchema, outputSchema, requiredContextKeys,
    requiredCapabilities, riskLevel, visibility, defaultEnabled, isPlaceholder, isDeprecated,
    examples, tags, metadata, _) ←
    (readCons readStr <| readCons readStr <| readCons readStr <| readCons readStr <|
      readCons readStr <| readCons readStr <| readCons readText <| readCons readText <|
      readCons readText <| readCons some <| readCons some <| readCons readTexts <|
      readCons readTexts <| readCons readRiskLevel <| readCons readVisibility <|
      readCons readBool <| readCons readBool <| readCons readBool <| readCons (readList some) <|
      readCons readTexts <| readCons readDict readNil) values
  return {
    capabilityId, version, stepKind, ownerModule, name, description, executorName, inputModelRef
    outputModelRef, inputSchema, outputSchema, requiredContextKeys, requiredCapabilities
    riskLevel, visibility, defaultEnabled, isPlaceholder, isDeprecated, examples, tags, metadata }

def readAvailability (v : Value) : Option CapabilityAvailability := do
  let values ← attributesOf "CapabilityAvailability" (namesOf availabilityFields) v
  let (capabilityId, stepKind, status, reason, missingContextKeys, blockedByPolicy, blockedBySkill,
    blockedByFeatureFlag, effectiveRiskLevel, _) ←
    (readCons readStr <| readCons readStr <| readCons readStatus <| readCons readText <|
      readCons readTexts <| readCons readBool <| readCons readBool <| readCons readBool <|
      readCons readRiskLevel readNil) values
  return {
    capabilityId, stepKind, status, reason, missingContextKeys, blockedByPolicy, blockedBySkill
    blockedByFeatureFlag, effectiveRiskLevel }

def readSnapshot (v : Value) : Option CapabilitySnapshot := do
  let values ← attributesOf "CapabilitySnapshot" (namesOf snapshotFields) v
  let (snapshotId, capabilities, availability, availableStepKinds, unavailableStepKinds,
    capabilityDigest, taskId, metadata, _) ←
    (readCons readStr <| readCons (readList readDescriptor) <|
      readCons (readList readAvailability) <| readCons readTexts <| readCons readTexts <|
      readCons readStr <| readCons readText <| readCons readDict readNil) values
  return {
    snapshotId, capabilities, availability, availableStepKinds, unavailableStepKinds
    capabilityDigest, taskId, metadata }

theorem complete_descriptor : Complete readDescriptor descriptorObj := by
  intro d
  have examples : readList some (.list d.examples) = some d.examples := by
    have each := complete_list complete_any d.examples
    rwa [writeList, List.map_id] at each
  have row := readCons_writeCons (complete_str d.capabilityId) <|
    readCons_writeCons (complete_str d.version) <| readCons_writeCons (complete_str d.stepKind) <|
    readCons_writeCons (complete_str d.ownerModule) <| readCons_writeCons (complete_str d.name) <|
    readCons_writeCons (complete_str d.description) <|
    readCons_writeCons (complete_text d.executorName) <|
    readCons_writeCons (complete_text d.inputModelRef) <|
    readCons_writeCons (complete_text d.outputModelRef) <|
    readCons_writeCons (complete_any d.inputSchema) <|
    readCons_writeCons (complete_any d.outputSchema) <|
    readCons_writeCons (complete_texts d.requiredContextKeys) <|
    readCons_writeCons (complete_texts d.requiredCapabilities) <|
    readCons_writeCons (complete_riskLevel d.riskLevel) <|
    readCons_writeCons (complete_visibility d.visibility) <|
    readCons_writeCons (complete_bool d.defaultEnabled) <|
    readCons_writeCons (complete_bool d.isPlaceholder) <|
    readCons_writeCons (complete_bool d.isDeprecated) <| readCons_writeCons examples <|
    readCons_writeCons (complete_texts d.tags) <|
    readCons_writeCons (complete_dict d.metadata) readNil_writeNil
  rw [readDescriptor, descriptorObj, attributesOf_eq (by rfl)]
  exact congrArg (Option.bind · _) row

theorem complete_availability : Complete readAvailability availabilityObj := by
  intro a
  have row := readCons_writeCons (complete_str a.capabilityId) <|
    readCons_writeCons (complete_str a.stepKind) <|
    readCons_writeCons (complete_status a.status) <|
    readCons_writeCons (complete_text a.reason) <|
    readCons_writeCons (complete_texts a.missingContextKeys) <|
    readCons_writeCons (complete_bool a.blockedByPolicy) <|
    readCons_writeCons (complete_bool a.blockedBySkill) <|
    readCons_writeCons (complete_bool a.blockedByFeatureFlag) <|
    readCons_writeCons (complete_riskLevel a.effectiveRiskLevel) readNil_writeNil
  rw [readAvailability, availabilityObj, attributesOf_eq (by rfl)]
  exact congrArg (Option.bind · _) row

/-- A snapshot is read from its instance as it was. -/
theorem complete_snapshot : Complete readSnapshot snapshotObj := by
  intro s
  have row := readCons_writeCons (complete_str s.snapshotId) <|
    readCons_writeCons (complete_list complete_descriptor s.capabilities) <|
    readCons_writeCons (complete_list complete_availability s.availability) <|
    readCons_writeCons (complete_texts s.availableStepKinds) <|
    readCons_writeCons (complete_texts s.unavailableStepKinds) <|
    readCons_writeCons (complete_str s.capabilityDigest) <|
    readCons_writeCons (complete_text s.taskId) <|
    readCons_writeCons (complete_dict s.metadata) readNil_writeNil
  rw [readSnapshot, snapshotObj, attributesOf_eq (by rfl)]
  exact congrArg (Option.bind · _) row

end Instances

end SthBoring.Capability.SnapshotObjects
