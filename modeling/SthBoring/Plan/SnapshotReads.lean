/- Module: SthBoring/Plan/SnapshotReads
   source: sdk_test_agent/plan/plan_validation.py
   digest: What the plan validator looks at in a snapshot. -/

import SthBoring.Plan.PlanValidation

set_option autoImplicit false
set_option relaxedAutoImplicit false

namespace SthBoring.Plan.SnapshotReads

open SthBoring.Lib.OrderedDict (PyDict)
open SthBoring.Lib.PyValue (Value Fields PyExc collect)
open SthBoring.Capability.CapabilityModels
open SthBoring.Plan.Models
open SthBoring.Plan.PlanValidation

/-- A snapshot, with its descriptors and availabilities changed one by one. -/
def mapEntries (f : CapabilityDescriptor → CapabilityDescriptor)
    (g : CapabilityAvailability → CapabilityAvailability) (s : CapabilitySnapshot) :
    CapabilitySnapshot :=
  { s with capabilities := s.capabilities.map f, availability := s.availability.map g }

/-- The changes leave the keys alone. -/
structure KeepsKeys (f : CapabilityDescriptor → CapabilityDescriptor)
    (g : CapabilityAvailability → CapabilityAvailability) : Prop where
  stepKind : ∀ d, (f d).stepKind = d.stepKind
  capabilityId : ∀ d, (f d).capabilityId = d.capabilityId
  availableKind : ∀ a, (g a).stepKind = a.stepKind
  availableId : ∀ a, (g a).capabilityId = a.capabilityId

section Index

variable {f : CapabilityDescriptor → CapabilityDescriptor}
  {g : CapabilityAvailability → CapabilityAvailability} (keeps : KeepsKeys f g)
  (s : CapabilitySnapshot) (key : String)

include keeps

theorem descriptorByStepKind_map :
    (buildSnapshotIndex (mapEntries f g s)).descriptorByStepKind.get key =
      ((buildSnapshotIndex s).descriptorByStepKind.get key).map f :=
  PyDict.get_comprehension_map keeps.stepKind s.capabilities key

theorem availabilityByStepKind_map :
    (buildSnapshotIndex (mapEntries f g s)).availabilityByStepKind.get key =
      ((buildSnapshotIndex s).availabilityByStepKind.get key).map g :=
  PyDict.get_comprehension_map keeps.availableKind s.availability key

theorem descriptorByCapabilityId_map :
    (buildSnapshotIndex (mapEntries f g s)).descriptorByCapabilityId.get key =
      ((buildSnapshotIndex s).descriptorByCapabilityId.get key).map f :=
  PyDict.get_comprehension_map keeps.capabilityId s.capabilities key

theorem availabilityByCapabilityId_map :
    (buildSnapshotIndex (mapEntries f g s)).availabilityByCapabilityId.get key =
      ((buildSnapshotIndex s).availabilityByCapabilityId.get key).map g :=
  PyDict.get_comprehension_map keeps.availableId s.availability key

end Index

section Seen

/-- What is looked at in a descriptor: its schema only where its step kind is enabled. -/
def seenDescriptor (enabledKinds : List String) (d : CapabilityDescriptor) :
    CapabilityDescriptor where
  capabilityId := d.capabilityId
  version := ""
  stepKind := d.stepKind
  ownerModule := ""
  name := ""
  description := ""
  inputSchema := if enabledKinds.contains d.stepKind then d.inputSchema else .dict []

/-- What is looked at in an availability. -/
def seenAvailability (a : CapabilityAvailability) : CapabilityAvailability where
  capabilityId := a.capabilityId
  stepKind := a.stepKind
  status := a.status
  reason := a.reason
  missingContextKeys := a.missingContextKeys

theorem keepsKeys_seen (kinds : List String) : KeepsKeys (seenDescriptor kinds) seenAvailability :=
  ⟨fun _ => rfl, fun _ => rfl, fun _ => rfl, fun _ => rfl⟩

/-- A snapshot as the validator sees it. -/
def seen (s : CapabilitySnapshot) : CapabilitySnapshot :=
  { mapEntries (seenDescriptor s.availableStepKinds) seenAvailability s with
    unavailableStepKinds := [], taskId := none, metadata := [] }

variable (v : PlanValidator) (s : CapabilitySnapshot) (step : PlanStep) (idx : ℕ) (loc : String)

theorem declaredCapabilityIssues_seen (capabilityId : String) :
    declaredCapabilityIssues step loc (buildSnapshotIndex (seen s)) capabilityId =
      declaredCapabilityIssues step loc (buildSnapshotIndex s) capabilityId := by
  have keeps := keepsKeys_seen s.availableStepKinds
  have descriptor := descriptorByCapabilityId_map keeps s capabilityId
  have availability := availabilityByCapabilityId_map keeps s capabilityId
  change (buildSnapshotIndex (seen s)).descriptorByCapabilityId.get capabilityId = _ at descriptor
  change (buildSnapshotIndex (seen s)).availabilityByCapabilityId.get capabilityId = _
    at availability
  unfold declaredCapabilityIssues
  rw [descriptor, availability]
  cases (buildSnapshotIndex s).descriptorByCapabilityId.get capabilityId with
  | none => rfl
  | some d => cases (buildSnapshotIndex s).availabilityByCapabilityId.get capabilityId <;> rfl

theorem validateEnabledStep_seen {d : CapabilityDescriptor}
    (enabled : s.availableStepKinds.contains d.stepKind = true) :
    validateEnabledStep v step loc (seenDescriptor s.availableStepKinds d)
        (buildSnapshotIndex (seen s)) =
      validateEnabledStep v step loc d (buildSnapshotIndex s) := by
  have declared : declaredCapabilityIssues step loc (buildSnapshotIndex (seen s)) =
      declaredCapabilityIssues step loc (buildSnapshotIndex s) :=
    funext (declaredCapabilityIssues_seen s step loc)
  have schema : (seenDescriptor s.availableStepKinds d).inputSchema = d.inputSchema := if_pos enabled
  simp only [validateEnabledStep, validateRequiredCapabilities, declared, schema]
  rfl

theorem validateStep_seen :
    validateStepAgainstCapabilitySnapshot v step idx (buildSnapshotIndex (seen s)) =
      validateStepAgainstCapabilitySnapshot v step idx (buildSnapshotIndex s) := by
  have keeps := keepsKeys_seen s.availableStepKinds
  have descriptor := descriptorByStepKind_map keeps s step.kind
  have availability := availabilityByStepKind_map keeps s step.kind
  change (buildSnapshotIndex (seen s)).descriptorByStepKind.get step.kind = _ at descriptor
  change (buildSnapshotIndex (seen s)).availabilityByStepKind.get step.kind = _ at availability
  have kinds : (buildSnapshotIndex (seen s)).enabledStepKinds = s.availableStepKinds := rfl
  have kinds' : (buildSnapshotIndex s).enabledStepKinds = s.availableStepKinds := rfl
  unfold validateStepAgainstCapabilitySnapshot
  rw [descriptor, availability, kinds, kinds']
  cases found : (buildSnapshotIndex s).descriptorByStepKind.get step.kind with
  | none => rfl
  | some d =>
    cases (buildSnapshotIndex s).availabilityByStepKind.get step.kind with
    | none => rfl
    | some a =>
      have own : d.stepKind = step.kind := (PyDict.of_get_comprehension found).2
      cases enabled : s.availableStepKinds.contains step.kind with
      | false => rfl
      | true =>
        rw [← own] at enabled
        simp only [Option.map_some, validateEnabledStep_seen v s step _ enabled]
        rfl

/-- The rest of a snapshot makes no difference to the validator. -/
theorem planIssues_seen (steps : List PlanStep) (planMetadata : Fields) :
    planIssues v steps planMetadata (some (seen s)) = planIssues v steps planMetadata (some s) := by
  have perStep : stepIssues v (some (seen s)) = stepIssues v (some s) := by
    funext known step
    simp only [stepIssues, capabilityIssues, validateStep_seen]
  simp only [planIssues, perStep]
  rfl

theorem validate_seen (plan : ExecutionPlan) (checkedAt : ℤ) :
    validate v plan (some (seen s)) checkedAt = validate v plan (some s) checkedAt := by
  simp only [validate, validateSteps, planIssues_seen]
  rfl

end Seen

end SthBoring.Plan.SnapshotReads
