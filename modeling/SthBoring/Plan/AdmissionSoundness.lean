/- Module: SthBoring/Plan/AdmissionSoundness
   source: sdk_test_agent/plan/plan_validation.py, sdk_test_agent/capability/capability_panel.py
   digest: What a plan that passes against a capability snapshot may use. -/

import SthBoring.Plan.PassedPlans

set_option autoImplicit false
set_option relaxedAutoImplicit false

namespace SthBoring.Plan.AdmissionSoundness

open SthBoring.Lib.OrderedDict (PyDict)
open SthBoring.Lib.PyValue (Value Fields PyExc)
open SthBoring.Capability.CapabilityModels
open SthBoring.Capability.Panel
open SthBoring.Capability.SchemaValidation (validatePayloadAgainstSchema)
open SthBoring.Plan.Models
open SthBoring.Plan.PlanValidation
open SthBoring.Plan.PassedPlans

/-- The capability is in the snapshot and enabled there. -/
def EnabledIn (snapshot : CapabilitySnapshot) (capabilityId : String) : Prop :=
  ∃ a ∈ snapshot.availability, a.capabilityId = capabilityId ∧ a.status = .enabled

/-- The inputs of the step have no errors against the schema of the capability. -/
def InputsValid (v : PlanValidator) (step : PlanStep) (descriptor : CapabilityDescriptor) : Prop :=
  validatePayloadAgainstSchema v.recursionLimit (.dict step.inputs) descriptor.inputSchema = .ok []

section Index

variable (panel : CapabilityPanel) (request : BuildCapabilitySnapshotInput) (uuidHex : String)

private theorem map_resolved {α : Type} (f : CapabilityAvailability → α)
    (g : CapabilityDescriptor → α) (h : ∀ d, f (resolveDescriptor d request) = g d) :
    (buildSnapshot panel request uuidHex).availability.map f = panel.registry.listAll.map g := by
  rw [buildSnapshot_availability, List.map_map]
  exact List.map_congr_left (fun d _ => h d)

theorem descriptorByStepKind_iff (kind : String) (d : CapabilityDescriptor) :
    (buildSnapshotIndex (buildSnapshot panel request uuidHex)).descriptorByStepKind.get kind =
      some d ↔ d ∈ panel.registry.listAll ∧ d.stepKind = kind :=
  PyDict.get_comprehension _ panel.registry.nodup_kinds kind d

/-- The availability found under a step kind is the one of the descriptor found there. -/
theorem availabilityByStepKind_of_descriptor {kind : String} {d : CapabilityDescriptor}
    (hd : d ∈ panel.registry.listAll) (hk : d.stepKind = kind) :
    (buildSnapshotIndex (buildSnapshot panel request uuidHex)).availabilityByStepKind.get kind =
      some (resolveDescriptor d request) := by
  have nodup : ((buildSnapshot panel request uuidHex).availability.map
      CapabilityAvailability.stepKind).Nodup := by
    rw [map_resolved panel request uuidHex _ CapabilityDescriptor.stepKind (fun _ => rfl)]
    exact panel.registry.nodup_kinds
  exact (PyDict.get_comprehension _ nodup kind _).mpr ⟨List.mem_map_of_mem hd, hk⟩

theorem availabilityByCapabilityId_iff (capabilityId : String) (a : CapabilityAvailability) :
    (buildSnapshotIndex (buildSnapshot panel request uuidHex)).availabilityByCapabilityId.get
        capabilityId = some a ↔
      a ∈ (buildSnapshot panel request uuidHex).availability ∧ a.capabilityId = capabilityId := by
  have nodup : ((buildSnapshot panel request uuidHex).availability.map
      CapabilityAvailability.capabilityId).Nodup := by
    rw [map_resolved panel request uuidHex _ CapabilityDescriptor.capabilityId (fun _ => rfl)]
    exact panel.registry.nodup_ids
  exact PyDict.get_comprehension _ nodup capabilityId a

end Index

section Step

variable {panel : CapabilityPanel} {request : BuildCapabilitySnapshotInput} {uuidHex : String}
  {v : PlanValidator} {step : PlanStep} {loc : String} {descriptor : CapabilityDescriptor}

/-- Without an error, every declared capability is enabled. -/
theorem enabled_of_clean
    (clean : Clean (validateRequiredCapabilities v step loc descriptor
      (buildSnapshotIndex (buildSnapshot panel request uuidHex))))
    {capabilityId : String} (hc : capabilityId ∈ step.requiredCapabilities) :
    EnabledIn (buildSnapshot panel request uuidHex) capabilityId := by
  unfold validateRequiredCapabilities at clean
  have declared : step.requiredCapabilities.isEmpty = false := by
    cases hr : step.requiredCapabilities with
    | nil => rw [hr] at hc; cases hc
    | cons cap caps => rfl
  simp only [declared, Bool.false_eq_true, if_false] at clean
  have own := clean_flatMap.mp (clean_append.mp clean).1 capabilityId hc
  unfold declaredCapabilityIssues at own
  dsimp only at own
  split at own
  · rename_i d a hd ha
    have status := clean_issuesIf rfl own
    obtain ⟨mem, hid⟩ := (availabilityByCapabilityId_iff panel request uuidHex _ _).mp ha
    exact ⟨a, mem, hid, by simpa using status⟩
  · exact absurd rfl (own _ List.mem_cons_self)

/-- Without an error, the inputs of an enabled step fit its schema. -/
theorem inputsValid_of_clean {index : SnapshotIndex} {issues : List ValidationIssue}
    (checked : validateEnabledStep v step loc descriptor index = .ok issues)
    (clean : Clean issues) :
    InputsValid v step descriptor ∧ Clean (validateRequiredCapabilities v step loc descriptor index) := by
  unfold validateEnabledStep at checked
  unfold InputsValid
  cases found : validatePayloadAgainstSchema v.recursionLimit (.dict step.inputs)
      descriptor.inputSchema with
  | error exc =>
    rw [found] at checked
    cases checked
  | ok errors =>
    rw [found] at checked
    cases checked
    obtain ⟨schema, required⟩ := clean_append.mp clean
    refine ⟨?_, required⟩
    cases errors with
    | nil => rfl
    | cons error errors =>
      have first := clean_flatMap.mp schema error List.mem_cons_self
      exact absurd rfl (first _ List.mem_cons_self)

end Step

/-- What passing says about one step. A deprecated capability is let through by a flag, with a
warning. -/
structure Admitted (v : PlanValidator) (panel : CapabilityPanel)
    (request : BuildCapabilitySnapshotInput) (snapshot : CapabilitySnapshot) (step : PlanStep)
    (descriptor : CapabilityDescriptor) : Prop where
  registered : panel.registry.maybeGetByStepKind step.kind = some descriptor
  enabled : (resolveDescriptor descriptor request).status ≠ .deprecated →
    (resolveDescriptor descriptor request).status = .enabled ∧ InputsValid v step descriptor ∧
      ∀ capabilityId ∈ step.requiredCapabilities, EnabledIn snapshot capabilityId
  deprecated : (resolveDescriptor descriptor request).status = .deprecated →
    v.allowDeprecatedCapability = true ∧ v.failOnWarning = false

/-- Every step of a plan that passes against a snapshot is admitted. -/
theorem admission_sound (v : PlanValidator) (plan : ExecutionPlan) (panel : CapabilityPanel)
    (request : BuildCapabilitySnapshotInput) (uuidHex : String)
    (passes : Passes v plan (some (buildSnapshot panel request uuidHex))) :
    ∀ step ∈ plan.steps, ∃ descriptor,
      Admitted v panel request (buildSnapshot panel request uuidHex) step descriptor := by
  intro step hs
  obtain ⟨issues, passed⟩ := passes_iff.mp passes
  obtain ⟨idx, found, checked, sub⟩ := passed.step_issues hs
  have here : found ⊆ issues := fun i hi => sub (List.mem_append_right _ hi)
  have clean := passed.clean.subset here
  change validateStepAgainstCapabilitySnapshot v step idx
    (buildSnapshotIndex (buildSnapshot panel request uuidHex)) = .ok found at checked
  unfold validateStepAgainstCapabilitySnapshot at checked
  cases hd : (buildSnapshotIndex (buildSnapshot panel request uuidHex)).descriptorByStepKind.get
      step.kind with
  | none =>
    simp only [hd] at checked
    split at checked <;> cases checked <;> exact absurd rfl (clean _ List.mem_cons_self)
  | some descriptor =>
    obtain ⟨listed, kind⟩ := (descriptorByStepKind_iff panel request uuidHex _ _).mp hd
    have ha := availabilityByStepKind_of_descriptor panel request uuidHex listed kind
    simp only [hd, ha] at checked
    have registered := (panel.registry.maybeGetByStepKind_eq_some_iff _ _).mpr ⟨listed, kind⟩
    split at checked
    · -- the one issue made here is an error, unless the deprecated capability is allowed
      cases checked
      have lenient := clean _ List.mem_cons_self
      simp only [issueForUnavailableCapability, stepIssue_severity] at lenient
      split at lenient
      · rename_i allowed
        rw [Bool.and_eq_true, decide_eq_true_eq] at allowed
        obtain ⟨status, flag⟩ := allowed
        refine ⟨descriptor, registered, fun other => absurd status other, fun _ => ⟨flag, ?_⟩⟩
        by_contra strict
        refine passed.noWarning (Bool.eq_true_of_not_eq_false strict) _
          (here List.mem_cons_self) ?_
        simp [issueForUnavailableCapability, status, flag]
      · exact absurd rfl lenient
    · rename_i usable
      obtain ⟨valid, required⟩ := inputsValid_of_clean checked clean
      simp only [Bool.or_eq_true, not_or, decide_eq_true_eq, not_not] at usable
      have status : (resolveDescriptor descriptor request).status = .enabled := usable.2
      refine ⟨descriptor, registered, fun _ => ⟨status, valid, ?_⟩, fun other => ?_⟩
      · exact fun capabilityId hc => enabled_of_clean required hc
      · rw [status] at other
        cases other

section Examples

/-- A capability for running commands, deprecated or not, that takes any inputs. -/
def commandCapability (isDeprecated : Bool) : CapabilityDescriptor where
  capabilityId := "cap.run_command.v0"
  version := "0.1.0"
  stepKind := "run_command"
  ownerModule := "cmd_ctrl"
  name := "Run command"
  description := "Run a command."
  isDeprecated := isDeprecated

def commandPanel (isDeprecated : Bool) : CapabilityPanel where
  registry :=
    { byId := ⟨[("cap.run_command.v0", commandCapability isDeprecated)], by simp⟩
      byStepKind := ⟨[("run_command", commandCapability isDeprecated)], by simp⟩
      same := rfl
      idKeys := rfl
      kindKeys := rfl }
  sha256Hex _ := "0"

def commandStep : PlanStep where
  stepId := "step_run_command"
  title := "Run command"
  kind := "run_command"
  intent := "inspect command output"
  requiredCapabilities := ["cap.run_command.v0"]

def commandPlan : ExecutionPlan where
  planId := "plan_1"
  taskId := "task_1"
  taskType := "sdk_deploy"
  goal := "validate capability-aware plan"
  plannerKind := .llm
  plannerName := "test"
  plannerVersion := "v1"
  status := .draft
  steps := [commandStep]

/-- The panel's registry is the one that registering its capability gives. -/
theorem commandPanel_registered (isDeprecated : Bool) :
    CapabilityRegistry.empty.register (commandCapability isDeprecated) =
      .ok (commandPanel isDeprecated).registry := rfl

/-- An enabled capability is admitted for good. -/
theorem admission_sound_enabled :
    ∃ descriptor, Admitted {} (commandPanel false) {}
      (buildSnapshot (commandPanel false) {} "0") commandStep descriptor :=
  admission_sound {} commandPlan (commandPanel false) {} "0" ⟨0, _, rfl, rfl⟩ commandStep
    List.mem_cons_self

/-- The flag lets a deprecated capability through, which is not enabled. -/
theorem deprecated_admitted :
    (let v : PlanValidator := { allowDeprecatedCapability := true }
    let snapshot := buildSnapshot (commandPanel true) {} "0"
    Passes v commandPlan (some snapshot) ∧
      ¬ ∀ step ∈ commandPlan.steps, ∀ descriptor,
        (commandPanel true).registry.maybeGetByStepKind step.kind = some descriptor →
        InputsValid v step descriptor ∧
          ∀ capabilityId ∈ step.requiredCapabilities, EnabledIn snapshot capabilityId) := by
  refine ⟨⟨0, _, rfl, rfl⟩, fun sound => ?_⟩
  have declared := (sound commandStep List.mem_cons_self (commandCapability true) rfl).2
  obtain ⟨a, mem, _, status⟩ := declared "cap.run_command.v0" List.mem_cons_self
  have only : a = resolveDescriptor (commandCapability true) {} := List.mem_singleton.mp mem
  rw [only] at status
  cases status

end Examples

end SthBoring.Plan.AdmissionSoundness
