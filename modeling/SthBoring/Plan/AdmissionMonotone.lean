/- Module: SthBoring/Plan/AdmissionMonotone
   source: sdk_test_agent/capability/capability_panel.py, sdk_test_agent/plan/plan_validation.py,
     plan_finalizer.py
   digest: A request that allows more loses no capability and no plan. -/

import SthBoring.Plan.AdmissionSoundness
import SthBoring.Plan.PlanFinalizer

set_option autoImplicit false
set_option relaxedAutoImplicit false

namespace SthBoring.Plan.AdmissionMonotone

open SthBoring.Lib.OrderedDict (PyDict)
open SthBoring.Lib.PyValue (Value Fields PyExc collect collect_cons_eq_ok)
open SthBoring.Capability.CapabilityModels
open SthBoring.Capability.Panel
open SthBoring.Capability.SchemaValidation (validatePayloadAgainstSchema)
open SthBoring.Plan.Models
open SthBoring.Plan.PlanValidation
open SthBoring.Plan.PassedPlans
open SthBoring.Plan.AdmissionSoundness
open SthBoring.Plan.PlanFinalizer

/-- The second request allows all that the first one does. -/
structure Relaxes (r r' : BuildCapabilitySnapshotInput) : Prop where
  context : r.availableContextKeys ⊆ r'.availableContextKeys
  risk : riskOrder r.maxRiskLevel ≤ riskOrder r'.maxRiskLevel
  placeholder : r.allowPlaceholder = true → r'.allowPlaceholder = true
  deprecated : r.allowDeprecated = true → r'.allowDeprecated = true
  forbidden : r'.forbiddenCapabilityIds ⊆ r.forbiddenCapabilityIds
  flags : ∀ name, r'.featureFlags.get name = some false → r.featureFlags.get name = some false

section Resolve

variable {r r' : BuildCapabilitySnapshotInput} {d : CapabilityDescriptor}

/-- What stands in the way of enabling a capability. -/
structure Cleared (d : CapabilityDescriptor) (r : BuildCapabilitySnapshotInput) : Prop where
  placeholder : d.isPlaceholder = true → r.allowPlaceholder = true
  deprecated : d.isDeprecated = true → r.allowDeprecated = true
  defaultEnabled : d.defaultEnabled = true
  forbidden : d.capabilityId ∉ r.forbiddenCapabilityIds
  flag : r.featureFlags.get s!"capability.{d.capabilityId}.enabled" ≠ some false
  context : d.requiredContextKeys ⊆ r.availableContextKeys
  risk : riskOrder d.riskLevel ≤ riskOrder r.maxRiskLevel

/-- A capability is enabled when nothing on the ladder applies to it. -/
theorem enabled_iff : (resolveDescriptor d r).status = .enabled ↔ Cleared d r := by
  have offered : (d.requiredContextKeys.filter
      (fun k => !r.availableContextKeys.contains k)).isEmpty = true ↔
        d.requiredContextKeys ⊆ r.availableContextKeys := by
    rw [List.isEmpty_iff, List.filter_eq_nil_iff]
    exact ⟨fun h k hk => by simpa using h k hk, fun h k hk => by simpa using h hk⟩
  show (verdict d r).status = .enabled ↔ Cleared d r
  unfold verdict
  dsimp only
  split
  · rename_i blocked
    simp only [Bool.and_eq_true, Bool.not_eq_true'] at blocked
    refine iff_of_false (by simp) (fun cleared => ?_)
    exact absurd (cleared.placeholder blocked.1) (by simp [blocked.2])
  · rename_i placeholder
    split
    · rename_i blocked
      simp only [Bool.and_eq_true, Bool.not_eq_true'] at blocked
      refine iff_of_false (by simp) (fun cleared => ?_)
      exact absurd (cleared.deprecated blocked.1) (by simp [blocked.2])
    · rename_i deprecated
      split
      · rename_i blocked
        refine iff_of_false (by simp) (fun cleared => ?_)
        simp [cleared.defaultEnabled] at blocked
      · rename_i defaultEnabled
        split
        · rename_i blocked
          exact iff_of_false (by simp) (fun cleared => absurd (by simpa using blocked) cleared.forbidden)
        · rename_i forbidden
          split
          · rename_i blocked
            exact iff_of_false (by simp) (fun cleared => absurd blocked cleared.flag)
          · rename_i flag
            split
            · rename_i blocked
              refine iff_of_false (by simp) (fun cleared => ?_)
              rw [offered.mpr cleared.context] at blocked
              cases blocked
            · rename_i context
              split
              · rename_i blocked
                exact iff_of_false (by simp) (fun cleared => absurd cleared.risk (Nat.not_le.mpr blocked))
              · rename_i risk
                refine ⟨fun _ => ?_, fun _ => rfl⟩
                exact
                  { placeholder := by simpa using placeholder
                    deprecated := by simpa using deprecated
                    defaultEnabled := by simpa using defaultEnabled
                    forbidden := by simpa using forbidden
                    flag := flag
                    context := offered.mp (by simpa using context)
                    risk := Nat.not_lt.mp risk }

theorem Cleared.relax (relaxes : Relaxes r r') (cleared : Cleared d r) : Cleared d r' where
  placeholder h := relaxes.placeholder (cleared.placeholder h)
  deprecated h := relaxes.deprecated (cleared.deprecated h)
  defaultEnabled := cleared.defaultEnabled
  forbidden h := cleared.forbidden (relaxes.forbidden h)
  flag h := cleared.flag (relaxes.flags _ h)
  context := List.Subset.trans cleared.context relaxes.context
  risk := cleared.risk.trans relaxes.risk

/-- An enabled capability stays enabled. -/
theorem enabled_relax (relaxes : Relaxes r r') (enabled : (resolveDescriptor d r).status = .enabled) :
    (resolveDescriptor d r').status = .enabled :=
  enabled_iff.mpr ((enabled_iff.mp enabled).relax relaxes)

end Resolve

section Steps

variable {panel : CapabilityPanel} {r r' : BuildCapabilitySnapshotInput} {uuidHex uuidHex' : String}
  {v : PlanValidator} {step : PlanStep} {loc : String} {descriptor : CapabilityDescriptor}

/-- An enabled capability makes its step kind available. -/
theorem available_of_enabled (uuidHex : String) (hd : descriptor ∈ panel.registry.listAll)
    (enabled : (resolveDescriptor descriptor r).status = .enabled) :
    descriptor.stepKind ∈ (buildSnapshot panel r uuidHex).availableStepKinds := by
  refine List.mem_map.mpr ⟨resolveDescriptor descriptor r, ?_, rfl⟩
  exact List.mem_filter.mpr ⟨List.mem_map_of_mem hd, decide_eq_true enabled⟩

/-- A declared capability without an error has no issue, and has none under the other request. -/
theorem declared_relax (uuidHex' : String) (relaxes : Relaxes r r') {capabilityId : String}
    (clean : Clean (declaredCapabilityIssues step loc
      (buildSnapshotIndex (buildSnapshot panel r uuidHex)) capabilityId)) :
    declaredCapabilityIssues step loc (buildSnapshotIndex (buildSnapshot panel r uuidHex))
        capabilityId = [] ∧
      declaredCapabilityIssues step loc (buildSnapshotIndex (buildSnapshot panel r' uuidHex'))
        capabilityId = [] := by
  have descriptors : (buildSnapshotIndex (buildSnapshot panel r' uuidHex')).descriptorByCapabilityId =
      (buildSnapshotIndex (buildSnapshot panel r uuidHex)).descriptorByCapabilityId := rfl
  unfold declaredCapabilityIssues at clean ⊢
  dsimp only at clean ⊢
  rw [descriptors]
  split at clean
  · rename_i d a hd ha
    have enabled : a.status = .enabled := by simpa using clean_issuesIf rfl clean
    obtain ⟨mem, hid⟩ := (availabilityByCapabilityId_iff panel r uuidHex _ _).mp ha
    obtain ⟨d', listed, rfl⟩ := List.mem_map.mp mem
    have relaxed := enabled_relax relaxes enabled
    have found : (buildSnapshotIndex
        (buildSnapshot panel r' uuidHex')).availabilityByCapabilityId.get capabilityId =
          some (resolveDescriptor d' r') :=
      (availabilityByCapabilityId_iff panel r' uuidHex' _ _).mpr
        ⟨List.mem_map_of_mem listed, hid⟩
    constructor
    · simp [enabled, issuesIf]
    · simp [hd, found, relaxed, issuesIf]
  · exact absurd rfl (clean _ List.mem_cons_self)

theorem required_relax (relaxes : Relaxes r r')
    (clean : Clean (validateRequiredCapabilities v step loc descriptor
      (buildSnapshotIndex (buildSnapshot panel r uuidHex)))) :
    validateRequiredCapabilities v step loc descriptor
        (buildSnapshotIndex (buildSnapshot panel r' uuidHex')) =
      validateRequiredCapabilities v step loc descriptor
        (buildSnapshotIndex (buildSnapshot panel r uuidHex)) := by
  unfold validateRequiredCapabilities at clean ⊢
  dsimp only at clean ⊢
  split at clean
  · rename_i undeclared
    rw [if_pos undeclared, if_pos undeclared]
  · rename_i declared
    rw [if_neg declared, if_neg declared]
    have each := clean_flatMap.mp (clean_append.mp clean).1
    have same : step.requiredCapabilities.flatMap (declaredCapabilityIssues step loc
          (buildSnapshotIndex (buildSnapshot panel r' uuidHex'))) =
        step.requiredCapabilities.flatMap (declaredCapabilityIssues step loc
          (buildSnapshotIndex (buildSnapshot panel r uuidHex))) := by
      refine List.flatMap_congr fun capabilityId hc => ?_
      obtain ⟨first, second⟩ := declared_relax uuidHex' relaxes (each capabilityId hc)
      rw [first, second]
    rw [same]

/-- A step without an error has the same issues under the other request. -/
theorem step_relax (strict : v.allowDeprecatedCapability = false) (relaxes : Relaxes r r')
    {idx : ℕ} {issues : List ValidationIssue}
    (checked : validateStepAgainstCapabilitySnapshot v step idx
      (buildSnapshotIndex (buildSnapshot panel r uuidHex)) = .ok issues) (clean : Clean issues) :
    validateStepAgainstCapabilitySnapshot v step idx
      (buildSnapshotIndex (buildSnapshot panel r' uuidHex')) = .ok issues := by
  unfold validateStepAgainstCapabilitySnapshot at checked ⊢
  dsimp only at checked ⊢
  have descriptors : (buildSnapshotIndex (buildSnapshot panel r' uuidHex')).descriptorByStepKind =
      (buildSnapshotIndex (buildSnapshot panel r uuidHex)).descriptorByStepKind := rfl
  rw [descriptors]
  cases hd : (buildSnapshotIndex (buildSnapshot panel r uuidHex)).descriptorByStepKind.get
      step.kind with
  | none =>
    simp only [hd] at checked
    split at checked <;> cases checked <;> exact absurd rfl (clean _ List.mem_cons_self)
  | some descriptor =>
    obtain ⟨listed, kind⟩ := (descriptorByStepKind_iff panel r uuidHex _ _).mp hd
    have ha := availabilityByStepKind_of_descriptor panel r uuidHex listed kind
    have ha' := availabilityByStepKind_of_descriptor panel r' uuidHex' listed kind
    simp only [hd, ha] at checked
    simp only [ha']
    split at checked
    · -- a capability that is not enabled is an error where no deprecated one is let through
      cases checked
      have severity := clean _ List.mem_cons_self
      simp [issueForUnavailableCapability, strict] at severity
    · rename_i usable
      simp only [Bool.or_eq_true, not_or, decide_eq_true_eq, not_not] at usable
      have enabled := enabled_relax relaxes usable.2
      have available : step.kind ∈
          (buildSnapshotIndex (buildSnapshot panel r' uuidHex')).enabledStepKinds :=
        kind ▸ available_of_enabled uuidHex' listed enabled
      have usable' : ¬ ((!(buildSnapshotIndex
          (buildSnapshot panel r' uuidHex')).enabledStepKinds.contains step.kind ||
            decide ((resolveDescriptor descriptor r').status ≠ .enabled)) = true) := by
        simpa [enabled] using available
      rw [if_neg usable']
      obtain ⟨-, required⟩ := inputsValid_of_clean checked clean
      unfold validateEnabledStep at checked ⊢
      rw [required_relax relaxes required]
      exact checked

end Steps

section Plans

/-- What a completed sweep found is found by a function that agrees on the way. -/
theorem collect_agree {α β : Type} {f g : α → Except PyExc (List β)} {xs : List α}
    {zs all : List β} (done : collect f xs = .ok zs) (sub : zs ⊆ all)
    (agree : ∀ x ∈ xs, ∀ ys, f x = .ok ys → ys ⊆ all → g x = .ok ys) :
    collect g xs = .ok zs := by
  induction xs generalizing zs with
  | nil => exact done
  | cons x xs ih =>
    obtain ⟨ys, ys', hx, hxs, rfl⟩ := collect_cons_eq_ok.mp done
    have first := agree x List.mem_cons_self ys hx
      (fun i hi => sub (List.mem_append_left _ hi))
    have rest := ih hxs (fun i hi => sub (List.mem_append_right _ hi))
      (fun y hy => agree y (List.mem_cons_of_mem x hy))
    exact collect_cons_eq_ok.mpr ⟨ys, ys', first, rest, rfl⟩

variable {panel : CapabilityPanel} {r r' : BuildCapabilitySnapshotInput} {uuidHex uuidHex' : String}
  {v : PlanValidator}

/-- The validator has nothing to say about the digest of a plan made for a panel's snapshot. -/
theorem digestIssues_finalize (draft : ExecutionPlanDraft) :
    digestIssues v (planMetadata draft (some (buildSnapshot panel r uuidHex)) {})
      (some (buildSnapshot panel r uuidHex)) = [] := by
  have own : validateCapabilityDigest v (planMetadata draft (some (buildSnapshot panel r uuidHex)) {})
      (buildSnapshot panel r uuidHex) = [] ↔ _ := validateCapabilityDigest_eq_nil_iff ?_
  · refine own.mpr ?_
    intro empty
    have text := congrArg String.toList empty
    simp [buildSnapshot, sha256Digest] at text
  · rw [get_capabilityDigest]
    rfl

theorem passed_finalize_iff {draft : ExecutionPlanDraft} {snapshot : Option CapabilitySnapshot}
    {options : FinalizeOptions} {planId : String} {createdAt : ℤ} {issues : List ValidationIssue} :
    Passed v (finalize draft snapshot options planId createdAt) snapshot issues ↔
      draft.steps ≠ [] ∧
        planIssues v draft.steps (planMetadata draft snapshot options) snapshot = .ok issues ∧
        Clean issues ∧ (v.failOnWarning = true → ∀ i ∈ issues, i.severity ≠ .warning) :=
  ⟨fun h => ⟨h.nonempty, h.computed, h.clean, h.noWarning⟩,
    fun ⟨nonempty, computed, clean, noWarning⟩ => ⟨nonempty, computed, clean, noWarning⟩⟩

theorem passes_relax (strict : v.allowDeprecatedCapability = false) (relaxes : Relaxes r r')
    (draft : ExecutionPlanDraft) {planId planId' : String} {createdAt createdAt' : ℤ}
    (passes : Passes v (finalize draft (some (buildSnapshot panel r uuidHex)) {} planId createdAt)
      (some (buildSnapshot panel r uuidHex))) :
    Passes v (finalize draft (some (buildSnapshot panel r' uuidHex')) {} planId' createdAt')
      (some (buildSnapshot panel r' uuidHex')) := by
  obtain ⟨issues, passed⟩ := passes_iff.mp passes
  obtain ⟨nonempty, computed, cleanAll, noWarning⟩ := passed_finalize_iff.mp passed
  refine passes_iff.mpr ⟨issues, passed_finalize_iff.mpr ⟨nonempty, ?_, cleanAll, noWarning⟩⟩
  obtain ⟨perStep, swept, rfl⟩ := planIssues_eq_ok_iff.mp computed
  have clean : Clean perStep := (clean_append.mp cleanAll).2
  refine planIssues_eq_ok_iff.mpr ⟨perStep, ?_, by rw [digestIssues_finalize, digestIssues_finalize]⟩
  refine collect_agree swept (List.Subset.refl perStep) fun step _ ys found sub => ?_
  obtain ⟨own, checked, rfl⟩ := stepIssues_eq_ok_iff.mp found
  have ownClean : Clean own := (clean_append.mp (clean.subset sub)).2
  have same : capabilityIssues v (some (buildSnapshot panel r' uuidHex')) step.1 step.2 = .ok own :=
    step_relax strict relaxes checked ownClean
  exact stepIssues_eq_ok_iff.mpr ⟨own, same, rfl⟩

end Plans

/-- **Monotone admission.** Under a request that allows more, every enabled capability stays
enabled, and every draft whose plan passes still passes. -/
theorem admission_monotone (panel : CapabilityPanel) (v : PlanValidator)
    (strict : v.allowDeprecatedCapability = false) (r r' : BuildCapabilitySnapshotInput)
    (relaxes : Relaxes r r') (uuidHex uuidHex' : String) :
    (∀ d ∈ panel.registry.listAll, (resolveDescriptor d r).status = .enabled →
      (resolveDescriptor d r').status = .enabled) ∧
    ∀ draft planId planId' createdAt createdAt',
      Passes v (finalize draft (some (buildSnapshot panel r uuidHex)) {} planId createdAt)
        (some (buildSnapshot panel r uuidHex)) →
      Passes v (finalize draft (some (buildSnapshot panel r' uuidHex')) {} planId' createdAt')
        (some (buildSnapshot panel r' uuidHex')) := by
  constructor
  · intro d _ enabled
    exact enabled_relax relaxes enabled
  · intro draft planId planId' createdAt createdAt' passes
    exact passes_relax strict relaxes draft passes

section Example

def commandDraft : ExecutionPlanDraft where
  taskId := "task_1"
  taskType := "sdk_deploy"
  goal := "validate capability-aware plan"
  plannerName := "test"
  plannerVersion := "v1"
  planSummary := "run command"
  steps := [commandStep]

/-- A request that offers a context key and allows more risk. -/
def widerRequest : BuildCapabilitySnapshotInput where
  availableContextKeys := ["command_controller"]
  maxRiskLevel := .high

theorem relaxes_wider : Relaxes {} widerRequest where
  context := by decide
  risk := by decide
  placeholder := nofun
  deprecated := nofun
  forbidden := by decide
  flags := nofun

/-- The plan that runs a command passes under the wider request, since it does under the other. -/
theorem admission_monotone_wider :
    Passes {} (finalize commandDraft (some (buildSnapshot (commandPanel false) widerRequest "1")) {}
      "plan_2" 1) (some (buildSnapshot (commandPanel false) widerRequest "1")) :=
  (admission_monotone (commandPanel false) {} rfl {} widerRequest relaxes_wider "0" "1").2
    commandDraft "plan_1" "plan_2" 0 1 ⟨0, _, rfl, rfl⟩

end Example

end SthBoring.Plan.AdmissionMonotone
