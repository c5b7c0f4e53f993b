/- Module: SthBoring/Capability/PanelOutput
   source: sdk_test_agent/capability/capability_panel.py, capability_registry.py,
     capability_validator.py
   digest: What the panel builds passes the checks, also once it is dumped and rebuilt. -/

import SthBoring.Capability.CapabilityValidator
import SthBoring.Capability.ModelRebuild

set_option autoImplicit false
set_option relaxedAutoImplicit false

namespace SthBoring.Capability.PanelOutput

open SthBoring.Lib.OrderedDict (PyDict)
open SthBoring.Lib.PyValue (Value Fields PyFloat)
open SthBoring.Lib.JsonValue
open SthBoring.Lib.Dataclasses
open SthBoring.Capability.CapabilityModels
open SthBoring.Capability.ModelValidation
open SthBoring.Capability.Panel
open SthBoring.Capability.TraceModels
open SthBoring.Capability.ModelRebuild
open SthBoring.Capability.CapabilityValidator

section Registrations

/-- A call of `register`; one that raises leaves the registry as it was. -/
def registerCall (r : CapabilityRegistry) (descriptor : CapabilityDescriptor) :
    CapabilityRegistry :=
  match r.register descriptor with
  | .ok r' => r'
  | .error _ => r

/-- The registry that a sequence of calls leads to. -/
def registerAll (calls : List CapabilityDescriptor) : CapabilityRegistry :=
  calls.foldl registerCall .empty

theorem listAll_registerCall (r : CapabilityRegistry) (d : CapabilityDescriptor) :
    (registerCall r d).listAll = r.listAll ∨ (registerCall r d).listAll = r.listAll ++ [d] := by
  unfold registerCall CapabilityRegistry.register
  by_cases newId : d.capabilityId ∉ r.byId.keys
  · rw [dif_pos newId]
    by_cases newKind : d.stepKind ∉ r.byStepKind.keys
    · rw [dif_pos newKind]
      exact Or.inr (PyDict.values_set_of_notMem _ _ newId)
    · rw [dif_neg newKind]
      exact Or.inl rfl
  · rw [dif_neg newId]
    exact Or.inl rfl

/-- Only descriptors that were registered are listed. -/
theorem mem_of_listAll {calls : List CapabilityDescriptor} {d : CapabilityDescriptor}
    (listed : d ∈ (registerAll calls).listAll) : d ∈ calls := by
  induction calls using List.reverseRecOn with
  | nil => cases listed
  | append_singleton calls last ih =>
    rw [registerAll, List.foldl_append] at listed
    rcases listAll_registerCall (registerAll calls) last with same | grown
    · exact List.mem_append_left _ (ih (same ▸ listed))
    · have listed' : d ∈ (registerAll calls).listAll ++ [last] := grown ▸ listed
      rcases List.mem_append.mp listed' with old | new
      · exact List.mem_append_left _ (ih old)
      · exact List.mem_append_right _ new

end Registrations

section Checks

theorem errorUnless_of_true {holds : Bool} (h : holds = true) (location message : String) :
    errorUnless holds location message = [] := by
  rw [errorUnless, if_pos h]

def Clean : CapabilityValidationResult := ⟨true, []⟩

variable (panel : CapabilityPanel) (request : BuildCapabilitySnapshotInput)
  (snapshotHex recordHex : String) (createdAt : PyFloat)

theorem validateSnapshot_of {sha256Hex : ByteArray → String} {s : CapabilitySnapshot}
    (available : s.availableStepKinds =
      (s.availability.filter (fun a => a.status = .enabled)).map (·.stepKind))
    (unavailable : s.unavailableStepKinds =
      (s.availability.filter (fun a => a.status ≠ .enabled)).map (·.stepKind))
    (digest : recomputeDigest sha256Hex s = s.capabilityDigest) :
    validateSnapshot sha256Hex s = Clean := by
  simp only [validateSnapshot, available, unavailable, digest, decide_true,
    errorUnless_of_true rfl, List.append_nil]
  rfl

theorem validateSnapshot_buildSnapshot :
    validateSnapshot panel.sha256Hex (buildSnapshot panel request snapshotHex) = Clean :=
  validateSnapshot_of rfl rfl rfl

theorem status_text_inj {s t : CapabilityStatus} : s.text = t.text ↔ s = t := by
  cases s <;> cases t <;> decide

theorem status_known (s : CapabilityStatus) : s.text ∈ statusTexts := by
  cases s <;> decide

variable {availability : List CapabilityAvailability}

/-- The records of availabilities, as `model_dump` has them. -/
def recordsOf (availability : List CapabilityAvailability) : List Fields :=
  availability.map fun a => modelDump (availabilityObj a)

theorem statusText_modelDump (a : CapabilityAvailability) :
    statusText (modelDump (availabilityObj a)) = a.status.text := rfl

theorem idsUnder_recordsOf (status : CapabilityStatus) :
    idsUnder (recordsOf availability) status =
      ((availability.filter fun a => a.status = status).map (·.capabilityId)).map .str := by
  rw [idsUnder, recordsOf, List.filter_map, List.map_map, List.map_map]
  have same : (fun a : Fields => decide (statusText a = status.text)) ∘
      (fun a => modelDump (availabilityObj a)) = fun a => decide (a.status = status) := by
    ext a
    simp [statusText_modelDump, status_text_inj]
  rw [same]
  rfl

theorem known_recordsOf : ((recordsOf availability).map statusText).find?
    (fun s => !statusTexts.contains s) = none := by
  refine List.find?_eq_none.mpr fun s hs => ?_
  obtain ⟨record, hr, rfl⟩ := List.mem_map.mp hs
  obtain ⟨a, -, rfl⟩ := List.mem_map.mp hr
  rw [statusText_modelDump]
  simpa using status_known a.status

theorem unlike_texts (names : List String) : unlike (names.map .str) = none := by
  induction names with
  | nil => rfl
  | cons s names ih =>
    cases names with
    | nil => rfl
    | cons t names => exact ih

theorem pyEqList_self {vs : List Value} (all : ∀ v ∈ vs, ∃ s, v = .str s) :
    Value.pyEqList vs vs = true := by
  induction vs with
  | nil => rfl
  | cons v vs ih =>
    obtain ⟨s, rfl⟩ := all v List.mem_cons_self
    have rest := ih fun w hw => all w (List.mem_cons_of_mem _ hw)
    simp [Value.pyEqList, Value.pyEq, rest]

/-- Ids gathered from the same availabilities are consistent with their records. -/
theorem consistencyIssues_eq (location : String) (status : CapabilityStatus) :
    consistencyIssues (recordsOf availability) location
      ((availability.filter fun a => a.status = status).map (·.capabilityId)) status = .ok [] := by
  unfold consistencyIssues
  rw [idsUnder_recordsOf]
  simp only [sortedIds, unlike_texts, bind, Except.bind, pure, Except.pure]
  rw [errorUnless_of_true (pyEqList_self fun v hv => ?_)]
  obtain ⟨s, -, same⟩ := List.mem_map.mp ((List.mem_insertionSort _).mp hv)
  exact ⟨s, same.symm⟩

/-- The record of a snapshot is consistent with it, whatever else either of them holds. -/
theorem validateResolutionRecord_of {record : CapabilityResolutionRecord} {s : CapabilitySnapshot}
    (records : record.availabilityRecords = recordsOf s.availability)
    (enabled : record.enabledCapabilityIds = idsByStatus s .enabled)
    (disabled : record.disabledCapabilityIds = idsByStatus s .disabled)
    (unavailable : record.unavailableCapabilityIds = idsByStatus s .unavailable)
    (placeholder : record.placeholderCapabilityIds = idsByStatus s .placeholder)
    (deprecated : record.deprecatedCapabilityIds = idsByStatus s .deprecated)
    (id : record.outputSnapshotId = s.snapshotId)
    (digest : record.outputCapabilityDigest = s.capabilityDigest) :
    validateResolutionRecord record (some s) = .ok Clean := by
  have consistent (location : String) (status : CapabilityStatus) :
      consistencyIssues (recordsOf s.availability) location (idsByStatus s status) status =
        .ok [] := consistencyIssues_eq location status
  have linked : linkIssues record (some s) = [] := by
    rw [linkIssues, errorUnless_of_true (by simpa using id),
      errorUnless_of_true (by simpa using digest)]
    rfl
  simp only [validateResolutionRecord, records, known_recordsOf, enabled, disabled, unavailable,
    placeholder, deprecated, consistent, linked, bind, Except.bind, pure, Except.pure]
  rfl

end Checks

/-- The two objects pass their checks, and the available and the unavailable step kinds share out
the registered ones. -/
structure Sound (sha256Hex : ByteArray → String) (kinds : List String) (s : CapabilitySnapshot)
    (r : CapabilityResolutionRecord) : Prop where
  snapshot : validateSnapshot sha256Hex s = Clean
  record : validateResolutionRecord r (some s) = .ok Clean
  partition : (s.availableStepKinds ++ s.unavailableStepKinds).Perm kinds
  distinct : (s.availableStepKinds ++ s.unavailableStepKinds).Nodup

section Output

variable (panel : CapabilityPanel) (request : BuildCapabilitySnapshotInput)
  (snapshotHex recordHex : String) (createdAt : PyFloat)

theorem perm_stepKinds :
    ((buildSnapshot panel request snapshotHex).availableStepKinds ++
      (buildSnapshot panel request snapshotHex).unavailableStepKinds).Perm
        panel.registry.availableStepKinds := by
  have kinds : panel.registry.availableStepKinds =
      (panel.registry.listAll.map fun d => resolveDescriptor d request).map (·.stepKind) := by
    rw [CapabilityRegistry.availableStepKinds, panel.registry.kindKeys, panel.registry.same,
      List.map_map]
    rfl
  have split := List.filter_append_perm
    (fun a : CapabilityAvailability => decide (a.status = .enabled))
    (panel.registry.listAll.map fun d => resolveDescriptor d request)
  have negated : (fun a : CapabilityAvailability => !decide (a.status = .enabled)) =
      fun a => decide (a.status ≠ .enabled) := by
    ext a
    simp
  rw [negated] at split
  have mapped := split.map (·.stepKind)
  rw [List.map_append, ← kinds] at mapped
  exact mapped

theorem nodup_availableStepKinds (r : CapabilityRegistry) : r.availableStepKinds.Nodup :=
  r.byStepKind.nodup

theorem sound_of_perm {sha256Hex : ByteArray → String} {kinds : List String}
    {s : CapabilitySnapshot} {r : CapabilityResolutionRecord} (nodup : kinds.Nodup)
    (snapshot : validateSnapshot sha256Hex s = Clean)
    (record : validateResolutionRecord r (some s) = .ok Clean)
    (partition : (s.availableStepKinds ++ s.unavailableStepKinds).Perm kinds) :
    Sound sha256Hex kinds s r :=
  ⟨snapshot, record, partition, partition.nodup_iff.mpr nodup⟩

/-- The digest looks at nothing of a descriptor that a dump changes. -/
theorem descriptorDigestPayload_dumped {d : CapabilityDescriptor}
    (input : IsJson d.inputSchema) (output : IsJson d.outputSchema) :
    descriptorDigestPayload (dumpedDescriptor d) = descriptorDigestPayload d := by
  simp only [descriptorDigestPayload, dumpedDescriptor, plain_of_isJson _ input,
    plain_of_isJson _ output]

theorem digestPayload_dumped {s : CapabilitySnapshot}
    (json : ∀ d ∈ s.capabilities, IsJson d.inputSchema ∧ IsJson d.outputSchema) :
    digestPayload (dumpedSnapshot s).capabilities s.availability s.availableStepKinds
        s.unavailableStepKinds =
      digestPayload s.capabilities s.availability s.availableStepKinds s.unavailableStepKinds := by
  have same : (dumpedSnapshot s).capabilities.map descriptorDigestPayload =
      s.capabilities.map descriptorDigestPayload := by
    rw [dumpedSnapshot, List.map_map]
    exact List.map_congr_left fun d hd => descriptorDigestPayload_dumped (json d hd).1 (json d hd).2
  rw [digestPayload, digestPayload, same]

theorem map_dumpFields_recordsOf (availability : List CapabilityAvailability) :
    (recordsOf availability).map dumpFields = recordsOf availability := by
  rw [recordsOf, List.map_map]
  refine List.map_congr_left fun a _ => ?_
  exact plainFields_plainFields _

/-- Whatever was registered, the panel's snapshot and record pass their checks, and they do so
again when they come back from their dumps. -/
theorem panel_output_valid {calls : List CapabilityDescriptor}
    (wellTyped : ∀ d ∈ calls, WellTyped d)
    (json : ∀ d ∈ calls, IsJson d.inputSchema ∧ IsJson d.outputSchema)
    (sha256Hex : ByteArray → String) :
    let registry := registerAll calls
    let built :=
      buildSnapshotAndRecord ⟨registry, sha256Hex⟩ request snapshotHex recordHex createdAt
    Sound sha256Hex registry.availableStepKinds built.1 built.2 ∧
      ∃ s r, rebuild capabilitySnapshot (snapshotObj built.1) = .ok (snapshotObj s) ∧
        rebuild capabilityResolutionRecord (recordObj built.2) = .ok (recordObj r) ∧
        Sound sha256Hex registry.availableStepKinds s r := by
  intro registry built
  have nodup := nodup_availableStepKinds registry
  have partition := perm_stepKinds ⟨registry, sha256Hex⟩ request snapshotHex
  have listed : ∀ d ∈ built.1.capabilities, d ∈ calls := fun d hd => mem_of_listAll hd
  have snapshot : validateSnapshot sha256Hex built.1 = Clean :=
    validateSnapshot_buildSnapshot ⟨registry, sha256Hex⟩ request snapshotHex
  have record : validateResolutionRecord built.2 (some built.1) = .ok Clean :=
    validateResolutionRecord_of rfl rfl rfl rfl rfl rfl rfl rfl
  refine ⟨sound_of_perm nodup snapshot record partition, dumpedSnapshot built.1,
    dumpedRecord built.2, rebuild_snapshot fun d hd => wellTyped d (listed d hd),
    rebuild_record rfl, ?_⟩
  have digest : recomputeDigest sha256Hex (dumpedSnapshot built.1) =
      (dumpedSnapshot built.1).capabilityDigest :=
    congrArg (sha256Digest sha256Hex) (digestPayload_dumped fun d hd => json d (listed d hd))
  have records : (dumpedRecord built.2).availabilityRecords =
      recordsOf (dumpedSnapshot built.1).availability :=
    map_dumpFields_recordsOf built.1.availability
  exact sound_of_perm nodup (validateSnapshot_of rfl rfl digest)
    (validateResolutionRecord_of records rfl rfl rfl rfl rfl rfl rfl) partition

/-- A capability with a schema. -/
def probeCapability : CapabilityDescriptor where
  capabilityId := "cap.execute_probe.v1"
  version := "v1"
  stepKind := "execute_probe"
  ownerModule := "env_inspector"
  name := "probe"
  description := "Execute a probe."
  inputSchema := .dict [("type", .str "object")]

theorem panel_output_valid_twice :
    let registry := registerAll [probeCapability, probeCapability]
    let built := buildSnapshotAndRecord ⟨registry, fun bytes => toString bytes.size⟩ {} "00" "01"
      ⟨3 / 2, "1.5"⟩
    Sound (fun bytes => toString bytes.size) registry.availableStepKinds built.1 built.2 ∧
      ∃ s r, rebuild capabilitySnapshot (snapshotObj built.1) = .ok (snapshotObj s) ∧
        rebuild capabilityResolutionRecord (recordObj built.2) = .ok (recordObj r) ∧
        Sound (fun bytes => toString bytes.size) registry.availableStepKinds s r := by
  have only : ∀ d ∈ [probeCapability, probeCapability], d = probeCapability := by simp
  refine panel_output_valid {} "00" "01" ⟨3 / 2, "1.5"⟩ (fun d hd => ?_) (fun d hd => ?_) _
  · rw [only d hd]
    exact ⟨rfl, rfl, nofun⟩
  · rw [only d hd]
    exact ⟨⟨by decide, trivial, trivial⟩, ⟨by decide, trivial⟩⟩

end Output

end SthBoring.Capability.PanelOutput
