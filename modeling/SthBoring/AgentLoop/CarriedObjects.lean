/- Module: SthBoring/AgentLoop/CarriedObjects
   source: sdk_test_agent/agent_loop/nodes.py
   digest: Drafts, plans and snapshots come through the loop's dict as they were. -/

import SthBoring.AgentLoop.StateNodes
import SthBoring.Capability.ModelRebuild
import SthBoring.Plan.AdmissionSoundness
import SthBoring.Plan.SnapshotReads

set_option autoImplicit false
set_option relaxedAutoImplicit false

namespace SthBoring.AgentLoop.CarriedObjects

open SthBoring.Lib.OrderedDict (PyDict)
open SthBoring.Lib.PyValue (Value Fields PyExc bind_eq_ok collect_complete)
open SthBoring.Lib.PyJson (Format dumpsStrict unserializable)
open SthBoring.Lib.JsonValue
open SthBoring.Lib.Dataclasses
open SthBoring.Capability.CapabilityModels
open SthBoring.Capability.ModelRebuild
open SthBoring.Capability.Panel
open SthBoring.Capability.ModelValidation (dumpValue)
open SthBoring.Capability.SchemaRenderers
open SthBoring.Capability.SnapshotObjects
open SthBoring.Capability.TraceModels
open SthBoring.Plan.AdmissionSoundness (availabilityByCapabilityId_iff)
open SthBoring.Plan.Models
open SthBoring.Plan.PlanFinalizer
open SthBoring.Plan.PlanObjects
open SthBoring.Plan.PlanValidation
open SthBoring.Plan.SnapshotReads
open SthBoring.AgentLoop.StateNodes

section Steps

/-- The inputs and the metadata of a step are JSON. -/
structure StepJson (s : PlanStep) : Prop where
  inputs : IsJson (.dict s.inputs)
  metadata : IsJson (.dict s.metadata)

@[simp] theorem plain_optionalInt (n : Option ℤ) : plain (optionalInt n) = optionalInt n := by
  cases n <;> rfl

theorem plain_dict {es : Fields} (json : IsJson (.dict es)) : plain (.dict es) = .dict es :=
  plain_of_isJson _ json

theorem plain_stepObj {s : PlanStep} (json : StepJson s) :
    ∃ attributes, stepObj s = .obj "PlanStep" attributes ∧
      attributes.map Prod.fst = planStep.names ∧ plain (stepObj s) = .dict attributes := by
  refine ⟨_, rfl, rfl, ?_⟩
  rw [stepObj, plain]
  simp only [plainFields, plain_texts, plain_optionalText, plain_optionalInt,
    plain_dict json.inputs, plain_dict json.metadata]
  simp only [plain]

/-- A step comes back from its dict. -/
theorem stepFromDict_plain {s : PlanStep} (json : StepJson s) :
    stepFromDict (plain (stepObj s)) = .ok (stepObj s) := by
  obtain ⟨attributes, own, named, dumped⟩ := plain_stepObj json
  rw [dumped, own]
  exact DataClass.construct_eq (c := planStep) (by decide) named

theorem stepsFromDicts_plain {steps : List PlanStep} (json : ∀ s ∈ steps, StepJson s) :
    (steps.map fun s => plain (stepObj s)).mapM stepFromDict = .ok (steps.map stepObj) := by
  induction steps with
  | nil => rfl
  | cons s steps ih =>
    have first := stepFromDict_plain (json s List.mem_cons_self)
    have rest := ih fun t ht => json t (List.mem_cons_of_mem s ht)
    simp only [List.map_cons, List.mapM_cons, first, rest, bind, Except.bind, pure, Except.pure]

theorem rebuildSteps_plain {steps : List PlanStep} (json : ∀ s ∈ steps, StepJson s) {data : Fields}
    (found : data.get "steps" = some (.list (steps.map fun s => plain (stepObj s)))) :
    rebuildSteps data = .ok (setField data "steps" (.list (steps.map stepObj))) := by
  simp only [rebuildSteps, found, Option.getD_some, Value.iter, stepsFromDicts_plain json, bind,
    Except.bind, pure, Except.pure]

end Steps

section Plans

/-- The inputs and the metadata of a draft are JSON. -/
structure DraftJson (d : ExecutionPlanDraft) : Prop where
  steps : ∀ s ∈ d.steps, StepJson s
  metadata : IsJson (.dict d.metadata)

/-- A draft comes back from its dict. -/
theorem draftFromDict_plain {d : ExecutionPlanDraft} (json : DraftJson d) :
    ∃ data, toJsonable (draftObj d) = .dict data ∧ draftFromDict data = .ok (draftObj d) := by
  refine ⟨_, rfl, ?_⟩
  simp only [plainFields, plain_texts, plain_optionalText, plain_dict json.metadata]
  simp only [plain, plainList_eq, List.map_map, Function.comp_def]
  rw [draftFromDict, rebuildSteps_plain json.steps rfl]
  simp only [bind, Except.bind]
  exact DataClass.construct_eq (by decide) (by rfl)

/-- A plan comes back from its dict. -/
theorem planFromDict_plain {p : ExecutionPlan} (steps : ∀ s ∈ p.steps, StepJson s)
    (constraints : IsJson (.dict p.globalConstraints)) (metadata : IsJson (.dict p.planMetadata)) :
    planFromDict (toJsonable (planObj p)) = .ok (planObj p) := by
  rw [toJsonable, planObj, plain]
  simp only [plainFields, plain_texts, plain_optionalText, plain_optionalInt,
    plain_dict constraints, plain_dict metadata]
  simp only [plain, plainList_eq, List.map_map, Function.comp_def]
  rw [planFromDict, rebuildSteps_plain steps rfl]
  simp only [bind, Except.bind]
  exact DataClass.construct_eq (by decide) (by rfl)

theorem isJson_planMetadata {d : ExecutionPlanDraft} (json : IsJson (.dict d.metadata))
    (snapshot : CapabilitySnapshot) :
    IsJson (.dict (planMetadata d (some snapshot) {})) := by
  have summary : IsJson (optionalText d.rawLlmOutput) := by
    cases d.rawLlmOutput <;> trivial
  have names : (planMetadata d (some snapshot) {}).map Prod.fst = ["plan_summary", "draft_metadata",
      "raw_llm_output", "capability_snapshot_id", "capability_digest"] := rfl
  exact ⟨names ▸ by decide, trivial, json, summary, trivial, trivial, trivial⟩

end Plans

section Snapshots

variable {s : CapabilitySnapshot}

/-- The validator sees no difference when the instances inside a snapshot's dicts are dicts, as long
as the schemas it looks at hold none. -/
theorem seen_dumpedSnapshot
    (serializable : ∀ d ∈ s.capabilities, d.stepKind ∈ s.availableStepKinds →
      unserializable d.inputSchema = none) :
    seen (dumpedSnapshot s) = seen s := by
  have capabilities : (dumpedSnapshot s).capabilities.map (seenDescriptor s.availableStepKinds) =
      s.capabilities.map (seenDescriptor s.availableStepKinds) := by
    rw [dumpedSnapshot, List.map_map]
    refine List.map_congr_left fun d hd => ?_
    by_cases enabled : d.stepKind ∈ s.availableStepKinds
    · have schema := plain_of_serializable _ (serializable d hd enabled)
      simp only [Function.comp_apply, seenDescriptor, dumpedDescriptor, dumpValue, schema]
    · simp [seenDescriptor, dumpedDescriptor, enabled]
  show { mapEntries (seenDescriptor s.availableStepKinds) seenAvailability (dumpedSnapshot s) with
    unavailableStepKinds := [], taskId := none, metadata := [] } = seen s
  rw [mapEntries, capabilities]
  rfl

/-- The nodes go by a snapshot that the validator cannot tell from the one that was built. -/
theorem snapshotFor_eq {runtime : StateRuntime} {state : Fields}
    (wellTyped : ∀ d ∈ s.capabilities, WellTyped d)
    (serializable : ∀ d ∈ s.capabilities, d.stepKind ∈ s.availableStepKinds →
      unserializable d.inputSchema = none)
    (given : ∀ own ∈ runtime.capabilitySnapshotObj, own = s)
    (carried : state.get "capability_snapshot" = some (.dict (modelDump (snapshotObj s)))) :
    ∃ s', snapshotFor runtime state = .ok (some s') ∧ seen s' = seen s := by
  cases own : runtime.capabilitySnapshotObj with
  | some s' =>
    refine ⟨s', by rw [snapshotFor, own], ?_⟩
    rw [given s' own]
  | none =>
    refine ⟨dumpedSnapshot s, ?_, seen_dumpedSnapshot serializable⟩
    have rebuilt : capabilitySnapshotFromDict (state.getD "capability_snapshot") =
        .ok (snapshotObj (dumpedSnapshot s)) := by
      rw [Fields.getD, carried]
      exact congrArg (Except.mapError validationError) (rebuild_snapshot wellTyped)
    have read : typed readSnapshot (snapshotObj (dumpedSnapshot s)) = .ok (dumpedSnapshot s) := by
      rw [typed, complete_snapshot]
    simp only [snapshotFor, own, rebuilt, bind, Except.bind]
    exact congrArg (Except.map some) read

end Snapshots

section Rendering

variable {panel : CapabilityPanel} {request : BuildCapabilitySnapshotInput} {uuidHex prompt : String}

theorem serializable_of_dumpsStrict {format : Format} {v : Value} {text : String}
    (dumped : dumpsStrict format v = .ok text) : unserializable v = none := by
  unfold dumpsStrict at dumped
  split at dumped
  · cases dumped
  · next none => exact none

/-- A prompt can only be written when JSON has a text for the schema of every capability that is
enabled. -/
theorem serializable_of_rendered
    (rendered : renderCapabilitiesForPrompt (buildSnapshot panel request uuidHex) = .ok prompt)
    {d : CapabilityDescriptor} (listed : d ∈ panel.registry.listAll)
    (available : d.stepKind ∈ (buildSnapshot panel request uuidHex).availableStepKinds) :
    unserializable d.inputSchema = none := by
  have enabled : (resolveDescriptor d request).status = .enabled := by
    obtain ⟨a, ha, sameKind⟩ := List.mem_map.mp available
    obtain ⟨resolved, isEnabled⟩ := List.mem_filter.mp ha
    obtain ⟨d', listed', rfl⟩ := List.mem_map.mp resolved
    obtain rfl : d' = d :=
      List.inj_on_of_nodup_map panel.registry.nodup_kinds listed' listed sameKind
    exact of_decide_eq_true isEnabled
  have availability : availabilityOf (buildSnapshot panel request uuidHex) d =
      .ok (resolveDescriptor d request) := by
    have found := (availabilityByCapabilityId_iff panel request uuidHex d.capabilityId
      (resolveDescriptor d request)).mpr ⟨List.mem_map_of_mem listed, rfl⟩
    change (PyDict.comprehension CapabilityAvailability.capabilityId
      (buildSnapshot panel request uuidHex).availability).get d.capabilityId = _ at found
    rw [availabilityOf, found]
  obtain ⟨shown, swept, rendered⟩ := bind_eq_ok.mp rendered
  obtain ⟨lines, rows, -⟩ := bind_eq_ok.mp rendered
  have mem : (d, resolveDescriptor d request) ∈ shown := by
    obtain ⟨own, hown, kept⟩ := collect_complete swept (x := d) listed
    simp only [availability, enabled, bind, Except.bind, pure, Except.pure, decide_true, if_true,
      Except.ok.injEq] at hown
    exact kept (hown ▸ List.mem_singleton_self _)
  obtain ⟨idx, inRow⟩ : ∃ idx, ((d, resolveDescriptor d request), idx) ∈ shown.zipIdx 1 := by
    obtain ⟨i, hi, at'⟩ := List.getElem_of_mem mem
    exact ⟨1 + i, List.mem_zipIdx_iff_le_and_getElem?_sub.mpr
      ⟨by omega, by simp [List.getElem?_eq_getElem hi, at']⟩⟩
  obtain ⟨own, written, -⟩ := collect_complete rows inRow
  obtain ⟨schema, dumped, -⟩ := bind_eq_ok.mp written
  exact serializable_of_dumpsStrict dumped

end Rendering

section Nodes

theorem validate_at (v : PlanValidator) (plan : ExecutionPlan) (s : Option CapabilitySnapshot)
    (checkedAt checkedAt' : ℤ) :
    validate v plan s checkedAt =
      (validate v plan s checkedAt').map fun result => { result with checkedAt := some checkedAt } := by
  unfold validate validateSteps
  split
  · rfl
  · cases planIssues v plan.steps plan.planMetadata s <;> rfl

variable {runtime : StateRuntime} {s : CapabilitySnapshot} {state : Fields}
  {draft : ExecutionPlanDraft} (planId : String) (createdAt checkedAt : ℤ)

/-- The plan that is finalized by way of the state. -/
theorem finalizeNode_eq {v : Value} (read : readDraft v = some draft) (json : DraftJson draft)
    (found : state.get "draft_plan" = some (toJsonable v)) {s' : CapabilitySnapshot}
    (snapshot : snapshotFor runtime state = .ok (some s')) :
    finalizeNode runtime planId createdAt state = .ok (merge state
      [("plan_id", .str planId),
        ("plan", toJsonable (planObj (finalize draft (some s') {} planId createdAt)))]) := by
  have own := sound_draft v draft read
  obtain ⟨data, carried, rebuilt⟩ := draftFromDict_plain json
  have here : subscript state "draft_plan" = .ok (.dict data) := by
    have found' : SthBoring.Lib.OrderedDict.assocGet "draft_plan" state = some (.dict data) := by
      rw [← carried, ← own]
      exact found
    simp only [subscript, Value.subscript, found']
  have typedDraft : typed readDraft (draftObj draft) = .ok draft := by
    rw [typed, ← own, read]
  have typedData : typed readDict (.dict data) = .ok data := rfl
  simp only [finalizeNode, here, typedData, rebuilt, snapshot, typedDraft, bind, Except.bind, pure,
    Except.pure]
  rfl

/-- A plan made of a draft that was read can be read. -/
theorem readPlan_finalize {v : Value} (read : readDraft v = some draft) :
    readPlan (planObj (finalize draft (some s) {} planId createdAt)) =
      some (finalize draft (some s) {} planId createdAt) :=
  readPlan_planObj (fun _ mem => readStep_of_mem read mem) rfl rfl

theorem planOf_eq {plan : ExecutionPlan} (steps : ∀ s ∈ plan.steps, StepJson s)
    (constraints : IsJson (.dict plan.globalConstraints))
    (metadata : IsJson (.dict plan.planMetadata))
    (found : state.get "plan" = some (toJsonable (planObj plan))) :
    planOf state = .ok (planObj plan) := by
  have here : subscript state "plan" = .ok (toJsonable (planObj plan)) := by
    have found' : SthBoring.Lib.OrderedDict.assocGet "plan" state =
        some (toJsonable (planObj plan)) := found
    simp only [subscript, Value.subscript, found']
  simp only [planOf, here, bind, Except.bind]
  exact planFromDict_plain steps constraints metadata

theorem validateNode_eq {plan : ExecutionPlan} (rebuilt : planOf state = .ok (planObj plan))
    (read : readPlan (planObj plan) = some plan) {s' : CapabilitySnapshot}
    (snapshot : snapshotFor runtime state = .ok (some s')) (same : seen s' = seen s) :
    validateNode runtime checkedAt state =
      (validate runtime.planValidator plan (some s) checkedAt).map fun result =>
        merge state [("validation_result", toJsonable (resultObj result))] := by
  have typedPlan : typed readPlan (planObj plan) = .ok plan := by
    rw [typed, read]
  have agree : validate runtime.planValidator plan (some s') checkedAt =
      validate runtime.planValidator plan (some s) checkedAt := by
    rw [← validate_seen, same, validate_seen]
  simp only [validateNode, rebuilt, snapshot, typedPlan, agree, bind, Except.bind, pure,
    Except.pure]
  cases validate runtime.planValidator plan (some s) checkedAt <;> rfl

end Nodes

section Carried

/-- **Carrying objects through the state.** Whatever is registered and asked for: a draft whose
inputs and metadata are JSON is finalized and validated by way of the loop's dict as it is on the
objects themselves, up to the id and the time of the plan and the time of the check. The plan that is
executed is the finalized one. -/
theorem carried_losslessly (panel : CapabilityPanel) (request : BuildCapabilitySnapshotInput)
    (uuidHex : String) (wellTyped : ∀ d ∈ panel.registry.listAll, WellTyped d)
    {state resolved : Fields}
    (resolves : capabilityResolveNode panel request uuidHex state = .ok resolved) {v : Value}
    {draft : ExecutionPlanDraft} (read : readDraft v = some draft) (draftJson : DraftJson draft)
    {runtime : StateRuntime}
    (given : ∀ own ∈ runtime.capabilitySnapshotObj, own = buildSnapshot panel request uuidHex)
    (planId planId' : String) (createdAt createdAt' checkedAt checkedAt' : ℤ) :
    let snapshot := buildSnapshot panel request uuidHex
    let direct := finalize draft (some snapshot) {} planId' createdAt'
    let plan := { direct with planId := planId, createdAt := some createdAt }
    ∃ finalized,
      finalizeNode runtime planId createdAt (planNode v resolved) = .ok finalized ∧
      planOf finalized = .ok (planObj plan) ∧
      validateNode runtime checkedAt finalized =
        ((validate runtime.planValidator direct (some snapshot) checkedAt').map fun result =>
          merge finalized [("validation_result",
            toJsonable (resultObj { result with checkedAt := some checkedAt }))]) ∧
      ∀ validated, validateNode runtime checkedAt finalized = .ok validated →
        planOf validated = .ok (planObj plan) := by
  intro snapshot direct plan
  obtain ⟨prompt, rendered, written⟩ := bind_eq_ok.mp resolves
  have carried : resolved.get "capability_snapshot" =
      some (.dict (modelDump (snapshotObj snapshot))) := by
    cases written
    simp [merge, get_setField]
    rfl
  have serializable : ∀ d ∈ snapshot.capabilities, d.stepKind ∈ snapshot.availableStepKinds →
      unserializable d.inputSchema = none := fun d hd => serializable_of_rendered rendered hd
  -- The plan is finalized from the dict of the draft.
  have atPlan : (planNode v resolved).get "capability_snapshot" =
      some (.dict (modelDump (snapshotObj snapshot))) := by
    simpa [planNode, merge, get_setField] using carried
  obtain ⟨s', found, same⟩ := snapshotFor_eq wellTyped serializable given atPlan
  have drafted : (planNode v resolved).get "draft_plan" = some (toJsonable v) := by
    simp [planNode, merge, get_setField]
  have finalized := finalizeNode_eq planId createdAt read draftJson drafted found
  have samePlan : finalize draft (some s') {} planId createdAt = plan := by
    have unseen : ∀ s, finalize draft (some (seen s)) {} planId createdAt =
        finalize draft (some s) {} planId createdAt := fun _ => rfl
    rw [← unseen s', same, unseen]
    rfl
  rw [samePlan] at finalized
  refine ⟨_, finalized, ?_⟩
  -- The plan is taken from the state twice, before and after it is validated.
  have steps : ∀ s ∈ plan.steps, StepJson s := draftJson.steps
  have constraints : IsJson (.dict plan.globalConstraints) := ⟨List.nodup_nil, trivial⟩
  have metadata : IsJson (.dict plan.planMetadata) := isJson_planMetadata draftJson.metadata snapshot
  have readPlan : readPlan (planObj plan) = some plan :=
    readPlan_finalize planId createdAt read
  generalize hstate : merge (planNode v resolved) [("plan_id", .str planId),
    ("plan", toJsonable (planObj plan))] = finalizedState
  have planned : finalizedState.get "plan" = some (toJsonable (planObj plan)) := by
    simp [← hstate, merge, get_setField]
  have atEnd : finalizedState.get "capability_snapshot" =
      some (.dict (modelDump (snapshotObj snapshot))) := by
    simpa [← hstate, merge, get_setField] using atPlan
  obtain ⟨s'', found', same'⟩ := snapshotFor_eq wellTyped serializable given atEnd
  have rebuilt := planOf_eq steps constraints metadata planned
  have validated := validateNode_eq checkedAt rebuilt readPlan found' same'
  refine ⟨rebuilt, ?_, fun after done => ?_⟩
  · rw [validated, validate_at _ _ _ checkedAt checkedAt']
    show Except.map _ (Except.map _ (validate _ direct _ _)) = Except.map _ (validate _ direct _ _)
    cases validate runtime.planValidator direct (some snapshot) checkedAt' <;> rfl
  · rw [validated] at done
    cases checked : validate runtime.planValidator plan (some snapshot) checkedAt with
    | error exc =>
      rw [checked] at done
      cases done
    | ok result =>
      rw [checked] at done
      cases done
      have kept : (merge finalizedState [("validation_result", toJsonable (resultObj result))]).get
          "plan" = some (toJsonable (planObj plan)) := by
        simpa [merge, get_setField] using planned
      exact planOf_eq steps constraints metadata kept

def runCommand : CapabilityDescriptor where
  capabilityId := "cap.run_command.v1"
  version := "v1"
  stepKind := "run_command"
  ownerModule := "cmdctrl"
  name := "run"
  description := "Run a command."
  inputSchema := .dict [("type", .str "object")]

/-- A registry of one capability. -/
def commandPanel : CapabilityPanel where
  registry :=
    { byId := ⟨[("cap.run_command.v1", runCommand)], List.nodup_singleton _⟩
      byStepKind := ⟨[("run_command", runCommand)], List.nodup_singleton _⟩
      same := rfl
      idKeys := rfl
      kindKeys := rfl }
  sha256Hex := fun bytes => toString bytes.size

theorem carried_losslessly_once :
    let snapshot := buildSnapshot commandPanel {} "00"
    let direct := finalize sampleDraft (some snapshot) {} "plan_2" 1
    let plan := { direct with planId := "plan_1", createdAt := some 0 }
    ∃ resolved, capabilityResolveNode commandPanel {} "00" [] = .ok resolved ∧ ∃ finalized,
      finalizeNode {} "plan_1" 0 (planNode (draftObj sampleDraft) resolved) = .ok finalized ∧
      planOf finalized = .ok (planObj plan) ∧
      validateNode {} 2 finalized = ((validate {} direct (some snapshot) 3).map fun result =>
        merge finalized [("validation_result",
          toJsonable (resultObj { result with checkedAt := some 2 }))]) ∧
      ∀ validated, validateNode {} 2 finalized = .ok validated →
        planOf validated = .ok (planObj plan) := by
  have resolves : capabilityResolveNode commandPanel {} "00" [] = .ok _ := rfl
  have json : DraftJson sampleDraft :=
    ⟨by simpa [sampleDraft] using ⟨⟨List.nodup_nil, trivial⟩, ⟨List.nodup_nil, trivial⟩⟩,
      ⟨List.nodup_nil, trivial⟩⟩
  exact ⟨_, resolves, carried_losslessly commandPanel {} "00"
    (fun d hd => by rw [List.mem_singleton.mp hd]; exact ⟨rfl, rfl, nofun⟩) resolves rfl json
    (fun own h => (Option.not_mem_none own h).elim) "plan_1" "plan_2" 0 1 2 3⟩

end Carried

end SthBoring.AgentLoop.CarriedObjects
