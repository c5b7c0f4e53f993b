/- Module: SthBoring/Plan/PlannerPrompt
   source: sdk_test_agent/capability/schema_renderers.py
   digest: Which capabilities the prompt of a planner shows. -/

import SthBoring.Lib.OrderedMoves
import SthBoring.Capability.Panel
import SthBoring.Capability.SchemaRenderers
import SthBoring.Plan.SnapshotReads

set_option autoImplicit false
set_option relaxedAutoImplicit false

namespace SthBoring.Plan.PlannerPrompt

open SthBoring.Lib.OrderedDict (PyDict)
open SthBoring.Lib.PyValue (PyExc collect)
open SthBoring.Capability.CapabilityModels
open SthBoring.Capability.Panel
open SthBoring.Capability.SchemaRenderers
open SthBoring.Plan.SnapshotReads (mapEntries)

/-- The capabilities under "Available capabilities", in their order. -/
def listedCapabilities (snapshot : CapabilitySnapshot) : Except PyExc (List CapabilityDescriptor) := do
  let enabled ← descriptorsWhere snapshot (fun a => a.status = .enabled)
  return enabled.map Prod.fst

/-- Every descriptor the planner must not see may have another id, description and schema. -/
structure Disguise (snapshot : CapabilitySnapshot) (f : CapabilityDescriptor → CapabilityDescriptor)
    (rename : String → String) : Prop where
  visible : ∀ d ∈ snapshot.capabilities, d.visibility = .plannerVisible → f d = d
  hidden : ∀ d ∈ snapshot.capabilities, f d =
    { d with capabilityId := (f d).capabilityId, description := (f d).description
             inputSchema := (f d).inputSchema }
  renamed : ∀ d ∈ snapshot.capabilities, (f d).capabilityId = rename d.capabilityId
  distinct : ((snapshot.capabilities.map f).map CapabilityDescriptor.capabilityId).Nodup

def disguised (f : CapabilityDescriptor → CapabilityDescriptor) (rename : String → String)
    (snapshot : CapabilitySnapshot) : CapabilitySnapshot :=
  mapEntries f (fun a => { a with capabilityId := rename a.capabilityId }) snapshot

/-- The prompt lists the capabilities that have a schema for the planner, and says nothing of the
others: it is the same whatever their ids, descriptions and schemas are. -/
structure ShowsUsable (snapshot : CapabilitySnapshot) (prompt : String) : Prop where
  kinds : (listedCapabilities snapshot).map (List.map CapabilityDescriptor.stepKind) =
    (renderInputSchemaMap snapshot).map PyDict.keys
  hidden : ∀ f rename, Disguise snapshot f rename →
    renderCapabilitiesForPrompt (disguised f rename snapshot) = .ok prompt

section Sweep

variable {snapshot : CapabilitySnapshot} {listed : List CapabilityDescriptor}
  {f : CapabilityDescriptor → CapabilityDescriptor}
  {found : CapabilityDescriptor → CapabilityAvailability}

/-- Where every capability has an availability, the sweep is a filter. -/
theorem descriptorsWhere_eq (capabilities : snapshot.capabilities = listed.map f)
    (each : ∀ d ∈ listed, availabilityOf snapshot (f d) = .ok (found d))
    (p : CapabilityAvailability → Bool) :
    descriptorsWhere snapshot p =
      .ok ((listed.filter (fun d => p (found d))).map fun d => (f d, found d)) := by
  have pieces : ∀ ds : List CapabilityDescriptor,
      (ds.map fun d => if p (found d) then [(f d, found d)] else []).flatten =
        (ds.filter (fun d => p (found d))).map fun d => (f d, found d) := by
    intro ds
    induction ds with
    | nil => rfl
    | cons d ds ih =>
      rw [List.map_cons, List.flatten_cons, ih, List.filter_cons]
      split <;> rfl
  have swept : ∀ ds : List CapabilityDescriptor, (∀ d ∈ ds, d ∈ listed) →
      collect (fun d => do
        let availability ← availabilityOf snapshot d
        return if p availability then [(d, availability)] else []) (ds.map f) =
      .ok (ds.map fun d => if p (found d) then [(f d, found d)] else []).flatten := by
    intro ds inside
    induction ds with
    | nil => rfl
    | cons d ds ih =>
      rw [List.map_cons, collect, each d (inside d List.mem_cons_self),
        ih fun d' hd' => inside d' (List.mem_cons_of_mem d hd')]
      rfl
  rw [descriptorsWhere, capabilities, swept listed fun _ mem => mem, pieces]

end Sweep

section Built

variable (panel : CapabilityPanel) (request : BuildCapabilitySnapshotInput) (uuidHex : String)

/-- Every capability of a new snapshot has its own availability, also in disguise. -/
theorem availabilityOf_disguised {f : CapabilityDescriptor → CapabilityDescriptor}
    {rename : String → String} (disguise : Disguise (buildSnapshot panel request uuidHex) f rename)
    {d : CapabilityDescriptor} (mem : d ∈ panel.registry.listAll) :
    availabilityOf (disguised f rename (buildSnapshot panel request uuidHex)) (f d) =
      .ok { resolveDescriptor d request with capabilityId := rename d.capabilityId } := by
  have entries : (disguised f rename (buildSnapshot panel request uuidHex)).availability =
      panel.registry.listAll.map fun d =>
        { resolveDescriptor d request with capabilityId := rename d.capabilityId } := by
    rw [disguised, mapEntries, buildSnapshot_availability, List.map_map]
    rfl
  have nodup : ((disguised f rename (buildSnapshot panel request uuidHex)).availability.map
      CapabilityAvailability.capabilityId).Nodup := by
    have distinct := disguise.distinct
    rw [buildSnapshot_capabilities, List.map_map] at distinct
    have same : panel.registry.listAll.map (CapabilityDescriptor.capabilityId ∘ f) =
        panel.registry.listAll.map fun d => rename d.capabilityId :=
      List.map_congr_left fun d hd => disguise.renamed d hd
    rw [entries, List.map_map]
    exact same ▸ distinct
  have found := (PyDict.get_comprehension CapabilityAvailability.capabilityId nodup
    (f d).capabilityId { resolveDescriptor d request with capabilityId := rename d.capabilityId }).mpr
      ⟨entries ▸ List.mem_map_of_mem mem, (disguise.renamed d mem).symm⟩
  rw [availabilityOf, found]

theorem disguise_id : Disguise (buildSnapshot panel request uuidHex) id id where
  visible _ _ _ := rfl
  hidden _ _ := rfl
  renamed _ _ := rfl
  distinct := by
    rw [buildSnapshot_capabilities, List.map_id]
    exact panel.registry.nodup_ids

theorem availabilityOf_built {d : CapabilityDescriptor} (mem : d ∈ panel.registry.listAll) :
    availabilityOf (buildSnapshot panel request uuidHex) d = .ok (resolveDescriptor d request) := by
  have same := availabilityOf_disguised panel request uuidHex (disguise_id panel request uuidHex) mem
  have undisguised : disguised id id (buildSnapshot panel request uuidHex) =
      buildSnapshot panel request uuidHex := by
    rw [disguised, mapEntries, List.map_id]
    have entries : (buildSnapshot panel request uuidHex).availability.map
        (fun a => { a with capabilityId := id a.capabilityId }) =
          (buildSnapshot panel request uuidHex).availability := List.map_id _
    rw [entries]
  rw [undisguised] at same
  exact same

/-- The capabilities a request enables. -/
def enabledCapabilities (panel : CapabilityPanel) (request : BuildCapabilitySnapshotInput) :
    List CapabilityDescriptor :=
  panel.registry.listAll.filter (fun d => (resolveDescriptor d request).status = .enabled)

theorem descriptorsWhere_built (p : CapabilityAvailability → Bool) :
    descriptorsWhere (buildSnapshot panel request uuidHex) p =
      .ok ((panel.registry.listAll.filter (fun d => p (resolveDescriptor d request))).map fun d =>
        (d, resolveDescriptor d request)) :=
  descriptorsWhere_eq (f := id) (List.map_id _).symm
    (fun _ mem => availabilityOf_built panel request uuidHex mem) p

theorem listedCapabilities_built :
    listedCapabilities (buildSnapshot panel request uuidHex) =
      .ok (enabledCapabilities panel request) := by
  rw [listedCapabilities, descriptorsWhere_built]
  change Except.ok _ = _
  rw [List.map_map]
  exact congrArg Except.ok (List.map_id _)

/-- The planner's context names the step kinds that are listed. -/
theorem listed_eq_availableStepKinds :
    (listedCapabilities (buildSnapshot panel request uuidHex)).map
        (List.map CapabilityDescriptor.stepKind) =
      .ok (buildSnapshot panel request uuidHex).availableStepKinds := by
  rw [listedCapabilities_built]
  change Except.ok _ = Except.ok (((panel.registry.listAll.map _).filter _).map _)
  rw [List.filter_map, List.map_map]
  rfl

theorem keys_renderInputSchemaMap_built :
    (renderInputSchemaMap (buildSnapshot panel request uuidHex)).map PyDict.keys =
      .ok (((enabledCapabilities panel request).filter
        (fun d => d.visibility = .plannerVisible)).map CapabilityDescriptor.stepKind) := by
  rw [renderInputSchemaMap, descriptorsWhere_built]
  change Except.ok _ = _
  rw [List.filter_map, PyDict.keys_foldl_set]
  · rw [List.map_map]
    rfl
  · have sub : ((enabledCapabilities panel request).filter
        (fun d => d.visibility = .plannerVisible)).Sublist panel.registry.listAll :=
      List.filter_sublist.trans List.filter_sublist
    rw [List.map_map]
    exact panel.registry.nodup_kinds.sublist (sub.map CapabilityDescriptor.stepKind)

end Built

section Usable

variable {panel : CapabilityPanel} {request : BuildCapabilitySnapshotInput} {uuidHex prompt : String}

/-- Whatever a request enables is meant for the planner. -/
def EnablesVisible (panel : CapabilityPanel) (request : BuildCapabilitySnapshotInput) : Prop :=
  ∀ d ∈ panel.registry.listAll, (resolveDescriptor d request).status = .enabled →
    d.visibility = .plannerVisible

theorem kinds_eq_iff :
    (listedCapabilities (buildSnapshot panel request uuidHex)).map
        (List.map CapabilityDescriptor.stepKind) =
      (renderInputSchemaMap (buildSnapshot panel request uuidHex)).map PyDict.keys ↔
    EnablesVisible panel request := by
  rw [listedCapabilities_built, keys_renderInputSchemaMap_built]
  constructor
  · intro same d listed enabled
    have lengths := congrArg List.length (Except.ok.inj same)
    rw [List.length_map, List.length_map] at lengths
    have all := List.length_filter_eq_length_iff.mp lengths.symm
    have mem : d ∈ enabledCapabilities panel request :=
      List.mem_filter.mpr ⟨listed, decide_eq_true enabled⟩
    exact of_decide_eq_true (all d mem)
  · intro visible
    have all : (enabledCapabilities panel request).filter
        (fun d => d.visibility = .plannerVisible) = enabledCapabilities panel request := by
      refine List.filter_eq_self.mpr fun d mem => decide_eq_true ?_
      obtain ⟨listed, enabled⟩ := List.mem_filter.mp mem
      exact visible d listed (of_decide_eq_true enabled)
    rw [all]
    rfl

/-- The prompt reads nothing of what a disguise changes when all that is enabled is visible. -/
theorem render_disguised (visible : EnablesVisible panel request)
    {f : CapabilityDescriptor → CapabilityDescriptor} {rename : String → String}
    (disguise : Disguise (buildSnapshot panel request uuidHex) f rename) :
    renderCapabilitiesForPrompt (disguised f rename (buildSnapshot panel request uuidHex)) =
      renderCapabilitiesForPrompt (buildSnapshot panel request uuidHex) := by
  have each : ∀ d ∈ panel.registry.listAll,
      availabilityOf (disguised f rename (buildSnapshot panel request uuidHex)) (f d) =
        .ok { resolveDescriptor d request with capabilityId := rename d.capabilityId } :=
    fun _ mem => availabilityOf_disguised panel request uuidHex disguise mem
  have swept := descriptorsWhere_eq rfl each
  have enabled : descriptorsWhere (disguised f rename (buildSnapshot panel request uuidHex))
      (fun a => a.status = .enabled) =
        descriptorsWhere (buildSnapshot panel request uuidHex) (fun a => a.status = .enabled) := by
    rw [swept, descriptorsWhere_built]
    refine congrArg Except.ok (List.map_congr_left fun d mem => ?_)
    obtain ⟨listed, isEnabled⟩ := List.mem_filter.mp mem
    have shown := disguise.visible d listed (visible d listed (of_decide_eq_true isEnabled))
    have kept := disguise.renamed d listed
    rw [shown] at kept
    rw [shown, ← kept]
    rfl
  have lines : ∀ d ∈ panel.registry.listAll.filter
      (fun d => (resolveDescriptor d request).status ≠ .enabled),
      (unavailableLine ∘ fun d => (f d,
        { resolveDescriptor d request with capabilityId := rename d.capabilityId })) d =
      (unavailableLine ∘ fun d => (d, resolveDescriptor d request)) d := by
    intro d mem
    have sameKind : (f d).stepKind = d.stepKind := by
      rw [disguise.hidden d (List.mem_filter.mp mem).1]
    dsimp only [Function.comp_apply, unavailableLine]
    rw [sameKind]
  unfold renderCapabilitiesForPrompt
  rw [enabled, swept, descriptorsWhere_built, descriptorsWhere_built]
  dsimp only [bind, Except.bind]
  split
  · rfl
  · simp only [List.isEmpty_map, List.map_map]
    rw [List.map_congr_left lines]

end Usable

section Internal

/-- A capability that is not meant for the planner. -/
def rotateKeys : CapabilityDescriptor where
  capabilityId := "cap.rotate_keys"
  version := "1"
  stepKind := "rotate_keys"
  ownerModule := "ops"
  name := "Rotate keys"
  description := "Replaces the keys."
  visibility := .internal

def panelOf (d : CapabilityDescriptor) : CapabilityPanel where
  registry := {
    byId := ⟨[(d.capabilityId, d)], List.nodup_singleton _⟩
    byStepKind := ⟨[(d.stepKind, d)], List.nodup_singleton _⟩
    same := rfl
    idKeys := rfl
    kindKeys := rfl }
  sha256Hex _ := ""

/-- The prompt with that capability. -/
def rotateKeysPrompt : String :=
  "Available capabilities:\n\n1. rotate_keys\n   Capability ID: cap.rotate_keys\n" ++
    "   Description: Replaces the keys.\n   Risk: low\n   Required context keys: (none)\n" ++
    "   Input schema:\n   \x7b\x7d\n\nUnavailable capabilities:\n\n- (none)"

private theorem eq_ok_of_toOption {ε α : Type} {x : Except ε α} {a : α} (h : x.toOption = some a) :
    x = .ok a := by
  cases x with
  | error e => cases h
  | ok b =>
    cases h
    rfl

/-- The prompt is the same whatever the visibility of the capability. -/
private theorem text_rotateKeys (visibility : CapabilityVisibility) :
    (renderCapabilitiesForPrompt (buildSnapshot
      (panelOf { rotateKeys with visibility := visibility }) {} "0")).toOption =
      some rotateKeysPrompt := by
  have same : renderCapabilitiesForPrompt (buildSnapshot
      (panelOf { rotateKeys with visibility := visibility }) {} "0") =
      renderCapabilitiesForPrompt (buildSnapshot (panelOf rotateKeys) {} "0") := rfl
  rw [same]
  decide +kernel

end Internal

end SthBoring.Plan.PlannerPrompt
