/- Module: SthBoring/Plan/DigestAdmission
   source: sdk_test_agent/plan/plan_validation.py, capability/capability_panel.py
   digest: Snapshots with the same digest admit the same plans. -/

import SthBoring.Capability.PanelOutput
import SthBoring.Capability.SchemaOrder
import SthBoring.Lib.JsonText
import SthBoring.Plan.PlanFinalizer
import SthBoring.Plan.SnapshotReads

set_option autoImplicit false
set_option relaxedAutoImplicit false

namespace SthBoring.Plan.DigestAdmission

open SthBoring.Lib.OrderedDict (PyDict)
open SthBoring.Lib.PyValue (Value Fields PyExc collect)
open SthBoring.Lib.PyJson (dumps)
open SthBoring.Lib.JsonValue
open SthBoring.Lib.CanonicalJson
open SthBoring.Lib.JsonText (canon_eq_of_dumps)
open SthBoring.Capability.CapabilityModels
open SthBoring.Capability.Panel
open SthBoring.Capability.PanelOutput (status_text_inj)
open SthBoring.Capability.SchemaValidation
open SthBoring.Capability.SchemaOrder
open SthBoring.Plan.Models
open SthBoring.Plan.PlanFinalizer (finalize sampleDraft)
open SthBoring.Plan.PlanValidation
open SthBoring.Plan.SnapshotReads

section Marks

/-- The code and the severity of each issue. -/
def marks (issues : List ValidationIssue) : List (String × ValidationSeverity) :=
  issues.map fun i => (i.code, i.severity)

/-- The marks that a check leaves, if it returns. -/
def marksOf (checked : Except PyExc (List ValidationIssue)) :
    Option (List (String × ValidationSeverity)) := checked.toOption.map marks

theorem marks_append (is js : List ValidationIssue) : marks (is ++ js) = marks is ++ marks js :=
  List.map_append

theorem marks_schemaIssues (step : PlanStep) (loc : String) (metadata : Fields)
    (errors : List SchemaError) :
    marks (errors.flatMap (schemaIssues step loc metadata)) =
      (List.replicate errors.length [("STEP_INPUT_SCHEMA_INVALID", ValidationSeverity.error),
        ("step.inputs.schema_invalid", .error)]).flatten := by
  induction errors with
  | nil => rfl
  | cons error errors ih =>
    rw [List.flatMap_cons, marks_append, ih]
    rfl

variable {α : Type}

theorem marksOf_append {x y x' y' : Except PyExc (List ValidationIssue)}
    (first : marksOf x = marksOf x') (second : marksOf y = marksOf y') :
    marksOf (do let a ← x; let b ← y; return a ++ b) =
      marksOf (do let a ← x'; let b ← y'; return a ++ b) := by
  cases x <;> cases x' <;> cases y <;> cases y' <;>
    simp_all [marksOf, Except.toOption, marks_append, bind, Except.bind, pure, Except.pure]

theorem marksOf_prepend (before : List ValidationIssue)
    {x y : Except PyExc (List ValidationIssue)} (same : marksOf x = marksOf y) :
    marksOf (do let issues ← x; return before ++ issues) =
      marksOf (do let issues ← y; return before ++ issues) := by
  have unchanged : marksOf (.ok before) = marksOf (.ok before) := rfl
  exact marksOf_append unchanged same

theorem marksOf_collect {f g : α → Except PyExc (List ValidationIssue)} {xs : List α}
    (each : ∀ x ∈ xs, marksOf (f x) = marksOf (g x)) :
    marksOf (collect f xs) = marksOf (collect g xs) := by
  induction xs with
  | nil => rfl
  | cons x xs ih =>
    exact marksOf_append (each x List.mem_cons_self)
      (ih fun y hy => each y (List.mem_cons_of_mem x hy))

/-- As many errors leave the same marks. -/
theorem marksOf_schemaIssues {x y : Checked} (same : errorCount x = errorCount y)
    (step : PlanStep) (loc : String) (metadata : Fields) (rest : List ValidationIssue) :
    marksOf (do let errors ← x; return errors.flatMap (schemaIssues step loc metadata) ++ rest) =
      marksOf (do let errors ← y; return errors.flatMap (schemaIssues step loc metadata) ++ rest) := by
  cases x with
  | error exc =>
    cases y with
    | error exc' => rfl
    | ok errors => exact absurd same (ENat.top_ne_natCast _)
  | ok errors =>
    cases y with
    | error exc' => exact absurd same (ENat.natCast_ne_top _)
    | ok errors' =>
      rw [errorCount_ok, errorCount_ok] at same
      have length : errors.length = errors'.length := by exact_mod_cast same
      show some (marks (_ ++ rest)) = some (marks (_ ++ rest))
      rw [marks_append, marks_append, marks_schemaIssues, marks_schemaIssues, length]

end Marks

section Canonical

def canonDescriptor (d : CapabilityDescriptor) : CapabilityDescriptor :=
  { d with inputSchema := canon d.inputSchema }

/-- A snapshot with its input schemas in canonical order. -/
def canonSnapshot (s : CapabilitySnapshot) : CapabilitySnapshot := mapEntries canonDescriptor id s

theorem keepsKeys_canon : KeepsKeys canonDescriptor id :=
  ⟨fun _ => rfl, fun _ => rfl, fun _ => rfl, fun _ => rfl⟩

variable {s : CapabilitySnapshot} (v : PlanValidator) (step : PlanStep) (idx : ℕ) (loc : String)

theorem declaredCapabilityIssues_canon (s : CapabilitySnapshot) (capabilityId : String) :
    declaredCapabilityIssues step loc (buildSnapshotIndex (canonSnapshot s)) capabilityId =
      declaredCapabilityIssues step loc (buildSnapshotIndex s) capabilityId := by
  have descriptor := descriptorByCapabilityId_map keepsKeys_canon s capabilityId
  change (buildSnapshotIndex (canonSnapshot s)).descriptorByCapabilityId.get capabilityId = _
    at descriptor
  have availability : (buildSnapshotIndex (canonSnapshot s)).availabilityByCapabilityId =
      (buildSnapshotIndex s).availabilityByCapabilityId := by
    simp only [buildSnapshotIndex, canonSnapshot, mapEntries, List.map_id]
  unfold declaredCapabilityIssues
  rw [descriptor, availability]
  cases (buildSnapshotIndex s).descriptorByCapabilityId.get capabilityId with
  | none => rfl
  | some d => cases (buildSnapshotIndex s).availabilityByCapabilityId.get capabilityId <;> rfl

theorem validateEnabledStep_canon {d : CapabilityDescriptor} (json : IsJson d.inputSchema) :
    marksOf (validateEnabledStep v step loc (canonDescriptor d)
        (buildSnapshotIndex (canonSnapshot s))) =
      marksOf (validateEnabledStep v step loc d (buildSnapshotIndex s)) := by
  have declared : declaredCapabilityIssues step loc (buildSnapshotIndex (canonSnapshot s)) =
      declaredCapabilityIssues step loc (buildSnapshotIndex s) :=
    funext (declaredCapabilityIssues_canon step loc s)
  have required : validateRequiredCapabilities v step loc (canonDescriptor d)
      (buildSnapshotIndex (canonSnapshot s)) =
        validateRequiredCapabilities v step loc d (buildSnapshotIndex s) := by
    rw [validateRequiredCapabilities, validateRequiredCapabilities, declared]
    rfl
  rw [validateEnabledStep, required]
  exact marksOf_schemaIssues (errorCount_canon json v.recursionLimit (.dict step.inputs)) step loc
    _ _

theorem validateStep_canon (json : ∀ d ∈ s.capabilities, IsJson d.inputSchema) :
    marksOf (validateStepAgainstCapabilitySnapshot v step idx
        (buildSnapshotIndex (canonSnapshot s))) =
      marksOf (validateStepAgainstCapabilitySnapshot v step idx (buildSnapshotIndex s)) := by
  have descriptor := descriptorByStepKind_map keepsKeys_canon s step.kind
  change (buildSnapshotIndex (canonSnapshot s)).descriptorByStepKind.get step.kind = _
    at descriptor
  have availability : (buildSnapshotIndex (canonSnapshot s)).availabilityByStepKind =
      (buildSnapshotIndex s).availabilityByStepKind := by
    simp only [buildSnapshotIndex, canonSnapshot, mapEntries, List.map_id]
  have kinds : (buildSnapshotIndex (canonSnapshot s)).enabledStepKinds =
      (buildSnapshotIndex s).enabledStepKinds := rfl
  unfold validateStepAgainstCapabilitySnapshot
  rw [descriptor, availability, kinds]
  cases found : (buildSnapshotIndex s).descriptorByStepKind.get step.kind with
  | none => rfl
  | some d =>
    cases (buildSnapshotIndex s).availabilityByStepKind.get step.kind with
    | none => rfl
    | some a =>
      have listed : d ∈ s.capabilities := (PyDict.of_get_comprehension found).1
      simp only [Option.map_some]
      split
      · rfl
      · exact validateEnabledStep_canon v step _ (json d listed)

theorem planIssues_canon (json : ∀ d ∈ s.capabilities, IsJson d.inputSchema) (steps : List PlanStep)
    (planMetadata : Fields) :
    marksOf (planIssues v steps planMetadata (some (canonSnapshot s))) =
      marksOf (planIssues v steps planMetadata (some s)) := by
  have perStep : marksOf (collect (stepIssues v (some (canonSnapshot s))
      (steps.map PlanStep.stepId)) steps.zipIdx) =
        marksOf (collect (stepIssues v (some s) (steps.map PlanStep.stepId)) steps.zipIdx) :=
    marksOf_collect fun step _ => marksOf_prepend _ (validateStep_canon v step.1 step.2 json)
  exact marksOf_prepend _ perStep

end Canonical

section Verdict

/-- The status and the codes of the issues, if the validator returns. -/
def verdict (validated : Except PyExc PlanValidationResult) :
    Option (ValidationStatus × List String) :=
  validated.toOption.map fun r => (r.status, r.issues.map (·.code))

/-- The verdict on a plan with issues of these marks. -/
def judge (v : PlanValidator) (found : List (String × ValidationSeverity)) :
    ValidationStatus × List String :=
  let has := fun severity => found.any fun mark => mark.2 = severity
  (if has .error || (v.failOnWarning && has .warning) then .failed else .passed,
    found.map Prod.fst)

variable (v : PlanValidator) (steps : List PlanStep) (planMetadata : Fields)

theorem judge_marks (issues : List ValidationIssue) (snapshot : Option CapabilitySnapshot)
    (checkedAt : ℤ) :
    let result := resultOf v issues snapshot checkedAt
    (result.status, result.issues.map (·.code)) = judge v (marks issues) := by
  simp only [resultOf, judge, hasSeverity, marks, List.any_map, List.map_map, Function.comp_def]
  rfl

/-- The verdict goes by the marks of the issues. -/
theorem verdict_validateSteps (snapshot : Option CapabilitySnapshot) (checkedAt : ℤ) :
    verdict (validateSteps v steps planMetadata snapshot checkedAt) =
      if steps.isEmpty then some (judge v (marks emptyPlanIssues))
      else (marksOf (planIssues v steps planMetadata snapshot)).map (judge v) := by
  unfold validateSteps
  split
  · exact congrArg some (judge_marks v emptyPlanIssues snapshot checkedAt)
  · cases planIssues v steps planMetadata snapshot with
    | error exc => rfl
    | ok issues => exact congrArg some (judge_marks v issues snapshot checkedAt)

/-- What is left of a snapshot that makes a difference to a verdict. -/
def core (s : CapabilitySnapshot) : CapabilitySnapshot :=
  { canonSnapshot (seen s) with snapshotId := "" }

theorem verdict_core {s : CapabilitySnapshot} (json : ∀ d ∈ s.capabilities, IsJson d.inputSchema)
    (checkedAt checkedAt' : ℤ) :
    verdict (validateSteps v steps planMetadata (some (core s)) checkedAt) =
      verdict (validateSteps v steps planMetadata (some s) checkedAt') := by
  have seenJson : ∀ d ∈ (seen s).capabilities, IsJson d.inputSchema := by
    intro d hd
    obtain ⟨d', hd', rfl⟩ := List.mem_map.mp hd
    show IsJson (if s.availableStepKinds.contains d'.stepKind then d'.inputSchema else .dict [])
    split
    · exact json d' hd'
    · exact ⟨List.nodup_nil, trivial⟩
  have issues : marksOf (planIssues v steps planMetadata (some (core s))) =
      marksOf (planIssues v steps planMetadata (some s)) :=
    (planIssues_canon v seenJson steps planMetadata).trans
      (congrArg marksOf (planIssues_seen v s steps planMetadata))
  rw [verdict_validateSteps, verdict_validateSteps, issues]

end Verdict

section Digest

/-- The bytes that are hashed for the digest of a snapshot. -/
def serialised (s : CapabilitySnapshot) : ByteArray :=
  (dumps .compact (digestPayload s.capabilities s.availability s.availableStepKinds
    s.unavailableStepKinds)).toUTF8

theorem isJson_texts (xs : List String) : IsJson (texts xs) := by
  refine allJson_iff.mpr fun x hx => ?_
  obtain ⟨t, -, rfl⟩ := List.mem_map.mp hx
  trivial

theorem isJson_optionalText (t : Option String) : IsJson (optionalText t) := by
  cases t <;> trivial

/-- Both schemas of a descriptor are JSON. -/
structure SchemasJson (d : CapabilityDescriptor) : Prop where
  input : IsJson d.inputSchema
  output : IsJson d.outputSchema

theorem isJson_descriptor {d : CapabilityDescriptor} (json : SchemasJson d) :
    IsJson (descriptorDigestPayload d) := by
  have names : ∀ es : Fields, es.map Prod.fst = ["capability_id", "version", "step_kind",
      "input_schema", "output_schema", "required_context_keys", "risk_level", "visibility",
      "default_enabled", "is_placeholder", "is_deprecated"] → (es.map Prod.fst).Nodup := by
    intro es own
    rw [own]
    decide
  exact ⟨names _ rfl, trivial, trivial, trivial, json.input, json.output, isJson_texts _, trivial,
    trivial, trivial, trivial, trivial, trivial⟩

theorem isJson_availability (a : CapabilityAvailability) :
    IsJson (availabilityDigestPayload a) := by
  have names : ∀ es : Fields, es.map Prod.fst = ["capability_id", "step_kind", "status", "reason",
      "missing_context_keys"] → (es.map Prod.fst).Nodup := by
    intro es own
    rw [own]
    decide
  exact ⟨names _ rfl, trivial, trivial, trivial, isJson_optionalText _, isJson_texts _, trivial⟩

theorem isJson_digestPayload {ds : List CapabilityDescriptor} (json : ∀ d ∈ ds, SchemasJson d)
    (as : List CapabilityAvailability) (available unavailable : List String) :
    IsJson (digestPayload ds as available unavailable) := by
  have names : ∀ es : Fields, es.map Prod.fst = ["capabilities", "availability",
      "available_step_kinds", "unavailable_step_kinds"] → (es.map Prod.fst).Nodup := by
    intro es own
    rw [own]
    decide
  have descriptors : IsJson (.list (ds.map descriptorDigestPayload)) := by
    refine allJson_iff.mpr fun x hx => ?_
    obtain ⟨d, hd, rfl⟩ := List.mem_map.mp hx
    exact isJson_descriptor (json d hd)
  have availability : IsJson (.list (as.map availabilityDigestPayload)) := by
    refine allJson_iff.mpr fun x hx => ?_
    obtain ⟨a, -, rfl⟩ := List.mem_map.mp hx
    exact isJson_availability a
  exact ⟨names _ rfl, descriptors, availability, isJson_texts _, isJson_texts _, trivial⟩

/-- Objects that agree up to the order of members agree on every member. -/
theorem member_eq {es fs : Fields} (left : IsJson (.dict es)) (right : IsJson (.dict fs))
    (same : canon (.dict es) = canon (.dict fs)) (key : String) :
    (es.get key).map canon = (fs.get key).map canon := by
  rw [canon_dict, canon_dict, Value.dict.injEq] at same
  rw [← get_canonFields left, ← get_canonFields right]
  exact congrArg (Fields.get · key) same

theorem canon_texts (xs : List String) : canon (texts xs) = texts xs := by
  rw [texts, canon_list, List.map_map]
  rfl

theorem texts_inj {xs ys : List String} (same : canon (texts xs) = canon (texts ys)) : xs = ys := by
  rw [canon_texts, canon_texts] at same
  exact List.map_injective_iff.mpr (fun _ _ => Value.str.inj) (Value.list.inj same)

theorem optionalText_inj {t u : Option String}
    (same : canon (optionalText t) = canon (optionalText u)) : t = u := by
  cases t with
  | none =>
    cases u with
    | none => rfl
    | some u => cases same
  | some t =>
    cases u with
    | none => cases same
    | some u => rw [Value.str.inj same]

/-- What two lists agree on item by item decides what follows from it. -/
theorem map_eq_map_of {α β γ : Type} {f : α → β} {g : α → γ} {xs ys : List α}
    (same : xs.map f = ys.map f) (each : ∀ x ∈ xs, ∀ y ∈ ys, f x = f y → g x = g y) :
    xs.map g = ys.map g := by
  induction xs generalizing ys with
  | nil =>
    cases ys with
    | nil => rfl
    | cons y ys => cases same
  | cons x xs ih =>
    cases ys with
    | nil => cases same
    | cons y ys =>
      obtain ⟨first, rest⟩ := List.cons.inj same
      rw [List.map_cons, List.map_cons, each x List.mem_cons_self y List.mem_cons_self first,
        ih rest fun a ha b hb => each a (List.mem_cons_of_mem x ha) b (List.mem_cons_of_mem y hb)]

/-- The digest payload of a descriptor holds what the validator looks at. -/
theorem seen_of_descriptorPayload {d d' : CapabilityDescriptor} (json : SchemasJson d)
    (json' : SchemasJson d')
    (same : canon (descriptorDigestPayload d) = canon (descriptorDigestPayload d'))
    (kinds : List String) :
    canonDescriptor (seenDescriptor kinds d) = canonDescriptor (seenDescriptor kinds d') := by
  have member := member_eq (isJson_descriptor json) (isJson_descriptor json') same
  have capabilityId : d.capabilityId = d'.capabilityId :=
    Value.str.inj (Option.some.inj (member "capability_id"))
  have stepKind : d.stepKind = d'.stepKind :=
    Value.str.inj (Option.some.inj (member "step_kind"))
  have schema : canon d.inputSchema = canon d'.inputSchema :=
    Option.some.inj (member "input_schema")
  simp only [canonDescriptor, seenDescriptor, capabilityId, stepKind]
  split
  · rw [schema]
  · rfl

theorem seen_of_availabilityPayload {a a' : CapabilityAvailability}
    (same : canon (availabilityDigestPayload a) = canon (availabilityDigestPayload a')) :
    seenAvailability a = seenAvailability a' := by
  have member := member_eq (isJson_availability a) (isJson_availability a') same
  have capabilityId : a.capabilityId = a'.capabilityId :=
    Value.str.inj (Option.some.inj (member "capability_id"))
  have stepKind : a.stepKind = a'.stepKind :=
    Value.str.inj (Option.some.inj (member "step_kind"))
  have status : a.status = a'.status :=
    status_text_inj.mp (Value.str.inj (Option.some.inj (member "status")))
  have reason : a.reason = a'.reason := optionalText_inj (Option.some.inj (member "reason"))
  have missing : a.missingContextKeys = a'.missingContextKeys :=
    texts_inj (Option.some.inj (member "missing_context_keys"))
  simp only [seenAvailability, capabilityId, stepKind, status, reason, missing]

/-- What is hashed holds all that makes a difference, besides the digest itself. -/
theorem core_eq {s s' : CapabilitySnapshot} (json : ∀ d ∈ s.capabilities, SchemasJson d)
    (json' : ∀ d ∈ s'.capabilities, SchemasJson d) (bytes : serialised s = serialised s')
    (digest : s.capabilityDigest = s'.capabilityDigest) : core s = core s' := by
  have left := isJson_digestPayload json s.availability s.availableStepKinds s.unavailableStepKinds
  have right :=
    isJson_digestPayload json' s'.availability s'.availableStepKinds s'.unavailableStepKinds
  have payload := canon_eq_of_dumps left right (String.toByteArray_inj.mp bytes)
  have member := member_eq left right payload
  have kinds : s.availableStepKinds = s'.availableStepKinds :=
    texts_inj (Option.some.inj (member "available_step_kinds"))
  have descriptors : canon (.list (s.capabilities.map descriptorDigestPayload)) =
      canon (.list (s'.capabilities.map descriptorDigestPayload)) :=
    Option.some.inj (member "capabilities")
  have availability : canon (.list (s.availability.map availabilityDigestPayload)) =
      canon (.list (s'.availability.map availabilityDigestPayload)) :=
    Option.some.inj (member "availability")
  rw [canon_list, canon_list, Value.list.injEq, List.map_map, List.map_map] at descriptors availability
  have capabilities : s.capabilities.map (canonDescriptor ∘ seenDescriptor s.availableStepKinds) =
      s'.capabilities.map (canonDescriptor ∘ seenDescriptor s.availableStepKinds) :=
    map_eq_map_of descriptors fun d hd d' hd' same =>
      seen_of_descriptorPayload (json d hd) (json' d' hd') same _
  have available : s.availability.map seenAvailability = s'.availability.map seenAvailability :=
    map_eq_map_of availability fun a _ a' _ same => seen_of_availabilityPayload same
  simp only [core, canonSnapshot, seen, mapEntries, List.map_map, ← kinds, capabilities,
    available, digest]

end Digest

section Admission

variable (sha256Hex : ByteArray → String) {registry registry' : CapabilityRegistry}
  (request request' : BuildCapabilitySnapshotInput) (uuidHex uuidHex' : String)

/-- **The digest determines admission.** Two snapshots of panels that carry the same digest lead every
validator to the same status and the same codes, on every plan and every draft, where SHA-256 does
not take the two payloads to one hash. -/
theorem digest_determines_admission (json : ∀ d ∈ registry.listAll, SchemasJson d)
    (json' : ∀ d ∈ registry'.listAll, SchemasJson d) :
    let s := buildSnapshot ⟨registry, sha256Hex⟩ request uuidHex
    let s' := buildSnapshot ⟨registry', sha256Hex⟩ request' uuidHex'
    (collisionFree : sha256Hex (serialised s) = sha256Hex (serialised s') →
      serialised s = serialised s') →
    (digest : s.capabilityDigest = s'.capabilityDigest) →
    ∀ (v : PlanValidator) (checkedAt checkedAt' : ℤ),
      (∀ plan, verdict (validate v plan (some s) checkedAt) =
        verdict (validate v plan (some s') checkedAt')) ∧
      ∀ draft, verdict (validateDraft v draft (some s) checkedAt) =
        verdict (validateDraft v draft (some s') checkedAt') := by
  intro s s' collisionFree digest v checkedAt checkedAt'
  have bytes : serialised s = serialised s' :=
    collisionFree ((String.append_right_inj "sha256:").mp digest)
  have same : core s = core s' := core_eq json json' bytes digest
  have steps : ∀ steps planMetadata,
      verdict (validateSteps v steps planMetadata (some s) checkedAt) =
        verdict (validateSteps v steps planMetadata (some s') checkedAt') := by
    intro steps planMetadata
    rw [← verdict_core v steps planMetadata (fun d hd => (json d hd).input) 0 checkedAt, same,
      verdict_core v steps planMetadata (fun d hd => (json' d hd).input) 0 checkedAt']
  exact ⟨fun plan => steps plan.steps plan.planMetadata, fun draft => steps draft.steps []⟩

def runCommand (members : Fields) : CapabilityDescriptor where
  capabilityId := "cap.run_command.v1"
  version := "v1"
  stepKind := "run_command"
  ownerModule := "cmdctrl"
  name := "run"
  description := "Run a command."
  inputSchema := .dict members

/-- A registry with one capability, whose input schema has these members. -/
def oneCapability (members : Fields) : CapabilityRegistry where
  byId := ⟨[("cap.run_command.v1", runCommand members)], List.nodup_singleton _⟩
  byStepKind := ⟨[("run_command", runCommand members)], List.nodup_singleton _⟩
  same := rfl
  idKeys := rfl
  kindKeys := rfl

def typeFirst : Fields := [("type", .str "object"), ("required", .list [.str "command"])]

def requiredFirst : Fields := [("required", .list [.str "command"]), ("type", .str "object")]

/-- SHA-256 on the one payload that is hashed below. -/
def payloadHash (_ : ByteArray) : String :=
  "36ee411b64b61b922788955ca18c7993e28a0b2202e8c2d1479fbff5a7d821d2"

private theorem payload_reordered :
    dumps .compact (digestPayload [runCommand typeFirst] [resolveDescriptor (runCommand typeFirst) {}]
      ["run_command"] []) =
    dumps .compact (digestPayload [runCommand requiredFirst]
      [resolveDescriptor (runCommand requiredFirst) { taskId := some "task_1" }]
      ["run_command"] []) := by
  decide +kernel

theorem digest_determines_admission_reordered :
    let s := buildSnapshot ⟨oneCapability typeFirst, payloadHash⟩ {} "00"
    let s' := buildSnapshot ⟨oneCapability requiredFirst, payloadHash⟩ { taskId := some "task_1" } "01"
    let plan := finalize sampleDraft (some s) {} "plan_1" 0
    verdict (validate {} plan (some s) 0) = verdict (validate {} plan (some s') 1) ∧
      verdict (validateDraft {} sampleDraft (some s) 0) =
        verdict (validateDraft {} sampleDraft (some s') 1) := by
  intro s s' plan
  have json : ∀ members : Fields, IsJson (.dict members) →
      ∀ d ∈ (oneCapability members).listAll, SchemasJson d := by
    intro members own d hd
    rw [List.mem_singleton.mp hd]
    exact ⟨own, List.nodup_nil, trivial⟩
  have payload : serialised s = serialised s' := congrArg String.toUTF8 payload_reordered
  obtain ⟨plans, drafts⟩ := digest_determines_admission payloadHash {} { taskId := some "task_1" }
    "00" "01" (json typeFirst ⟨by decide, trivial, ⟨trivial, trivial⟩, trivial⟩)
    (json requiredFirst ⟨by decide, ⟨trivial, trivial⟩, trivial, trivial⟩) (fun _ => payload) rfl {}
    0 1
  exact ⟨plans plan, drafts sampleDraft⟩

end Admission

end SthBoring.Plan.DigestAdmission
