/- Module: SthBoring/Capability/ModelRebuild
   source: sdk_test_agent/capability/_pydantic_compat.py
   digest: What survives when an instance is dumped and its class validates the dump. -/

import SthBoring.Capability.TraceModels

set_option autoImplicit false
set_option relaxedAutoImplicit false

namespace SthBoring.Capability.ModelRebuild

open SthBoring.Lib.OrderedDict (assocGet assocGet_of_mem)
open SthBoring.Lib.PyValue (Value Fields)
open SthBoring.Lib.Dataclasses
open SthBoring.Capability.CapabilityModels
open SthBoring.Capability.CapabilityIoModels
open SthBoring.Capability.ModelValidation
open SthBoring.Capability.Panel (texts optionalText)
open SthBoring.Capability.TraceModels

section Dumps

@[simp] theorem plain_texts (xs : List String) : plain (texts xs) = texts xs := by
  rw [texts, plain, plainList_eq, List.map_map]
  rfl

@[simp] theorem plain_optionalText (s : Option String) :
    plain (optionalText s) = optionalText s := by
  cases s <;> rfl

end Dumps

section Aligned

/-- A payload has the fields of a class in their order, and each of its values is coerced to the
attribute of that name. -/
inductive Aligned : FieldSpecs → Fields → Fields → Prop where
  | nil : Aligned [] [] []
  | cons {name : String} {item : Annotation} {info : FieldInfo} {v w : Value}
      {specs : FieldSpecs} {payload attributes : Fields}
      (coerced : coerceValue item v name = .ok w)
      (rest : Aligned specs payload attributes) :
      Aligned ((name, item, info) :: specs) ((name, v) :: payload) ((name, w) :: attributes)

variable {specs : FieldSpecs} {payload attributes : Fields}

theorem Aligned.names (aligned : Aligned specs payload attributes) :
    payload.map Prod.fst = specs.map Prod.fst := by
  induction aligned with
  | nil => rfl
  | cons coerced rest ih => rw [List.map_cons, List.map_cons, ih]

/-- Each field finds its own entry in the whole payload. -/
theorem Aligned.coerceFields_eq {whole : Fields} (aligned : Aligned specs payload attributes)
    (found : ∀ e ∈ payload, whole.get e.1 = some e.2) :
    coerceFields specs whole = ([], attributes) := by
  induction aligned with
  | nil => rfl
  | cons coerced rest ih =>
    have here := found _ List.mem_cons_self
    have others := ih fun e he => found e (List.mem_cons_of_mem _ he)
    simp only [coerceFields, here, Option.getD_some, coerced, others]

/-- A class takes such a payload, and the instance has these attributes. -/
theorem Aligned.coerceValue_eq {name path : String} (aligned : Aligned specs payload attributes)
    (distinct : (specs.map Prod.fst).Nodup) :
    coerceValue (.model name .forbid specs) (.dict payload) path = .ok (.obj name attributes) := by
  have distinct' : (payload.map Prod.fst).Nodup := aligned.names ▸ distinct
  have found : ∀ e ∈ payload, payload.get e.1 = some e.2 := fun e he =>
    assocGet_of_mem distinct' he
  have unknown : unknownFields specs payload = [] := by
    refine unknownFields_eq_nil_iff.mpr fun e he => ?_
    rw [← aligned.names]
    exact List.mem_map_of_mem he
  have missing : missingFields specs payload = [] := by
    refine missingFields_eq_nil_iff.mpr fun f hf _ => ?_
    have listed : f.1 ∈ payload.map Prod.fst := aligned.names ▸ List.mem_map_of_mem hf
    obtain ⟨e, he, same⟩ := List.mem_map.mp listed
    rw [← same, found e he]
    rfl
  rw [coerceValue]
  simp [modelValidate, unknown, missing, aligned.coerceFields_eq found, extraAttributes]

end Aligned

section Attributes

variable {path : String}

theorem coerce_optionalText (s : Option String) :
    coerceValue optionalStr (optionalText s) path = .ok (optionalText s) := by
  cases s <;> rfl

theorem coerceEach_map {α : Type} {coerce : Value → Coerced Value} {f g : α → Value} {xs : List α}
    (each : ∀ x ∈ xs, coerce (f x) = .ok (g x)) :
    coerceEach coerce (xs.map f) = .ok (xs.map g) := by
  induction xs with
  | nil => rfl
  | cons x xs ih =>
    have rest := ih fun y hy => each y (List.mem_cons_of_mem x hy)
    simp only [List.map_cons, coerceEach, each x List.mem_cons_self, rest, bind, Except.bind, pure,
      Except.pure]

theorem coerceItems_map {α : Type} {coerce : Value → Coerced Value} {what : String}
    {f g : α → Value} {xs : List α} (each : ∀ x ∈ xs, coerce (f x) = .ok (g x)) :
    coerceItems coerce what (.list (xs.map f)) path = .ok (.list (xs.map g)) := by
  simp only [coerceItems, coerceEach_map each, bind, Except.bind, pure, Except.pure]

theorem coerce_tuple {α : Type} {item : Annotation} {f g : α → Value} {xs : List α}
    (each : ∀ x ∈ xs, ∀ path, coerceValue item (f x) path = .ok (g x)) :
    coerceValue (.tuple item) (.list (xs.map f)) path = .ok (.list (xs.map g)) :=
  coerceItems_map fun x hx => each x hx _

theorem coerce_list {α : Type} {item : Annotation} {f g : α → Value} {xs : List α}
    (each : ∀ x ∈ xs, ∀ path, coerceValue item (f x) path = .ok (g x)) :
    coerceValue (.list item) (.list (xs.map f)) path = .ok (.list (xs.map g)) :=
  coerceItems_map fun x hx => each x hx _

theorem coerce_texts (xs : List String) :
    coerceValue (.tuple .str) (texts xs) path = .ok (texts xs) :=
  coerce_tuple fun _ _ _ => rfl

theorem coerce_textList (xs : List String) :
    coerceValue (.list .str) (texts xs) path = .ok (texts xs) :=
  coerce_list fun _ _ _ => rfl

theorem coerce_riskLevel (r : CapabilityRiskLevel) :
    coerceValue riskLevels (.str r.text) path = .ok (.str r.text) := by
  cases r <;> rfl

theorem coerce_status (s : CapabilityStatus) :
    coerceValue statuses (.str s.text) path = .ok (.str s.text) := by
  cases s <;> rfl

theorem coerce_visibility (v : CapabilityVisibility) :
    coerceValue visibilities (.str v.text) path = .ok (.str v.text) := by
  cases v <;> rfl

theorem coerce_dict {v : Value} (isDict' : isDict v = true) :
    coerceValue .dict v path = .ok v := by
  rw [coerceValue, coerceScalar, if_pos isDict']

theorem isDict_dumpValue {v : Value} (isDict' : isDict v = true) : isDict (dumpValue v) = true := by
  cases v with
  | dict es => rfl
  | _ => cases isDict'

end Attributes

section Instances

/-- What `__post_init__` makes sure of that the record's types leave open. -/
structure WellTyped (d : CapabilityDescriptor) : Prop where
  inputSchema : isDict d.inputSchema = true
  outputSchema : isDict d.outputSchema = true
  examples : ∀ e ∈ d.examples, isDict e = true

/-- Instances inside a descriptor's dicts become dicts. -/
def dumpedDescriptor (d : CapabilityDescriptor) : CapabilityDescriptor :=
  { d with
    inputSchema := dumpValue d.inputSchema
    outputSchema := dumpValue d.outputSchema
    examples := d.examples.map dumpValue
    metadata := dumpFields d.metadata }

def dumpedSnapshot (s : CapabilitySnapshot) : CapabilitySnapshot :=
  { s with
    capabilities := s.capabilities.map dumpedDescriptor
    metadata := dumpFields s.metadata }

def dumpedRecord (r : CapabilityResolutionRecord) : CapabilityResolutionRecord :=
  { r with
    inputPayload := dumpFields r.inputPayload
    availabilityRecords := r.availabilityRecords.map dumpFields
    metadata := dumpFields r.metadata }

variable {path : String}

theorem rebuild_descriptor {d : CapabilityDescriptor} (wellTyped : WellTyped d) :
    coerceValue capabilityDescriptor (dumpValue (descriptorObj d)) path =
      .ok (descriptorObj (dumpedDescriptor d)) := by
  have examples : coerceValue (.tuple .dict) (.list (d.examples.map dumpValue)) "examples" =
      .ok (.list (d.examples.map dumpValue)) :=
    coerce_tuple fun e he _ => coerce_dict (isDict_dumpValue (wellTyped.examples e he))
  have input := isDict_dumpValue wellTyped.inputSchema
  have output := isDict_dumpValue wellTyped.outputSchema
  rw [descriptorObj, dumpValue, plain]
  simp only [plainFields, plain_texts, plain_optionalText, plain, plainList_eq]
  exact Aligned.coerceValue_eq (.cons rfl <| .cons rfl <| .cons rfl <| .cons rfl <| .cons rfl <|
    .cons rfl <| .cons (coerce_optionalText _) <| .cons (coerce_optionalText _) <|
    .cons (coerce_optionalText _) <| .cons (coerce_dict input) <| .cons (coerce_dict output) <|
    .cons (coerce_texts _) <| .cons (coerce_texts _) <| .cons (coerce_riskLevel _) <|
    .cons (coerce_visibility _) <| .cons rfl <| .cons rfl <| .cons rfl <| .cons examples <|
    .cons (coerce_texts _) <| .cons rfl .nil) (by decide)

theorem rebuild_availability (a : CapabilityAvailability) :
    coerceValue capabilityAvailability (dumpValue (availabilityObj a)) path =
      .ok (availabilityObj a) := by
  rw [availabilityObj, dumpValue, plain]
  simp only [plainFields, plain_texts, plain_optionalText, plain]
  exact Aligned.coerceValue_eq (.cons rfl <| .cons rfl <| .cons (coerce_status _) <|
    .cons (coerce_optionalText _) <| .cons (coerce_texts _) <| .cons rfl <| .cons rfl <|
    .cons rfl <| .cons (coerce_riskLevel _) .nil) (by decide)

/-- A snapshot rebuilt from its dump is the snapshot, its dicts dumped. -/
theorem rebuild_snapshot {s : CapabilitySnapshot} (wellTyped : ∀ d ∈ s.capabilities, WellTyped d) :
    rebuild capabilitySnapshot (snapshotObj s) = .ok (snapshotObj (dumpedSnapshot s)) := by
  have capabilities : coerceValue (.tuple capabilityDescriptor)
      (.list (s.capabilities.map fun d => dumpValue (descriptorObj d))) "capabilities" =
      .ok (.list (s.capabilities.map fun d => descriptorObj (dumpedDescriptor d))) :=
    coerce_tuple fun d hd _ => rebuild_descriptor (wellTyped d hd)
  have availability : coerceValue (.tuple capabilityAvailability)
      (.list (s.availability.map fun a => dumpValue (availabilityObj a))) "availability" =
      .ok (.list (s.availability.map availabilityObj)) :=
    coerce_tuple fun a _ _ => rebuild_availability a
  have dumped : (dumpedSnapshot s).capabilities.map descriptorObj =
      s.capabilities.map fun d => descriptorObj (dumpedDescriptor d) := by
    rw [dumpedSnapshot, List.map_map]
    rfl
  rw [rebuild, snapshotObj, modelDump, snapshotObj, dumped]
  simp only [plainFields, plain_texts, plain_optionalText, plain, plainList_eq,
    List.map_map, Function.comp_def]
  exact Aligned.coerceValue_eq (.cons rfl <| .cons capabilities <| .cons availability <|
    .cons (coerce_texts _) <| .cons (coerce_texts _) <| .cons rfl <|
    .cons (coerce_optionalText _) <| .cons rfl .nil) (by decide)

/-- A record rebuilt from its dump is the record, its dicts dumped. -/
theorem rebuild_record {r : CapabilityResolutionRecord}
    (action : r.actionName = "capability.build_snapshot") :
    rebuild capabilityResolutionRecord (recordObj r) = .ok (recordObj (dumpedRecord r)) := by
  have records : coerceValue (.list .dict)
      (.list (r.availabilityRecords.map fun a => Value.dict (dumpFields a)))
      "availability_records" =
      .ok (.list (r.availabilityRecords.map fun a => Value.dict (dumpFields a))) :=
    coerce_list fun _ _ _ => rfl
  have name : coerceValue (.literal ["capability.build_snapshot"]) (.str r.actionName)
      "action_name" = .ok (.str r.actionName) := by
    rw [action]
    rfl
  have dumped : (dumpedRecord r).availabilityRecords.map Value.dict =
      r.availabilityRecords.map fun a => Value.dict (dumpFields a) := by
    rw [dumpedRecord, List.map_map]
    rfl
  rw [rebuild, recordObj, modelDump, recordObj, dumped]
  simp only [plainFields, plain_texts, plain_optionalText, plain, plainList_eq,
    List.map_map, Function.comp_def]
  exact Aligned.coerceValue_eq (.cons rfl <| .cons rfl <| .cons rfl <| .cons rfl <|
    .cons (coerce_textList _) <| .cons (coerce_textList _) <| .cons (coerce_textList _) <|
    .cons (coerce_textList _) <| .cons (coerce_textList _) <| .cons (coerce_textList _) <|
    .cons records <| .cons rfl <| .cons (coerce_optionalText _) <| .cons name <|
    .cons (coerce_optionalText _) <| .cons (coerce_optionalText _) <| .cons rfl .nil) (by decide)

end Instances

end SthBoring.Capability.ModelRebuild
