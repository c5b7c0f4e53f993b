/- Module: SthBoring/Capability/SchemaRenderers
   source: sdk_test_agent/capability/schema_renderers.py
   digest: The text in which a planner is shown the capabilities of a snapshot. -/

import SthBoring.Lib.PyJson
import SthBoring.Capability.CapabilityModels

set_option autoImplicit false
set_option relaxedAutoImplicit false

namespace SthBoring.Capability.SchemaRenderers

open SthBoring.Lib.OrderedDict (PyDict)
open SthBoring.Lib.PyValue (Value PyExc keyError textOr joinWith collect splitLines rstrip)
open SthBoring.Lib.PyJson (dumpsStrict)
open SthBoring.Capability.CapabilityModels

/-- `_indent`. -/
def indent (text pre : String) : String :=
  joinWith "\n" ((splitLines text).map (fun line => pre ++ line))

/-- `availability_by_id[descriptor.capability_id]`, where the last entry of an id counts. -/
def availabilityOf (snapshot : CapabilitySnapshot) (descriptor : CapabilityDescriptor) :
    Except PyExc CapabilityAvailability :=
  match (PyDict.comprehension CapabilityAvailability.capabilityId snapshot.availability).get
      descriptor.capabilityId with
  | some availability => .ok availability
  | none => .error (keyError descriptor.capabilityId)

/-- The descriptors whose availability has the property, with that availability. -/
def descriptorsWhere (snapshot : CapabilitySnapshot) (p : CapabilityAvailability → Bool) :
    Except PyExc (List (CapabilityDescriptor × CapabilityAvailability)) :=
  collect (fun d => do
    let availability ← availabilityOf snapshot d
    return if p availability then [(d, availability)] else []) snapshot.capabilities

def enabledLines (descriptor : CapabilityDescriptor) (idx : ℕ) : Except PyExc (List String) := do
  let schema ← dumpsStrict .unicode descriptor.inputSchema
  let keys := joinWith ", " descriptor.requiredContextKeys
  let shownKeys := if keys = "" then "(none)" else keys
  let example' ← match descriptor.examples with
    | [] => pure []
    | first :: _ => do
      let text ← dumpsStrict .unicode first
      pure ["   Example:", indent text "   "]
  return [s!"{idx}. {descriptor.stepKind}",
    s!"   Capability ID: {descriptor.capabilityId}",
    s!"   Description: {descriptor.description}",
    s!"   Risk: {descriptor.riskLevel.text}",
    s!"   Required context keys: {shownKeys}",
    "   Input schema:",
    indent schema "   "] ++ example' ++ [""]

def unavailableLine (entry : CapabilityDescriptor × CapabilityAvailability) : String :=
  s!"- {entry.1.stepKind}: {textOr entry.2.reason entry.2.status.text}"

def renderCapabilitiesForPrompt (snapshot : CapabilitySnapshot) : Except PyExc String := do
  let enabled ← descriptorsWhere snapshot (fun a => a.status = .enabled)
  let shown ← collect (fun entry => enabledLines entry.1.1 entry.2) (enabled.zipIdx 1)
  let unavailable ← descriptorsWhere snapshot (fun a => a.status ≠ .enabled)
  let missing := if unavailable.isEmpty then ["- (none)"] else unavailable.map unavailableLine
  return rstrip (joinWith "\n"
    (["Available capabilities:", ""] ++ shown ++ ["Unavailable capabilities:", ""] ++ missing))

/-- `render_input_schema_map`. -/
def renderInputSchemaMap (snapshot : CapabilitySnapshot) : Except PyExc (PyDict String Value) := do
  let enabled ← descriptorsWhere snapshot (fun a => a.status = .enabled)
  let shown := enabled.filter (fun entry => entry.1.visibility = .plannerVisible)
  return shown.foldl (fun schemas entry => schemas.set entry.1.stepKind entry.1.inputSchema) .empty

end SthBoring.Capability.SchemaRenderers
