/- Module: SthBoring/Capability/CapabilityValidator
   source: sdk_test_agent/capability/capability_validator.py
   digest: The checks of a snapshot and of the record of its resolution. -/

import SthBoring.Capability.TraceModels

set_option autoImplicit false
set_option relaxedAutoImplicit false

namespace SthBoring.Capability.CapabilityValidator

open SthBoring.Lib.PyValue (Value Fields PyExc keyError typeError)
open SthBoring.Capability.CapabilityModels
open SthBoring.Capability.Panel
open SthBoring.Capability.TraceModels

structure CapabilityValidationIssue where
  level : String
  location : String
  message : String
  deriving DecidableEq, Repr

structure CapabilityValidationResult where
  ok : Bool
  issues : List CapabilityValidationIssue
  deriving DecidableEq, Repr

/-- `_result`. -/
def resultOf (issues : List CapabilityValidationIssue) : CapabilityValidationResult :=
  ⟨!issues.any fun i => i.level == "error", issues⟩

/-- An error, unless the check holds. -/
def errorUnless (holds : Bool) (location message : String) : List CapabilityValidationIssue :=
  if holds then [] else [⟨"error", location, message⟩]

/-- `CapabilityPanel.recompute_digest`. -/
def recomputeDigest (sha256Hex : ByteArray → String) (snapshot : CapabilitySnapshot) : String :=
  sha256Digest sha256Hex (digestPayload snapshot.capabilities snapshot.availability
    snapshot.availableStepKinds snapshot.unavailableStepKinds)

def validateSnapshot (sha256Hex : ByteArray → String) (snapshot : CapabilitySnapshot) :
    CapabilityValidationResult :=
  let enabled := (snapshot.availability.filter (fun a => a.status = .enabled)).map (·.stepKind)
  let unavailable := (snapshot.availability.filter (fun a => a.status ≠ .enabled)).map (·.stepKind)
  resultOf
    (errorUnless (snapshot.availableStepKinds = enabled) "available_step_kinds"
        "available_step_kinds must match enabled availability records" ++
      errorUnless (snapshot.unavailableStepKinds = unavailable) "unavailable_step_kinds"
        "unavailable_step_kinds must match non-enabled availability records" ++
      errorUnless (recomputeDigest sha256Hex snapshot = snapshot.capabilityDigest)
        "capability_digest" "capability_digest does not match recomputed digest")

section Records

def statusTexts : List String :=
  [CapabilityStatus.enabled, .disabled, .unavailable, .placeholder, .deprecated].map (·.text)

/-- `str(availability.get("status"))`. -/
def statusText (availability : Fields) : String := (availability.getD "status").text

/-- `by_status[status.value]`, once all statuses are known. -/
def idsUnder (records : List Fields) (status : CapabilityStatus) : List Value :=
  (records.filter fun a => statusText a = status.text).map (·.getD "capability_id")

/-- Strings compare with strings and numbers with numbers; lists do not occur. -/
def comparable (v w : Value) : Bool := (v.isStr && w.isStr) || (v.isNumber && w.isNumber)

/-- The first two neighbours that do not compare. -/
def unlike : List Value → Option (Value × Value)
  | v :: w :: vs => if comparable v w then unlike (w :: vs) else some (v, w)
  | _ => none

def precedes : Value → Value → Bool
  | .str s, .str t => s ≤ t
  | v, w => v.number.getD 0 ≤ w.number.getD 0

/-- `sorted(ids)`. -/
def sortedIds (ids : List Value) : Except PyExc (List Value) :=
  match unlike ids with
  | some (v, w) => .error (typeError
      s!"'<' not supported between instances of '{w.typeName}' and '{v.typeName}'")
  | none => .ok (ids.insertionSort fun v w => precedes v w = true)

/-- One entry of `checks`. -/
def consistencyIssues (records : List Fields) (location : String) (actual : List String)
    (status : CapabilityStatus) : Except PyExc (List CapabilityValidationIssue) := do
  let sorted ← sortedIds (actual.map .str)
  let expected ← sortedIds (idsUnder records status)
  return errorUnless (Value.pyEqList sorted expected) location
    s!"{location} is not consistent with availability_records"

def linkIssues (record : CapabilityResolutionRecord) :
    Option CapabilitySnapshot → List CapabilityValidationIssue
  | none => []
  | some snapshot =>
    errorUnless (record.outputSnapshotId = snapshot.snapshotId) "output_snapshot_id"
        "record snapshot id does not match snapshot" ++
      errorUnless (record.outputCapabilityDigest = snapshot.capabilityDigest)
        "output_capability_digest" "record digest does not match snapshot digest"

def validateResolutionRecord (record : CapabilityResolutionRecord)
    (snapshot : Option CapabilitySnapshot) : Except PyExc CapabilityValidationResult :=
  let records := record.availabilityRecords
  match (records.map statusText).find? fun s => !statusTexts.contains s with
  | some unknown => .error (keyError unknown)
  | none => do
    let enabled ← consistencyIssues records "enabled_capability_ids" record.enabledCapabilityIds
      .enabled
    let disabled ← consistencyIssues records "disabled_capability_ids"
      record.disabledCapabilityIds .disabled
    let unavailable ← consistencyIssues records "unavailable_capability_ids"
      record.unavailableCapabilityIds .unavailable
    let placeholder ← consistencyIssues records "placeholder_capability_ids"
      record.placeholderCapabilityIds .placeholder
    let deprecated ← consistencyIssues records "deprecated_capability_ids"
      record.deprecatedCapabilityIds .deprecated
    return resultOf (linkIssues record snapshot ++ enabled ++ disabled ++ unavailable ++
      placeholder ++ deprecated)

end Records

end SthBoring.Capability.CapabilityValidator
