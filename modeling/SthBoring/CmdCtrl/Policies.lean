/- Module: SthBoring/CmdCtrl/Policies
   source: sdk_test_agent/cmd_ctrl/policies.py
   digest: Which command lines the inspect policy accepts. -/

import Mathlib.Data.List.Infix
import SthBoring.Lib.PyValue

set_option autoImplicit false
set_option relaxedAutoImplicit false

namespace SthBoring.CmdCtrl.Policies

open SthBoring.Lib.PyValue (PyExc joinWith)

def policyViolationError (message : String) : PyExc :=
  ⟨"PolicyViolationError", ["CommandControlError", "Exception"], message⟩

structure InspectPolicy where
  allowedBinaries : List String
  interactive : List String
  denyTokens : List String

def defaultBinaries : List String :=
  ["pwd", "ls", "find", "cat", "tail", "head", "grep", "env", "python", "pip", "which", "java",
    "mvn", "gradle"]

/-- `InspectPolicy(allowed_binaries)`. An empty set counts as none given. -/
def InspectPolicy.init (allowedBinaries : Option (List String)) : InspectPolicy where
  allowedBinaries := match allowedBinaries with
    | some (binary :: binaries) => binary :: binaries
    | _ => defaultBinaries
  interactive := ["vi", "vim", "nano", "top", "less", "more", "bash", "sh"]
  denyTokens := ["rm", "mv", "chmod", "chown", "-i", "--in-place"]

/-- `if condition: raise PolicyViolationError(message)`. -/
def refuseIf (condition : Bool) (message : String) : Except PyExc Unit :=
  if condition then .error (policyViolationError message) else .ok ()

/-- `part in text`. -/
def containsText (part text : String) : Bool := decide (part.toList <:+: text.toList)

/-- The one line that is allowed of each build tool. -/
def onlyLine : String → Option (List String)
  | "java" => some ["java", "-version"]
  | "mvn" => some ["mvn", "-v"]
  | "gradle" => some ["gradle", "-v"]
  | _ => none

def validateBuildTool (binName : String) (argv : List String) : Except PyExc Unit :=
  match onlyLine binName with
  | none => .ok ()
  | some allowed =>
    let line := joinWith " " allowed
    refuseIf (argv != allowed) s!"{binName} inspect only allows {line}"

def validateArgv (policy : InspectPolicy) : List String → Except PyExc Unit
  | [] => .error (policyViolationError "inspect argv cannot be empty")
  | binName :: args => do
    let argv := binName :: args
    refuseIf (policy.interactive.contains binName) s!"interactive binary not allowed: {binName}"
    refuseIf (!policy.allowedBinaries.contains binName) s!"binary not allowed for inspect: {binName}"
    refuseIf (policy.denyTokens.any argv.contains)
      "mutating or risky token not allowed in inspect command"
    refuseIf (containsText " rm " (" " ++ joinWith " " argv ++ " "))
      "potentially destructive command pattern detected"
    refuseIf (binName == "python" &&
        !([["python", "-V"], ["python", "--version"], ["python", "-m", "pip", "list"]].contains argv))
      "python inspect only allows version and pip list checks"
    refuseIf (binName == "pip" && !([["pip", "list"], ["pip", "-V"], ["pip", "--version"]].contains argv))
      "pip inspect only allows \x60pip list\x60 or \x60pip -V\x60"
    refuseIf (binName == "which" && argv.length != 2) "which inspect expects one target"
    validateBuildTool binName argv

example : (validateArgv (.init none) ["tail", "-n", "20", "/workspace/app.log"]).isOk = true := by
  decide +kernel

example : validateArgv (.init none) ["vi", "x.py"] =
      .error (policyViolationError "interactive binary not allowed: vi") ∧
    validateArgv (.init none) ["rm", "-rf", "/tmp/x"] =
      .error (policyViolationError "binary not allowed for inspect: rm") :=
  ⟨rfl, rfl⟩

theorem refuseIf_bind_eq_ok {condition : Bool} {message : String} {next : Unit → Except PyExc Unit} :
    (refuseIf condition message >>= next) = .ok () ↔ condition = false ∧ next () = .ok () := by
  cases condition with
  | false => exact (and_iff_right rfl).symm
  | true => exact ⟨fun h => (by cases h), fun h => (by cases h.1)⟩

/-- An accepted line is led by one of the allowed binaries. -/
theorem head_of_validateArgv {policy : InspectPolicy} {argv : List String}
    (accepted : validateArgv policy argv = .ok ()) :
    ∀ program ∈ argv.head?, program ∈ policy.allowedBinaries := by
  cases argv with
  | nil => cases accepted
  | cons binName args =>
    rw [validateArgv] at accepted
    obtain ⟨-, accepted⟩ := refuseIf_bind_eq_ok.mp accepted
    obtain ⟨allowed, -⟩ := refuseIf_bind_eq_ok.mp accepted
    intro program first
    rw [List.head?_cons, Option.mem_some_iff] at first
    rw [← first]
    simpa using allowed

end SthBoring.CmdCtrl.Policies
