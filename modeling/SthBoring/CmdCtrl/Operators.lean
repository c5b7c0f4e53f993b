/- Module: SthBoring/CmdCtrl/Operators
   source: sdk_test_agent/cmd_ctrl/operator.py
   digest: The operator that runs inspection commands in a Docker sandbox. -/

import SthBoring.Lib.UrlParse
import SthBoring.CmdCtrl.Controller
import SthBoring.Sandbox.SandboxLife

set_option autoImplicit false
set_option relaxedAutoImplicit false

namespace SthBoring.CmdCtrl.Operators

universe u

open SthBoring.Lib.Effect (Computation)
open SthBoring.Lib.PyValue
open SthBoring.Lib.UrlParse (decodeUtf8)
open SthBoring.CmdCtrl.Controller (Operator)
open SthBoring.CmdCtrl.Policies
open SthBoring.Docker.DriverModels (DockerDriver ExecResult)
open SthBoring.Sandbox.SandboxLife (Session SandboxSpec ExecSpec)

variable {σ : Type u}

section Results

/-- `data.decode("utf-8", errors="replace") if data else None`. -/
def decoded (data : Option ByteArray) : Value :=
  match data with
  | none => .null
  | some bytes =>
    if bytes.size = 0 then .null
    else .str (String.ofList (decodeUtf8 none (bytes.toList.map UInt8.toNat)))

def execToDict (result : ExecResult) : Fields :=
  [("exit_code", match result.exitCode with | some code => .int code | none => .null),
    ("stdout", decoded result.stdout), ("stderr", decoded result.stderr),
    ("combined", decoded result.combined), ("duration_sec", .float result.durationSec),
    ("timed_out", .bool result.timedOut), ("meta", .dict result.metaFields)]

end Results

section Payloads

/-- What a payload says of a command. -/
structure GivenSpec where
  argv : Value
  workdir : Value
  timeoutSec : Value

def payloadToExecSpec (payload : Fields) : GivenSpec where
  argv := (payload.get "argv").getD (.list [])
  workdir := payload.getD "workdir"
  timeoutSec := payload.getD "timeout_sec"

/-- The words behind the first one, which `" ".join` takes. -/
def wordsFrom (position : ℕ) : List Value → Except PyExc (List String)
  | [] => .ok []
  | .str word :: words => do
    let rest ← wordsFrom (position + 1) words
    return word :: rest
  | v :: _ => .error (typeError
      s!"sequence item {position}: expected str instance, {v.typeName} found")

/-- A first word that is no text is no allowed binary. -/
def refusedBinary (v : Value) : PyExc :=
  if v.hashable then policyViolationError s!"binary not allowed for inspect: {v.text}"
  else typeError s!"unhashable type: '{v.typeName}'"

/-- The words that `validate_argv` looks at, or what it raises for an argv that is no list of
texts. No binary has a name of one letter. -/
def wordsOf (policy : InspectPolicy) : Value → Except PyExc (List String)
  | .list (.str binName :: args) => do
    refuseIf (policy.interactive.contains binName) s!"interactive binary not allowed: {binName}"
    refuseIf (!policy.allowedBinaries.contains binName) s!"binary not allowed for inspect: {binName}"
    let rest ← wordsFrom 1 args
    return binName :: rest
  | .list (v :: _) => .error (refusedBinary v)
  | .str text =>
    if text = "" then .ok [] else .error (refusedBinary (.str (String.ofList (text.toList.take 1))))
  | v =>
    if !v.truthy then .ok []
    else match v with
      | .bytes bytes => .error (refusedBinary (.int (bytes.toList.headD 0).toNat))
      | .dict _ => .error ⟨"KeyError", ["LookupError", "Exception"], "0"⟩
      | v => .error (typeError s!"'{v.typeName}' object is not subscriptable")

/-- A directory that is false in Python counts as none; a driver takes texts only. -/
def workdirOf (v : Value) : Except PyExc (Option String) :=
  if !v.truthy then .ok none
  else match v with
    | .str workdir => .ok (some workdir)
    | v => .error (typeError s!"expected str, not {v.typeName}")

/-- A driver takes whole numbers only, and booleans are numbers. -/
def timeoutOf : Value → Except PyExc (Option ℤ)
  | .null => .ok none
  | .int n => .ok (some n)
  | .bool b => .ok (some (if b then 1 else 0))
  | v => .error (typeError s!"expected int, not {v.typeName}")

end Payloads

/-- `InspectExecOperator`. -/
def inspectExec (policy : InspectPolicy) (spec : SandboxSpec) (driver : DockerDriver σ) :
    Operator (Session σ) := fun payload => do
  let given := payloadToExecSpec payload
  let argv ← Computation.lift (wordsOf policy given.argv)
  Computation.lift (validateArgv policy argv)
  let workdir ← Computation.lift (workdirOf given.workdir)
  let timeoutSec ← Computation.lift (timeoutOf given.timeoutSec)
  let result ← Sandbox.SandboxLife.exec spec driver { argv := argv, workdir := workdir } timeoutSec
  return execToDict result

section Words

theorem wordsFrom_strings (words : List String) (position : ℕ) :
    wordsFrom position (words.map .str) = .ok words := by
  induction words generalizing position with
  | nil => rfl
  | cons word words ih => rw [List.map_cons, wordsFrom, ih]; rfl

/-- An accepted line is passed on as it is. -/
theorem wordsOf_accepted {policy : InspectPolicy} {argv : List String}
    (accepted : validateArgv policy argv = .ok ()) :
    wordsOf policy (.list (argv.map .str)) = .ok argv := by
  cases argv with
  | nil => rfl
  | cons binName args =>
    rw [validateArgv] at accepted
    obtain ⟨plain, accepted⟩ := refuseIf_bind_eq_ok.mp accepted
    obtain ⟨allowed, -⟩ := refuseIf_bind_eq_ok.mp accepted
    rw [List.map_cons, wordsOf, plain, allowed, wordsFrom_strings]
    rfl

end Words

end SthBoring.CmdCtrl.Operators
