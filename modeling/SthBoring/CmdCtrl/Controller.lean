/- Module: SthBoring/CmdCtrl/Controller
   source: sdk_test_agent/cmd_ctrl/controller.py, dispatcher.py, policies.py, cmd_ctrl_errors.py
   digest: How an action gets to its operator, and what comes back. -/

import SthBoring.Lib.NormPath
import SthBoring.CmdCtrl.Policies
import SthBoring.Execution.StepUtils

set_option autoImplicit false
set_option relaxedAutoImplicit false

namespace SthBoring.CmdCtrl.Controller

universe u

open SthBoring.Lib.Effect (Computation)
open SthBoring.Lib.NormPath (normpath lstripSlash)
open SthBoring.Lib.OrderedDict (PyDict)
open SthBoring.Lib.PyObject (jsonableFields)
open SthBoring.Lib.PyValue
open SthBoring.CmdCtrl.Policies (refuseIf)

variable {S : Type u}

def commandControlError (className message : String) : PyExc :=
  ⟨className, ["CommandControlError", "Exception"], message⟩

def actionDispatchError (action : Value) : PyExc :=
  commandControlError "ActionDispatchError" s!"unknown action: {action.text}"

section Policies

/-- `action in names`, for a set of names. -/
def memberOf (action : Value) (names : List String) : Except PyExc Bool :=
  if action.hashable then .ok (names.any fun name => action.pyEq (.str name))
  else .error (typeError s!"unhashable type: '{action.typeName}'")

structure ActionPolicy where
  allowedActions : List String

def ActionPolicy.validateAction (policy : ActionPolicy) (action : Value) : Except PyExc Unit := do
  let allowed ← memberOf action policy.allowedActions
  refuseIf (!allowed) s!"action not allowed: {action.text}"

/-- The working directory is kept, and not looked at. -/
structure PathPolicy where
  workdir : String := "/workspace"

/-- What `normpath(path).lstrip("/")` takes for a path. -/
def pathText : Value → Except PyExc String
  | .str path => .ok path
  | .bytes _ => .error (typeError "a bytes-like object is required, not 'str'")
  | v => .error (typeError s!"expected str, bytes or os.PathLike object, not {v.typeName}")

def PathPolicy.validateRelativePath (_ : PathPolicy) (path : Value) : Except PyExc Unit := do
  let text ← pathText path
  refuseIf ("..".toList.isPrefixOf (lstripSlash (normpath text)).toList) "path escapes workdir"

end Policies

/-- `run`, over the state of the sandbox that it is given. -/
abbrev Operator (S : Type u) : Type u := Fields → Computation S PyExc Fields

structure ActionDispatcher (S : Type u) where
  operators : PyDict String (Operator S)

/-- `self.operators.get(action)`. -/
def ActionDispatcher.operatorFor (dispatcher : ActionDispatcher S) (action : Value) :
    Except PyExc (Operator S) :=
  match action with
  | .str name =>
    match dispatcher.operators.get name with
    | some op => .ok op
    | none => .error (actionDispatchError action)
  | v =>
    if v.hashable then .error (actionDispatchError v)
    else .error (typeError s!"unhashable type: '{v.typeName}'")

def ActionDispatcher.dispatch (dispatcher : ActionDispatcher S) (action : Value) : Operator S :=
  fun payload =>
    match dispatcher.operatorFor action with
    | .ok op => op payload
    | .error exc => Computation.raise exc

structure CommandController (S : Type u) where
  dispatcher : ActionDispatcher S
  actionPolicy : Option ActionPolicy := none
  pathPolicy : Option PathPolicy := none

namespace CommandController

def checkAction (c : CommandController S) (action : Value) : Except PyExc Unit :=
  match c.actionPolicy with
  | some policy => policy.validateAction action
  | none => .ok ()

/-- Only the actions that move files have a path. -/
def checkPath (c : CommandController S) (action : Value) (payload : Fields) : Except PyExc Unit :=
  match c.pathPolicy with
  | some policy => do
    let named ← memberOf action ["write_file", "collect_artifacts"]
    if named then policy.validateRelativePath ((payload.get "path").getD (.str "")) else .ok ()
  | none => .ok ()

/-- What is checked before an action is dispatched. -/
def checkPolicies (c : CommandController S) (action : Value) (payload : Fields) :
    Except PyExc Unit := do
  c.checkAction action
  c.checkPath action payload

/-- The `except` clauses: errors of the package stay as they are, the guard's among them. -/
def reraised (action : Value) (exc : PyExc) : PyExc :=
  if exc.isInstance "CommandControlError" then exc
  else if exc.isInstance "Exception" then
    commandControlError "OperatorExecutionError" s!"action={action.text} failed: {exc.message}"
  else exc

/-- `asdict(ActionResponse(ok=True, action=action, data=data))`. -/
def actionResponse (action : Value) (data : Fields) : Fields :=
  [("ok", .bool true), ("action", action), ("data", .dict (jsonableFields data)), ("error", .null)]

def executeAction (c : CommandController S) (action : Value) : Operator S := fun payload =>
  Computation.mapError (reraised action) do
    Computation.lift (c.checkPolicies action payload)
    let data ← c.dispatcher.dispatch action payload
    return actionResponse action data

/-- The controller as an execution sees it. -/
def service (c : CommandController S) : Execution.Models.CommandController S where
  executeAction := c.executeAction

/-- An action that passes and has an operator does to the sandbox what the operator does. -/
theorem executeAction_state {c : CommandController S} {action : Value} {payload : Fields}
    {op : Operator S} (passes : c.checkPolicies action payload = .ok ())
    (found : c.dispatcher.operatorFor action = .ok op) (s : S) :
    (c.executeAction action payload s).2 = (op payload s).2 := by
  have checked : (Computation.lift (c.checkPolicies action payload) : Computation S PyExc Unit) s =
      (.ok (), s) := by
    rw [passes]
    rfl
  have dispatched : c.dispatcher.dispatch action payload s = op payload s := by
    unfold ActionDispatcher.dispatch
    rw [found]
  unfold executeAction Computation.mapError
  dsimp only
  rw [Computation.bind_of_ok checked]
  rcases ran : op payload s with ⟨exc | data, s'⟩
  · rw [Computation.bind_of_error (dispatched.trans ran)]
  · rw [Computation.bind_of_ok (dispatched.trans ran)]
    rfl

section Unknown

/-- A policy does not complain of the dispatcher. -/
theorem className_of_refuseIf {condition : Bool} {message : String} {exc : PyExc}
    (refused : refuseIf condition message = .error exc) :
    exc.className ≠ "ActionDispatchError" := by
  unfold refuseIf at refused
  split at refused
  · cases refused
    exact (by decide : "PolicyViolationError" ≠ "ActionDispatchError")
  · cases refused

theorem className_of_memberOf {action : Value} {names : List String} {exc : PyExc}
    (raised : memberOf action names = .error exc) : exc.className ≠ "ActionDispatchError" := by
  unfold memberOf at raised
  split at raised
  · cases raised
  · cases raised
    exact (by decide : "TypeError" ≠ "ActionDispatchError")

theorem className_of_checkAction {c : CommandController S} {action : Value} {exc : PyExc}
    (refused : c.checkAction action = .error exc) : exc.className ≠ "ActionDispatchError" := by
  unfold checkAction at refused
  cases configured : c.actionPolicy with
  | none =>
    rw [configured] at refused
    cases refused
  | some policy =>
    rw [configured] at refused
    dsimp only [ActionPolicy.validateAction] at refused
    cases allowed : memberOf action policy.allowedActions with
    | error exc' =>
      rw [allowed] at refused
      cases refused
      exact className_of_memberOf allowed
    | ok known =>
      rw [allowed] at refused
      exact className_of_refuseIf refused

/-- Only the file actions are checked for more than the action itself. -/
theorem checkPolicies_eq_checkAction {c : CommandController S} {action : Value}
    (noPath : memberOf action ["write_file", "collect_artifacts"] = .ok false) (payload : Fields) :
    c.checkPolicies action payload = c.checkAction action := by
  have path : c.checkPath action payload = .ok () := by
    unfold checkPath
    cases c.pathPolicy with
    | none => rfl
    | some policy =>
      dsimp only
      rw [noPath]
      rfl
  unfold checkPolicies
  rw [path]
  cases c.checkAction action with
  | error exc => rfl
  | ok passed => rfl

/-- An action without an operator is reported as such exactly when the policies let it pass. -/
theorem executeAction_unknown_iff {c : CommandController S} {action : Value}
    (noPath : memberOf action ["write_file", "collect_artifacts"] = .ok false)
    (unknown : c.dispatcher.operatorFor action = .error (actionDispatchError action))
    (payload : Fields) (s : S) :
    (c.executeAction action payload s).1 = .error (actionDispatchError action) ↔
      c.checkAction action = .ok () := by
  have dispatched : c.dispatcher.dispatch action payload s =
      (.error (actionDispatchError action), s) := by
    unfold ActionDispatcher.dispatch
    rw [unknown]
    rfl
  unfold executeAction Computation.mapError
  dsimp only
  rw [checkPolicies_eq_checkAction noPath]
  cases checked : c.checkAction action with
  | ok passed =>
    rw [Computation.lift_bind rfl, Computation.bind_of_error dispatched]
    exact ⟨fun _ => rfl, fun _ => rfl⟩
  | error exc =>
    refine ⟨fun same => ?_, fun impossible => by cases impossible⟩
    have other := className_of_checkAction checked
    have raised : reraised action exc = actionDispatchError action := Except.error.inj same
    unfold reraised at raised
    split at raised
    · exact absurd (congrArg PyExc.className raised) other
    · split at raised
      · have names := congrArg PyExc.className raised
        exact absurd names (by decide : "OperatorExecutionError" ≠ "ActionDispatchError")
      · exact absurd (congrArg PyExc.className raised) other

end Unknown

end CommandController

end SthBoring.CmdCtrl.Controller
