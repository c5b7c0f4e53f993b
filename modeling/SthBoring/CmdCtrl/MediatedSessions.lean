/- Module: SthBoring/CmdCtrl/MediatedSessions
   source: sdk_test_agent/cmd_ctrl/controller.py, dispatcher.py, operator.py, policies.py,
     sandbox/python/docker_sandbox.py
   digest: Whatever a session is asked for, its driver only gets what an operator was admitted for. -/

import SthBoring.CmdCtrl.OperatorTable
import SthBoring.Lib.Written
import SthBoring.Sandbox.LiveContainers

set_option autoImplicit false
set_option relaxedAutoImplicit false

namespace SthBoring.CmdCtrl.MediatedSessions

universe u

open SthBoring.Lib.Effect (Computation Triple Keeps)
open SthBoring.Lib.NormPath (lstripSlash)
open SthBoring.Lib.PyValue
open SthBoring.Lib.Written
open SthBoring.CmdCtrl.Controller
open SthBoring.CmdCtrl.Controller.CommandController (actionResponse reraised)
open SthBoring.CmdCtrl.OperatorTable
open SthBoring.CmdCtrl.Operators
open SthBoring.CmdCtrl.Policies
open SthBoring.Docker.DriverModels
open SthBoring.Sandbox.DockerSandbox (TarArchive packTextFile requireRunning safeJoin)
open SthBoring.Sandbox.LiveContainers
open SthBoring.Sandbox.SandboxLife

attribute [local irreducible] Sandbox.DockerSandbox.safeJoin

variable {σ : Type u} {α : Type}

/-- The calls that the driver of a session has got. -/
def callsOf (s : Session (Ledger σ)) : List DriverCall := s.world.calls

/-- One call, if there is one. -/
def AtMost (P : DriverCall → Prop) (calls : List DriverCall) : Prop :=
  calls = [] ∨ ∃ call, calls = [call] ∧ P call

section Admission

/-- What the driver may be asked for when an operator gets a payload. -/
def Admitted (spec : SandboxSpec) (payload : Fields) : OperatorKind σ → DriverCall → Prop
  | .installSdk, .exec command _ _ => ["python", "-m", "pip", "install"] <+: command.argv
  | .writeFile, .putArchive _ dest data _ => ∃ path content full,
      payload.get "path" = some (.str path) ∧ payload.get "content" = some (.str content) ∧
        safeJoin spec.workdir path = .ok full ∧ dest = "/" ∧
        data = packTextFile (lstripSlash full) content
  | .runPython, .exec command _ _ => ["python"] <+: command.argv
  | .runPytest, .exec command _ _ => ["python", "-m", "pytest"] <+: command.argv
  | .collectArtifacts, .getArchive _ full _ => ∃ path,
      (payload.get "path").getD (.str ".") = .str path ∧ safeJoin spec.workdir path = .ok full
  | .inspectExec policy, .exec command _ _ => validateArgv policy command.argv = .ok () ∧
      payload.get "argv" = some (.list (command.argv.map .str))
  | .guardedExec guard, .exec command _ _ => ∃ w w' decision,
      guard (.list (command.argv.map .str)) payload w = (.ok decision, w') ∧
        guardError decision = none ∧
        (payload.get "argv").getD (.list []) = .list (command.argv.map .str)
  | _, _ => False

/-- What a session is opened with. -/
def Opens (spec : SandboxSpec) : DriverCall → Prop
  | .ensureImage image policy _ => image = spec.image ∧ policy = spec.pullPolicy
  | .createContainer made _ => made = containerCreateSpec spec
  | .startContainer _ _ => True
  | .exec command _ _ => command.argv = ["mkdir", "-p", spec.workdir]
  | .inspectContainer _ _ => True
  | _ => False

def Closes : DriverCall → Prop
  | .stopContainer _ timeoutSec _ => timeoutSec = 10
  | .removeContainer _ force removeVolumes _ => force = false ∧ removeVolumes = false
  | .inspectContainer _ _ => True
  | _ => False

/-- What a call of the controller may ask of the driver. An action asks for one thing at most, and
for none unless its operator is there and the policies let it pass. -/
def SegmentOf (c : SessionTable σ) (spec : SandboxSpec) (driver : DockerDriver σ) :
    SessionCall → List DriverCall → Prop
  | .openSession, calls => ∀ call ∈ calls, Opens spec call
  | .executeAction action payload, calls =>
    AtMost (fun call => ∃ name kind, action = .str name ∧ c.table.get name = some kind ∧
      (c.controller spec driver).checkPolicies action payload = .ok () ∧
      Admitted spec payload kind call) calls
  | .closeSession, calls => ∀ call ∈ calls, Closes call

end Admission

section Rules

variable {P Q : DriverCall → Prop}

theorem AtMost.none : AtMost P [] := .inl rfl

theorem AtMost.imp (weaker : ∀ call, P call → Q call) {calls : List DriverCall}
    (h : AtMost P calls) : AtMost Q calls := by
  rcases h with rfl | ⟨call, rfl, own⟩
  · exact .none
  · exact .inr ⟨call, rfl, weaker call own⟩

theorem AtMost.all {calls : List DriverCall} (h : AtMost P calls) : ∀ call ∈ calls, P call := by
  rcases h with rfl | ⟨call, rfl, own⟩
  · exact List.forall_mem_nil P
  · exact List.forall_mem_singleton.mpr own

theorem writes_entered {entry : Except PyExc α → DriverCall} {m : Computation σ PyExc α}
    (own : ∀ answer, P (entry answer)) : Writes Ledger.calls (entered entry m) (AtMost P) :=
  fun s => ⟨[entry (m s.world).1], rfl, .inr ⟨_, rfl, own _⟩⟩

theorem writes_calling {m : Computation (Ledger σ) PyExc α} {W : List DriverCall → Prop}
    (h : Writes Ledger.calls m W) : Writes callsOf (calling m) W := fun s => h s.world

theorem silent_calling {m : Computation (Ledger σ) PyExc α} (h : Silent Ledger.calls m) :
    Silent callsOf (calling m) := fun s => h s.world

theorem writes_asIs {spec : SandboxSpec}
    {m : Sandbox.DockerSandbox.DockerPythonSandbox → Computation (Ledger σ) PyExc α}
    {W : List DriverCall → Prop}
    (h : ∀ s : Session (Ledger σ), Writes Ledger.calls (m (s.sandbox spec)) W) :
    Writes callsOf (asIs m spec) W := fun s => h s s.world

theorem silent_setStatus (status : Sandbox.DockerSandbox.SandboxStatus) :
    Silent callsOf (setStatus status : InSession (Ledger σ) Unit) := fun _ => rfl

theorem silent_running (spec : SandboxSpec) :
    Silent callsOf (running spec : InSession (Ledger σ) String) :=
  Silent.bind (Silent.read _) (fun _ => Silent.lift _)

end Rules

section Methods

variable (spec : SandboxSpec) (driver : DockerDriver σ)

theorem writes_exec (command : ExecSpec) (timeoutSec : Option ℤ) :
    Writes callsOf (exec spec (recorded driver) command timeoutSec)
      (AtMost fun call => ∃ containerId answer,
        call = .exec (execCreateSpec spec command containerId) timeoutSec answer) := by
  refine writes_asIs (fun s => ?_)
  exact Writes.after_lift .none (fun id _ => writes_entered (fun answer => ⟨id, answer, rfl⟩))

theorem writes_putText (path content : String) :
    Writes callsOf (putText spec (recorded driver) path content)
      (AtMost fun call => ∃ full containerId answer, safeJoin spec.workdir path = .ok full ∧
        call = .putArchive containerId "/" (packTextFile (lstripSlash full) content) answer) := by
  refine writes_asIs (fun s => ?_)
  refine Writes.after_lift .none (fun full joined => Writes.after_lift .none (fun id _ => ?_))
  exact writes_entered (fun answer => ⟨full, id, answer, joined, rfl⟩)

theorem writes_getArchive (path : String) :
    Writes callsOf (getArchive spec (recorded driver) path)
      (AtMost fun call => ∃ full containerId answer, safeJoin spec.workdir path = .ok full ∧
        call = .getArchive containerId full answer) := by
  refine writes_asIs (fun s => ?_)
  refine Writes.after_lift .none (fun id _ => Writes.after_lift .none (fun full joined => ?_))
  exact writes_entered (fun answer => ⟨full, id, answer, joined, rfl⟩)

theorem writes_snapshot : Writes callsOf (snapshot spec (recorded driver))
    (AtMost fun call => ∃ containerId answer, call = .inspectContainer containerId answer) := by
  refine Writes.after (Silent.read _) .none (fun _ => ?_)
  refine Writes.after (Silent.read _) .none (fun containerId => ?_)
  refine Writes.before ?_ (fun _ => Silent.bind (Silent.read _) (fun _ => Silent.pure _))
  unfold containerAttrs
  split
  · exact Writes.silent (Silent.pure _) .none
  · exact Writes.silent (Silent.pure _) .none
  · rename_i id _
    refine Writes.before (Writes.outcome (writes_calling ?_)) (fun _ => Silent.lift _)
    exact writes_entered (fun answer => ⟨id, answer, rfl⟩)

end Methods

section Words

theorem textsOf_eq {vs : List Value} {words : List String} (read : textsOf vs = .ok words) :
    vs = words.map .str := by
  induction vs generalizing words with
  | nil =>
    cases read
    rfl
  | cons v vs ih =>
    cases v with
    | str word =>
      obtain ⟨rest, more, same⟩ := bind_eq_ok.mp read
      cases same
      rw [ih more, List.map_cons]
    | _ => cases read

theorem argvOf_eq {v : Value} {argv : List String} (read : argvOf v = .ok argv) :
    v = .list (argv.map .str) := by
  cases v with
  | list words => rw [textsOf_eq read]
  | _ => cases read

theorem wordsFrom_eq {position : ℕ} {vs : List Value} {words : List String}
    (read : wordsFrom position vs = .ok words) : vs = words.map .str := by
  induction vs generalizing position words with
  | nil =>
    cases read
    rfl
  | cons v vs ih =>
    cases v with
    | str word =>
      obtain ⟨rest, more, same⟩ := bind_eq_ok.mp read
      cases same
      rw [ih more, List.map_cons]
    | _ => cases read

/-- The line that is looked at is the one of the payload. -/
theorem wordsOf_eq {policy : InspectPolicy} {v : Value} {argv : List String}
    (read : wordsOf policy v = .ok argv) (accepted : validateArgv policy argv = .ok ()) :
    v = .list (argv.map .str) := by
  have some : argv ≠ [] := by
    rintro rfl
    cases accepted
  unfold wordsOf at read
  split at read
  · obtain ⟨-, -, read⟩ := bind_eq_ok.mp read
    obtain ⟨-, -, read⟩ := bind_eq_ok.mp read
    obtain ⟨rest, more, same⟩ := bind_eq_ok.mp read
    cases same
    rw [wordsFrom_eq more, List.map_cons]
  · cases read
  · split at read
    · cases read
      exact absurd rfl some
    · cases read
  · split at read
    · cases read
      exact absurd rfl some
    · split at read <;> cases read

theorem installArgs_eq {payload : Fields} {args : List Value}
    (read : installArgs payload = .ok args) : ∃ rest, args = .str "install" :: rest := by
  unfold installArgs at read
  dsimp only at read
  split_ifs at read <;> cases read <;> exact ⟨_, rfl⟩

end Words

section Operators

variable (spec : SandboxSpec) (driver : DockerDriver σ) {P : DriverCall → Prop}

theorem writes_runWords {command : List String → InSession (Ledger σ) ExecResult}
    {argv : List Value}
    (h : ∀ words, argv = words.map .str → Writes callsOf (command words) (AtMost P)) :
    Writes callsOf (runWords spec command argv) (AtMost P) := by
  refine Writes.after (silent_running spec) .none (fun _ => ?_)
  refine Writes.after_lift .none (fun words read => ?_)
  exact Writes.before (h words (textsOf_eq read)) (fun _ => Silent.pure _)

/-- An execution is admitted when its line is. -/
theorem writes_exec_of {command : ExecSpec} {timeoutSec : Option ℤ}
    (own : ∀ containerId answer,
      P (.exec (execCreateSpec spec command containerId) timeoutSec answer)) :
    Writes callsOf (exec spec (recorded driver) command timeoutSec) (AtMost P) := by
  refine Writes.imp (writes_exec spec driver command timeoutSec) (fun _ => AtMost.imp ?_)
  rintro _ ⟨id, answer, rfl⟩
  exact own id answer

theorem writes_inspectExec (policy : InspectPolicy) (payload : Fields) :
    Writes callsOf (inspectExec policy spec (recorded driver) payload)
      (AtMost (Admitted (σ := σ) spec payload (.inspectExec policy))) := by
  unfold inspectExec
  refine Writes.after_lift .none (fun argv read => Writes.after_lift .none (fun _ accepted => ?_))
  refine Writes.after_lift .none (fun workdir _ => Writes.after_lift .none (fun timeoutSec _ => ?_))
  refine Writes.before (writes_exec_of spec driver (fun id answer => ⟨accepted, ?_⟩))
    (fun _ => Silent.pure _)
  have shown := wordsOf_eq read accepted
  cases given : payload.get "argv" with
  | some v =>
    rw [payloadToExecSpec, given] at shown
    exact congrArg some shown
  | none =>
    rw [payloadToExecSpec, given] at shown
    cases argv with
    | nil => cases accepted
    | cons word words => cases shown

theorem writes_guardedExec (guard : CommandGuard σ) (payload : Fields) :
    Writes callsOf (guardedExec spec (recorded driver) (unrecorded guard) payload)
      (AtMost (Admitted spec payload (.guardedExec guard))) := by
  have asks : Silent callsOf
      (calling (unrecorded guard (payloadToExecSpec payload).argv payload)) := fun _ => rfl
  refine Writes.after_returned asks .none (fun decision s s' asked => ?_)
  have answered : guard (payloadToExecSpec payload).argv payload s.world.world =
      (.ok decision, s'.world.world) := by
    have outcome := congrArg Prod.fst asked
    have left := congrArg (fun r => r.2.world.world) asked
    exact Prod.ext outcome left
  cases verdict : guardError decision with
  | some exc => exact Writes.silent (Silent.raise exc) .none
  | none =>
    refine Writes.after (silent_running spec) .none (fun _ => ?_)
    refine Writes.after_lift .none (fun argv read => Writes.after_lift .none (fun workdir _ => ?_))
    refine Writes.after_lift .none (fun timeoutSec _ => ?_)
    refine Writes.before (writes_exec_of spec driver (fun id answer => ?_)) (fun _ => Silent.pure _)
    have shown : (payloadToExecSpec payload).argv = .list (argv.map .str) := argvOf_eq read
    exact ⟨_, _, decision, shown ▸ answered, verdict, shown⟩

theorem subscript_eq {payload : Fields} {key : String} {v : Value}
    (found : (Value.dict payload).subscript key = .ok v) : payload.get key = some v := by
  unfold Value.subscript at found
  dsimp only at found
  split at found
  · rename_i w there
    cases found
    exact there
  · cases found

theorem pathText_eq {v : Value} {path : String} (read : pathText v = .ok path) : v = .str path := by
  cases v with
  | str path' =>
    cases read
    rfl
  | _ => cases read

theorem writes_run (kind : OperatorKind σ) (payload : Fields) :
    Writes callsOf (kind.recorded.run spec (recorded driver) payload)
      (AtMost (Admitted spec payload kind)) := by
  cases kind with
  | installSdk =>
    refine Writes.after_lift .none (fun args read => writes_runWords spec (fun words same => ?_))
    obtain ⟨rest, rfl⟩ := installArgs_eq read
    refine writes_exec_of spec driver (fun id answer => ?_)
    cases words with
    | nil => cases same
    | cons word words =>
      cases same
      exact ⟨words, rfl⟩
  | writeFile =>
    refine Writes.after_lift .none (fun path named => Writes.after_lift .none (fun content said => ?_))
    refine Writes.after_lift .none (fun name read => ?_)
    cases content with
    | str text =>
      refine Writes.before ?_ (fun _ => Silent.pure _)
      refine Writes.imp (writes_putText spec driver name text) (fun _ => AtMost.imp ?_)
      rintro _ ⟨full, id, answer, joined, rfl⟩
      exact ⟨name, text, full, pathText_eq read ▸ subscript_eq named, subscript_eq said, joined, rfl,
        rfl⟩
    | _ => exact Writes.after_lift .none (fun _ _ => Writes.silent (Silent.raise _) .none)
  | runPython =>
    refine Writes.after_lift .none (fun args _ => writes_runWords spec (fun words _ => ?_))
    exact writes_exec_of spec driver (fun id answer => ⟨words, rfl⟩)
  | runPytest =>
    refine Writes.after_lift .none (fun targets _ => Writes.after_lift .none (fun more _ => ?_))
    refine writes_runWords spec (fun words _ => ?_)
    refine writes_exec_of spec driver (fun id answer => ⟨words, ?_⟩)
    exact (List.append_nil _).symm
  | collectArtifacts =>
    refine Writes.after (silent_running spec) .none (fun _ => Writes.after_lift .none (fun name read => ?_))
    refine Writes.before ?_ (fun _ => Silent.pure _)
    refine Writes.imp (writes_getArchive spec driver name) (fun _ => AtMost.imp ?_)
    rintro _ ⟨full, id, answer, joined, rfl⟩
    exact ⟨name, pathText_eq read, joined⟩
  | inspectExec policy => exact writes_inspectExec spec driver policy payload
  | guardedExec guard => exact writes_guardedExec spec driver guard payload

end Operators

section Session

variable (spec : SandboxSpec) (driver : DockerDriver σ) (c : SessionTable σ)

/-- What is dispatched to stands in the table under the name of the action. -/
theorem operatorFor_eq {action : Value} {op : Operator (Session (Ledger σ))}
    (found : (c.recorded.controller spec (recorded driver)).dispatcher.operatorFor action = .ok op) :
    ∃ name kind, action = .str name ∧ c.table.get name = some kind ∧
      op = kind.recorded.run spec (recorded driver) := by
  unfold ActionDispatcher.operatorFor at found
  split at found
  · rename_i name
    split at found
    · rename_i op' there
      cases found
      obtain ⟨kind, listed, rfl⟩ := Option.map_eq_some_iff.mp
        ((get_operators c spec (recorded driver) name).symm.trans there)
      exact ⟨name, kind, rfl, listed, rfl⟩
    · cases found
  · split at found <;> cases found

theorem writes_executeAction (action : Value) (payload : Fields) :
    Writes callsOf ((c.recorded.controller spec (recorded driver)).executeAction action payload)
      (SegmentOf c spec driver (.executeAction action payload)) := by
  refine Writes.mapError (Writes.after_lift .none (fun _ passed => ?_)) _
  refine Writes.before ?_ (fun _ => Silent.pure _)
  unfold ActionDispatcher.dispatch
  cases found : (c.recorded.controller spec (recorded driver)).dispatcher.operatorFor action with
  | error exc => exact Writes.silent (Silent.raise exc) .none
  | ok op =>
    obtain ⟨name, kind, rfl, listed, rfl⟩ := operatorFor_eq spec driver c found
    refine Writes.imp (writes_run spec driver kind payload) (fun _ => AtMost.imp ?_)
    exact fun call own => ⟨name, kind, rfl, listed, passed, own⟩

variable {P Q : DriverCall → Prop}

theorem writes_all {m : InSession (Ledger σ) α} (h : Writes callsOf m (AtMost P))
    (own : ∀ call, P call → Q call) : Writes callsOf m (fun calls => ∀ call ∈ calls, Q call) :=
  Writes.imp h (fun _ one => (AtMost.imp own one).all)

theorem writes_nothing {m : InSession (Ledger σ) α} (h : Silent callsOf m) :
    Writes callsOf m (fun calls => ∀ call ∈ calls, Q call) :=
  Writes.silent h (List.forall_mem_nil Q)

theorem writes_snapshot_of (own : ∀ id answer, Q (.inspectContainer id answer)) :
    Writes callsOf (snapshot spec (recorded driver)) (fun calls => ∀ call ∈ calls, Q call) := by
  refine writes_all (writes_snapshot spec driver) ?_
  rintro _ ⟨id, answer, rfl⟩
  exact own id answer

theorem writes_openSession : Writes callsOf (openSession spec (recorded driver))
    (SegmentOf c spec driver .openSession) := by
  have looks : Writes callsOf (snapshot spec (recorded driver))
      (fun calls => ∀ call ∈ calls, Opens spec call) :=
    writes_snapshot_of spec driver (fun _ _ => trivial)
  have created : Writes callsOf (create spec (recorded driver))
      (fun calls => ∀ call ∈ calls, Opens spec call) :=
    Writes.each (writes_nothing (silent_setStatus _)) (fun _ => looks)
  have prepared : Writes callsOf (prepareImage spec (recorded driver))
      (fun calls => ∀ call ∈ calls, Opens spec call) := by
    refine Writes.each (writes_all (writes_calling (writes_entered (P := Opens spec) ?_)) fun _ own => own)
      (fun id => writes_nothing ?_)
    · exact fun answer => ⟨rfl, rfl⟩
    · refine Silent.bind (Silent.modify (fun _ => rfl)) (fun _ => ?_)
      exact Silent.bind (silent_setStatus _) (fun _ => Silent.pure id)
  have launched : Writes callsOf (launch spec (recorded driver))
      (fun calls => ∀ call ∈ calls, Opens spec call) := by
    refine Writes.each (writes_all (writes_calling (writes_entered (P := Opens spec) ?_)) fun _ own => own)
      (fun ref => Writes.each (writes_nothing (Silent.modify (fun _ => rfl))) (fun _ => ?_))
    · exact fun answer => rfl
    · refine Writes.each (writes_all (writes_calling (writes_entered (P := Opens spec) ?_))
        fun _ own => own) (fun _ => writes_nothing (silent_setStatus _))
      exact fun answer => trivial
  have made : Writes callsOf (exec spec (recorded driver) { argv := ["mkdir", "-p", spec.workdir] } none)
      (fun calls => ∀ call ∈ calls, Opens spec call) :=
    writes_all (writes_exec_of (P := Opens spec) spec driver (fun _ _ => rfl)) (fun _ own => own)
  have started : Writes callsOf (start spec (recorded driver))
      (fun calls => ∀ call ∈ calls, Opens spec call) := by
    refine Writes.each (writes_nothing (Silent.read _)) (fun status => ?_)
    refine Writes.each (writes_nothing (Silent.lift _)) (fun _ => ?_)
    refine Writes.each launched (fun _ => Writes.each made (fun _ => ?_))
    refine Writes.each (writes_nothing (silent_setStatus _)) (fun _ => ?_)
    exact Writes.each (writes_nothing (silent_setStatus _)) (fun _ => looks)
  refine Writes.each created (fun _ => Writes.each prepared (fun _ => ?_))
  exact Writes.each started (fun _ => writes_nothing (Silent.pure _))

theorem writes_closeSession : Writes callsOf (closeSession spec (recorded driver))
    (SegmentOf c spec driver .closeSession) := by
  have stopped : Writes callsOf (stop (recorded driver) 10)
      (fun calls => ∀ call ∈ calls, Closes call) := by
    refine Writes.each (writes_nothing (Silent.read _)) (fun containerId => ?_)
    refine Writes.each (writes_nothing (Silent.read _)) (fun status => ?_)
    split
    · exact writes_nothing (Silent.pure _)
    · split
      · exact writes_nothing (Silent.pure _)
      · refine Writes.each (writes_all (writes_calling (writes_entered (P := Closes) ?_))
          fun _ own => own) (fun _ => writes_nothing (silent_setStatus _))
        exact fun answer => rfl
  have destroyed : Writes callsOf (destroy (recorded driver) false false)
      (fun calls => ∀ call ∈ calls, Closes call) := by
    refine Writes.each (writes_nothing (Silent.read _)) (fun containerId => ?_)
    split
    · exact writes_nothing (silent_setStatus _)
    · refine Writes.each (writes_all (Writes.outcome (writes_calling
        (writes_entered (P := Closes) ?_))) fun _ own => own) (fun answer => ?_)
      · exact fun answer => ⟨rfl, rfl⟩
      · exact writes_nothing (Silent.bind (silent_setStatus _) (fun _ => Silent.lift _))
  refine Writes.each stopped (fun _ => Writes.each destroyed (fun _ => ?_))
  exact writes_snapshot_of spec driver (fun _ _ => trivial)

theorem writes_perform (call : SessionCall) :
    Writes callsOf (c.recorded.perform spec (recorded driver) call) (SegmentOf c spec driver call) := by
  cases call with
  | openSession => exact Writes.before (writes_openSession spec driver c) (fun _ => Silent.pure _)
  | executeAction action payload =>
    exact Writes.before (writes_executeAction spec driver c action payload) (fun _ => Silent.pure _)
  | closeSession => exact Writes.before (writes_closeSession spec driver c) (fun _ => Silent.pure _)

end Session

section Live

variable (spec : SandboxSpec) (driver : DockerDriver σ) (c : SessionTable σ)

theorem keeps_running : Keeps (Tracked (σ := σ)) (running spec) :=
  Keeps.bind (Keeps.read _) (fun _ => Keeps.lift _)

theorem keeps_runWords {command : List String → InSession (Ledger σ) ExecResult}
    (h : ∀ words, Keeps Tracked (command words)) (argv : List Value) :
    Keeps Tracked (runWords spec command argv) := by
  refine Keeps.bind (keeps_running spec) (fun _ => Keeps.bind (Keeps.lift _) (fun words => ?_))
  exact Keeps.bind (h words) (fun _ => Keeps.pure _)

theorem keeps_run (kind : OperatorKind σ) (payload : Fields) :
    Keeps Tracked (kind.recorded.run spec (recorded driver) payload) := by
  cases kind with
  | installSdk =>
    refine Keeps.bind (Keeps.lift _) (fun args => keeps_runWords spec (fun words => ?_) args)
    exact keeps_exec spec driver _ none
  | writeFile =>
    refine Keeps.bind (Keeps.lift _) (fun path => Keeps.bind (Keeps.lift _) (fun content => ?_))
    refine Keeps.bind (Keeps.lift _) (fun name => ?_)
    cases content with
    | str text => exact Keeps.bind (keeps_putText spec driver name text) (fun _ => Keeps.pure _)
    | _ => exact Keeps.bind (Keeps.lift _) (fun _ => Keeps.raise _)
  | runPython =>
    refine Keeps.bind (Keeps.lift _) (fun args => keeps_runWords spec (fun words => ?_) args)
    exact keeps_exec spec driver _ none
  | runPytest =>
    refine Keeps.bind (Keeps.lift _) (fun targets => Keeps.bind (Keeps.lift _) (fun more => ?_))
    exact keeps_runWords spec (fun words => keeps_exec spec driver _ none) _
  | collectArtifacts =>
    refine Keeps.bind (keeps_running spec) (fun _ => Keeps.bind (Keeps.lift _) (fun name => ?_))
    exact Keeps.bind (keeps_getArchive spec driver name) (fun _ => Keeps.pure _)
  | inspectExec policy =>
    refine Keeps.bind (Keeps.lift _) (fun argv => Keeps.bind (Keeps.lift _) (fun _ => ?_))
    refine Keeps.bind (Keeps.lift _) (fun workdir => Keeps.bind (Keeps.lift _) (fun timeoutSec => ?_))
    exact Keeps.bind (keeps_exec spec driver _ timeoutSec) (fun _ => Keeps.pure _)
  | guardedExec guard =>
    have asks : Keeps Tracked (calling (unrecorded guard (payloadToExecSpec payload).argv payload)) :=
      keeps_calling (fun s => Keeps.within _ (fun w l h => ⟨h.held, h.past⟩))
    refine Keeps.bind asks (fun decision => ?_)
    split
    · exact Keeps.raise _
    · refine Keeps.bind (keeps_running spec) (fun _ => Keeps.bind (Keeps.lift _) (fun argv => ?_))
      refine Keeps.bind (Keeps.lift _) (fun workdir => Keeps.bind (Keeps.lift _) (fun timeoutSec => ?_))
      exact Keeps.bind (keeps_exec spec driver _ timeoutSec) (fun _ => Keeps.pure _)

theorem keeps_executeAction (action : Value) (payload : Fields) :
    Keeps Tracked ((c.recorded.controller spec (recorded driver)).executeAction action payload) := by
  have inner : Keeps Tracked (do
      Computation.lift ((c.recorded.controller spec (recorded driver)).checkPolicies action payload)
      let data ← (c.recorded.controller spec (recorded driver)).dispatcher.dispatch action payload
      return actionResponse action data) := by
    refine Keeps.bind (Keeps.lift _) (fun _ => Keeps.bind ?_ (fun _ => Keeps.pure _))
    unfold ActionDispatcher.dispatch
    cases found : (c.recorded.controller spec (recorded driver)).dispatcher.operatorFor action with
    | error exc => exact Keeps.raise exc
    | ok op =>
      obtain ⟨name, kind, -, -, rfl⟩ := operatorFor_eq spec driver c found
      exact keeps_run spec driver kind payload
  exact Triple.mapError _ inner (fun _ _ h => h)

theorem keeps_perform (call : SessionCall) :
    Keeps Tracked (c.recorded.perform spec (recorded driver) call) := by
  cases call with
  | openSession =>
    refine keeps_discard (Keeps.bind (keeps_create spec driver) (fun _ => ?_))
    refine Keeps.bind (keeps_prepareImage spec driver) (fun _ => ?_)
    exact Keeps.bind (keeps_start spec driver) (fun _ => Keeps.pure _)
  | executeAction action payload => exact keeps_discard (keeps_executeAction spec driver c action payload)
  | closeSession =>
    refine keeps_discard (Keeps.bind (keeps_stop driver 10) (fun _ => ?_))
    exact Keeps.bind (keeps_destroy driver false false) (fun _ => keeps_snapshot spec driver)

end Live

section Runs

variable (spec : SandboxSpec) (driver : DockerDriver σ) (c : SessionTable σ)

/-- What a session has to answer for: every call of its driver, and every exception. -/
structure Mediated (calls : List SessionCall) (s : Session (Ledger σ)) : Prop where
  accounted : ∃ segments, callsOf s = segments.flatten ∧
    List.Forall₂ (SegmentOf c spec driver) calls segments
  live : OnlyLive (callsOf s)
  declared : ∀ action payload exc s',
    (c.recorded.controller spec (recorded driver)).executeAction action payload s = (.error exc, s') →
      exc.isInstance "Exception" = true → exc.isInstance "CommandControlError" = true

theorem isInstance_reraised {action : Value} {exc : PyExc}
    (ordinary : (reraised action exc).isInstance "Exception" = true) :
    (reraised action exc).isInstance "CommandControlError" = true := by
  unfold reraised at ordinary ⊢
  split
  · assumption
  · rename_i other
    rw [if_neg other] at ordinary
    split
    · rfl
    · rename_i base
      rw [if_neg base] at ordinary
      exact absurd ordinary base

/-- What fails an action has gone through the `except` clauses. -/
theorem reraised_of_failed {controller : CommandController (Session σ)} {action : Value}
    {payload : Fields} {exc : PyExc} {s s' : Session σ}
    (failed : controller.executeAction action payload s = (.error exc, s')) :
    ∃ given, reraised action given = exc := by
  have outcome : ∀ r : Except PyExc Fields, r.mapError (reraised action) = .error exc →
      ∃ given, reraised action given = exc := by
    rintro (given | data) raised
    · exact ⟨given, Except.error.inj raised⟩
    · cases raised
  exact outcome _ (congrArg Prod.fst failed)

/-- **Complete mediation.** A session is opened, asked for actions and closed in any order, with any
operators under any names and whatever its driver and its guards answer or raise. Its driver got for
each action one call at most, which the operator of the action was admitted for by the policies,
and that call found its container started and not ended since; and an action that fails, fails with
an error of the package. -/
theorem sessions_mediated (calls : List SessionCall) (w : σ) :
    Mediated spec driver c calls
      (afterAll (c.recorded.perform spec (recorded driver)) calls (opened w)) := by
  obtain ⟨segments, written, own⟩ :=
    written_afterAll (writes_perform spec driver c) calls (opened w)
  have rest : ¬ Runs (opened w).status := (by decide : ¬ Runs .created)
  have first : Tracked (opened w) := tracked_of_rest onlyLive_nil rest
  refine ⟨⟨segments, written, own⟩, ?_, fun action payload exc s' failed ordinary => ?_⟩
  · exact (afterAll_keeps (keeps_perform spec driver c) calls first).past
  · obtain ⟨given, rfl⟩ := reraised_of_failed failed
    exact isInstance_reraised ordinary

end Runs

end SthBoring.CmdCtrl.MediatedSessions
