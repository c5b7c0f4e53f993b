/- Module: SthBoring/Sandbox/LiveContainers
   source: sdk_test_agent/sandbox/python/docker_sandbox.py
   digest: Commands and files only go to a container that was started and not ended since. -/

import SthBoring.Sandbox.SandboxLife

set_option autoImplicit false
set_option relaxedAutoImplicit false

namespace SthBoring.Sandbox.LiveContainers

universe u

open SthBoring.Lib.Effect (Computation Triple Keeps)
open SthBoring.Lib.PyValue (PyExc)
open SthBoring.Docker.DriverModels
open SthBoring.Sandbox.DockerSandbox (DockerPythonSandbox SandboxStatus requireRunning)
open SthBoring.Sandbox.SandboxLife

attribute [local irreducible] DockerSandbox.safeJoin

variable {σ : Type u} {α : Type}

section Histories

/-- The container was created, then started, and neither stopped nor passed to be removed since. -/
def Live (calls : List DriverCall) (id : String) : Prop :=
  ∃ earlier start later, calls = earlier ++ start :: later ∧ start.started = some id ∧
    (∃ call ∈ earlier, call.created = some id) ∧ ∀ call ∈ later, call.ended ≠ some id

/-- Every call that works in a container finds it live. -/
def OnlyLive (calls : List DriverCall) : Prop :=
  ∀ before call after, calls = before ++ call :: after →
    ∀ id, call.worksIn = some id → Live before id

variable {calls : List DriverCall} {call : DriverCall} {id : String}

theorem Live.append (h : Live calls id) (goes : call.ended ≠ some id) : Live (calls ++ [call]) id := by
  obtain ⟨earlier, start, later, rfl, started, created, since⟩ := h
  refine ⟨earlier, start, later ++ [call], by simp, started, created, fun c hc => ?_⟩
  rcases List.mem_append.mp hc with old | new
  · exact since c old
  · rw [List.mem_singleton.mp new]
    exact goes

/-- A container that was created is live as soon as it is started. -/
theorem live_of_started (created : ∃ call ∈ calls, call.created = some id)
    (started : call.started = some id) : Live (calls ++ [call]) id :=
  ⟨calls, call, [], rfl, started, created, fun _ none => nomatch none⟩

theorem onlyLive_nil : OnlyLive [] := by
  intro before call after split
  cases before <;> cases split

theorem OnlyLive.append (h : OnlyLive calls)
    (live : ∀ id, call.worksIn = some id → Live calls id) : OnlyLive (calls ++ [call]) := by
  intro before call' after split id works
  rcases List.eq_nil_or_concat after with rfl | ⟨after', last, rfl⟩
  · obtain ⟨rfl, same⟩ := List.append_inj' split rfl
    obtain rfl : call = call' := by simpa using same
    exact live id works
  · rw [List.concat_eq_append, ← List.cons_append, ← List.append_assoc] at split
    exact h before call' after' (List.append_inj_left' split rfl) id works

theorem OnlyLive.quiet (h : OnlyLive calls) (idle : call.worksIn = none) : OnlyLive (calls ++ [call]) :=
  h.append fun _ works => nomatch idle.symm.trans works

end Histories

/-- The states in which the sandbox takes commands. -/
def Runs (status : SandboxStatus) : Prop := status ∈ [.containerRunning, .workspaceReady, .ready]

instance : DecidablePred Runs := fun status =>
  inferInstanceAs (Decidable (status ∈ [.containerRunning, .workspaceReady, .ready]))

/-- A sandbox that takes commands holds a live container. -/
structure Tracked (s : Session (Ledger σ)) : Prop where
  held : Runs s.status → ∃ id, s.containerId = some id ∧ Live s.world.calls id
  past : OnlyLive s.world.calls

section Calls

variable {s : Session (Ledger σ)} {call : DriverCall}

theorem Tracked.entered (h : Tracked s) (goes : ∀ id, s.containerId = some id → call.ended ≠ some id)
    (live : ∀ id, call.worksIn = some id → Live s.world.calls id) (w : σ) :
    Tracked { s with world := ⟨w, s.world.calls ++ [call]⟩ } where
  held runs := by
    obtain ⟨id, kept, alive⟩ := h.held runs
    exact ⟨id, kept, alive.append (goes id kept)⟩
  past := h.past.append live

/-- A sandbox at rest needs no container. -/
theorem tracked_of_rest (past : OnlyLive s.world.calls) (rest : ¬ Runs s.status) : Tracked s :=
  ⟨fun runs => absurd runs rest, past⟩

/-- What a sandbox that takes commands is checked for. -/
theorem live_of_requireRunning {spec : SandboxSpec} {id : String} (h : Tracked s)
    (running : requireRunning (s.sandbox spec) = .ok id) : Live s.world.calls id := by
  unfold requireRunning at running
  split at running
  · rename_i runs
    obtain ⟨held, kept, alive⟩ := h.held runs
    have same : (s.sandbox spec).containerId = some held := kept
    rw [same] at running
    cases running
    exact alive
  · cases running

/-- A call that has nothing to do with a running container. -/
theorem keeps_idle {entry : Except PyExc α → DriverCall} {m : Computation σ PyExc α}
    (stays : ∀ answer, (entry answer).ended = none) (idle : ∀ answer, (entry answer).worksIn = none)
    (s : Session (Ledger σ)) : Keeps (fun l => Tracked { s with world := l }) (entered entry m) := by
  refine keeps_entered fun answer w l h => ?_
  refine Tracked.entered (s := { s with world := l }) h ?_ ?_ w
  · intro id _ ended
    exact nomatch (stays answer).symm.trans ended
  · intro id works
    exact nomatch (idle answer).symm.trans works

end Calls

section Methods

variable (spec : SandboxSpec) (driver : DockerDriver σ)

/-- A call into the container that the sandbox was checked to run. -/
theorem keeps_working {entry : Except PyExc α → DriverCall} {m : Computation σ PyExc α}
    {s : Session (Ledger σ)} {id : String} (running : requireRunning (s.sandbox spec) = .ok id)
    (stays : ∀ answer, (entry answer).ended = none)
    (works : ∀ answer, (entry answer).worksIn = some id) :
    Keeps (fun l => Tracked { s with world := l }) (entered entry m) := by
  refine keeps_entered fun answer w l h => ?_
  refine Tracked.entered (s := { s with world := l }) h ?_ ?_ w
  · intro id' _ ended
    exact nomatch (stays answer).symm.trans ended
  · intro id' same
    obtain rfl : id = id' := Option.some.inj ((works answer).symm.trans same)
    exact live_of_requireRunning (s := { s with world := l }) h running

theorem keeps_exec (command : ExecSpec) (timeoutSec : Option ℤ) :
    Keeps (Tracked (σ := σ)) (exec spec (recorded driver) command timeoutSec) :=
  keeps_asIs fun _ => Keeps.bind_lift fun _ running =>
    keeps_working spec running (fun _ => rfl) (fun _ => rfl)

theorem keeps_logs (tail : Lib.PyValue.Value) :
    Keeps (Tracked (σ := σ)) (logs spec (recorded driver) tail) :=
  keeps_asIs fun _ => Keeps.bind_lift fun _ running =>
    keeps_working spec running (fun _ => rfl) (fun _ => rfl)

theorem keeps_putWorkspaceBytes (data : DockerSandbox.TarArchive) (dest : Option String) :
    Keeps (Tracked (σ := σ)) (putWorkspaceBytes spec (recorded driver) data dest) :=
  keeps_asIs fun _ => Keeps.bind_lift fun _ running =>
    keeps_working spec running (fun _ => rfl) (fun _ => rfl)

theorem keeps_putText (path content : String) :
    Keeps (Tracked (σ := σ)) (putText spec (recorded driver) path content) :=
  keeps_asIs fun _ => Keeps.bind (Keeps.lift _) fun _ => Keeps.bind_lift fun _ running =>
    keeps_working spec running (fun _ => rfl) (fun _ => rfl)

theorem keeps_getArchive (path : String) :
    Keeps (Tracked (σ := σ)) (getArchive spec (recorded driver) path) :=
  keeps_asIs fun _ => Keeps.bind_lift fun _ running => Keeps.bind (Keeps.lift _) fun _ =>
    keeps_working spec running (fun _ => rfl) (fun _ => rfl)

/-- Between two commands the status may move on. -/
theorem keeps_setStatus_rest {status : SandboxStatus} (rest : ¬ Runs status) :
    Keeps (Tracked (σ := σ)) (setStatus status) :=
  Keeps.modify fun _ h => tracked_of_rest h.past rest

theorem keeps_snapshot : Keeps (Tracked (σ := σ)) (snapshot spec (recorded driver)) := by
  refine Keeps.bind (Keeps.read _) fun _ => Keeps.bind (Keeps.read _) fun containerId => ?_
  refine Keeps.bind ?_ fun _ => Keeps.bind (Keeps.read _) fun _ => Keeps.pure _
  unfold containerAttrs
  split
  · exact Keeps.pure []
  · exact Keeps.pure []
  · refine Keeps.bind (Keeps.outcome (keeps_calling fun s => ?_)) (fun answer => Keeps.lift _)
    exact keeps_idle (fun _ => rfl) (fun _ => rfl) s

theorem keeps_create : Keeps (Tracked (σ := σ)) (create spec (recorded driver)) :=
  Keeps.bind (keeps_setStatus_rest (by decide)) fun _ => keeps_snapshot spec driver

theorem keeps_prepareImage : Keeps (Tracked (σ := σ)) (prepareImage spec (recorded driver)) := by
  refine Keeps.bind (keeps_calling fun s => keeps_idle (fun _ => rfl) (fun _ => rfl) s) fun id => ?_
  refine Keeps.bind (Keeps.modify fun s h => ⟨h.held, h.past⟩) fun _ => ?_
  exact Keeps.bind (keeps_setStatus_rest (by decide)) fun _ => Keeps.pure id

theorem rest_after {status : SandboxStatus} (rest : ¬ Runs status) :
    Triple (fun s : Session (Ledger σ) => OnlyLive s.world.calls) (setStatus status)
      (fun _ => Tracked) (fun _ => Tracked) :=
  Triple.modify fun _ past => tracked_of_rest past rest

theorem keeps_stop (timeoutSec : ℤ) : Keeps (Tracked (σ := σ)) (stop (recorded driver) timeoutSec) := by
  refine Keeps.bind (Keeps.read _) fun containerId => Keeps.bind (Keeps.read _) fun status => ?_
  split
  · exact Keeps.pure ()
  · split
    · exact Keeps.pure ()
    · rename_i id _ _
      refine Triple.bind (Q := fun _ s => OnlyLive s.world.calls) ?_ fun _ => rest_after (by decide)
      refine triple_calling fun s => triple_entered (fun a _ _ h => h.past.quiet rfl) ?_
      -- a container that could not be stopped still runs
      intro exc w l h
      refine Tracked.entered (s := { s with world := l }) h ?_ ?_ w
      · simp [DriverCall.ended]
      · simp [DriverCall.worksIn]

theorem keeps_destroy (force removeVolumes : Bool) :
    Keeps (Tracked (σ := σ)) (destroy (recorded driver) force removeVolumes) := by
  refine Keeps.bind (Keeps.read _) fun containerId => ?_
  split
  · exact keeps_setStatus_rest (by decide)
  · rename_i id _
    have passed : Keeps (fun s : Session (Ledger σ) => OnlyLive s.world.calls)
        (calling ((recorded driver).removeContainer id force removeVolumes)) :=
      keeps_calling fun _ => keeps_entered fun _ _ _ past => past.quiet rfl
    have tried : Triple Tracked (Computation.outcome
        (calling ((recorded driver).removeContainer id force removeVolumes)))
        (fun _ s => OnlyLive s.world.calls) (fun (_ : PyExc) => Tracked) :=
      Triple.imp (Triple.outcome passed (fun _ => Tracked)) (fun _ h => h.past)
        (fun _ _ past => past.snd) (fun _ _ h => h)
    refine Triple.bind tried fun answer => Triple.bind (rest_after (by decide)) fun _ => ?_
    exact Keeps.lift answer

/-- A sandbox that takes commands, with the container it holds. -/
def Up (s : Session (Ledger σ)) : Prop := Tracked s ∧ Runs s.status

/-- A new container is kept, started, and only then worked in. -/
theorem launch_up :
    Triple (fun s : Session (Ledger σ) => OnlyLive s.world.calls ∧ ¬ Runs s.status)
      (launch spec (recorded driver)) (fun _ => Up) (fun _ => Tracked) := by
  have made : Triple (fun s : Session (Ledger σ) => OnlyLive s.world.calls ∧ ¬ Runs s.status)
      (calling ((recorded driver).createContainer (containerCreateSpec spec)))
      (fun ref s => (OnlyLive s.world.calls ∧ ¬ Runs s.status) ∧
        ∃ call ∈ s.world.calls, call.created = some ref.containerId) (fun _ => Tracked) := by
    refine triple_calling fun s => triple_entered ?_ ?_
    · rintro ref w l ⟨past, rest⟩
      exact ⟨⟨past.quiet rfl, rest⟩, _, List.mem_append_right _ (List.mem_singleton.mpr rfl), rfl⟩
    · rintro exc w l ⟨past, rest⟩
      exact tracked_of_rest (past.quiet rfl) rest
  refine Triple.bind made fun ref => ?_
  refine Triple.bind (Q := fun _ s => ((OnlyLive s.world.calls ∧ ¬ Runs s.status) ∧
      ∃ call ∈ s.world.calls, call.created = some ref.containerId) ∧
      s.containerId = some ref.containerId) (Triple.modify fun s h => ⟨h, rfl⟩) fun _ => ?_
  refine Triple.bind (Q := fun _ s => OnlyLive s.world.calls ∧
      s.containerId = some ref.containerId ∧ Live s.world.calls ref.containerId) ?_ fun _ => ?_
  · refine triple_calling fun s => triple_entered ?_ ?_
    · rintro a w l ⟨⟨⟨past, rest⟩, created⟩, kept⟩
      exact ⟨past.quiet rfl, kept, live_of_started created rfl⟩
    · rintro exc w l ⟨⟨⟨past, rest⟩, created⟩, kept⟩
      exact tracked_of_rest (past.quiet rfl) rest
  · refine Triple.modify ?_
    rintro s ⟨past, kept, alive⟩
    exact ⟨⟨fun _ => ⟨_, kept, alive⟩, past⟩, (by decide : Runs .containerRunning)⟩

theorem exec_up (command : ExecSpec) (timeoutSec : Option ℤ) :
    Triple Up (exec spec (recorded driver) command timeoutSec) (fun _ => Up (σ := σ))
      (fun _ => Tracked) := by
  have tracked : Triple Up (exec spec (recorded driver) command timeoutSec)
      (fun _ => Tracked (σ := σ)) (fun _ => Tracked) :=
    Triple.imp (keeps_exec spec driver command timeoutSec) (fun _ h => h.1) (fun _ _ h => h)
      (fun _ _ h => h)
  intro s up
  have post := tracked s up
  have same : (exec spec (recorded driver) command timeoutSec s).2.status = s.status := rfl
  rcases ran : exec spec (recorded driver) command timeoutSec s with ⟨exc | result, s'⟩ <;>
    rw [ran] at post same
  · exact post
  · exact ⟨post, same.symm ▸ up.2⟩

theorem setStatus_up (status : SandboxStatus) (runs : Runs status) :
    Triple Up (setStatus status) (fun _ => Up (σ := σ)) (fun _ => Tracked) :=
  Triple.modify fun _ up => ⟨⟨fun _ => up.1.held up.2, up.1.past⟩, runs⟩

theorem rest_of_startable {status : SandboxStatus} (h : startable status = .ok ()) :
    ¬ Runs status := by
  cases status <;> first | decide | cases h

theorem keeps_start : Keeps (Tracked (σ := σ)) (start spec (recorded driver)) := by
  refine Triple.bind (Q := fun status s => Tracked s ∧ s.status = status)
    (Triple.read fun _ h => ⟨h, rfl⟩) fun status => ?_
  refine Triple.bind (Q := fun _ s => OnlyLive s.world.calls ∧ ¬ Runs s.status) ?_ fun _ => ?_
  · refine Triple.lift ?_ (fun _ _ _ h => h.1)
    rintro a passed s ⟨h, rfl⟩
    exact ⟨h.past, rest_of_startable passed⟩
  · refine Triple.bind (launch_up spec driver) fun _ => ?_
    refine Triple.bind (exec_up spec driver _ none) fun _ => ?_
    refine Triple.bind (setStatus_up .workspaceReady (by decide)) fun _ => ?_
    refine Triple.bind (setStatus_up .ready (by decide)) fun _ => ?_
    exact Triple.imp (keeps_snapshot spec driver) (fun _ up => up.1) (fun _ _ h => h) fun _ _ h => h

end Methods

section Calls

variable (spec : SandboxSpec) (driver : DockerDriver σ)

theorem keeps_discard {m : InSession (Ledger σ) α} (h : Keeps Tracked m) :
    Keeps Tracked (discard m : InSession (Ledger σ) Unit) :=
  Keeps.bind h fun _ => Keeps.pure _

theorem keeps_perform (call : SandboxCall) :
    Keeps (Tracked (σ := σ)) (perform spec (recorded driver) call) := by
  cases call with
  | create => exact keeps_discard (keeps_create spec driver)
  | prepareImage => exact keeps_discard (keeps_prepareImage spec driver)
  | start => exact keeps_discard (keeps_start spec driver)
  | putWorkspaceBytes data dest => exact keeps_putWorkspaceBytes spec driver data dest
  | putText path content => exact keeps_putText spec driver path content
  | exec command timeoutSec => exact keeps_discard (keeps_exec spec driver _ _)
  | runPython argv timeoutSec => exact keeps_discard (keeps_exec spec driver _ _)
  | runPip argv timeoutSec => exact keeps_discard (keeps_exec spec driver _ _)
  | runPytest targets extraArgs timeoutSec => exact keeps_discard (keeps_exec spec driver _ _)
  | getArchive path => exact keeps_discard (keeps_getArchive spec driver path)
  | logs tail => exact keeps_discard (keeps_logs spec driver tail)
  | snapshot => exact keeps_discard (keeps_snapshot spec driver)
  | stop timeoutSec => exact keeps_stop driver timeoutSec
  | destroy force removeVolumes => exact keeps_destroy driver force removeVolumes

theorem tracked_run {s : Session (Ledger σ)} (calls : List SandboxCall) (h : Tracked s) :
    Tracked (afterCalls spec (recorded driver) calls s) := by
  induction calls generalizing s with
  | nil => exact h
  | cons call calls ih => exact ih ((keeps_perform spec driver call).after h)

/-- Whatever is called, in whatever order, and whatever the driver raises: a call that works in a
container finds it started, and neither stopped nor removed since. -/
theorem only_live_containers (w : σ) (calls : List SandboxCall) :
    OnlyLive (afterCalls spec (recorded driver) calls (opened w)).world.calls := by
  have start : Tracked (opened w) := 
    tracked_of_rest onlyLive_nil (by decide : ¬ Runs .created)
  exact (tracked_run spec driver calls start).past

end Calls

end SthBoring.Sandbox.LiveContainers
