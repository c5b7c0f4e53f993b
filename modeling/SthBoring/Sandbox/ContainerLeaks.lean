/- Module: SthBoring/Sandbox/ContainerLeaks
   source: sdk_test_agent/sandbox/python/docker_sandbox.py
   digest: Which containers a sandbox has handed back once it is destroyed. -/

import SthBoring.Sandbox.SandboxLife

set_option autoImplicit false
set_option relaxedAutoImplicit false

namespace SthBoring.Sandbox.ContainerLeaks

universe u

open SthBoring.Lib.Effect (Computation Triple Keeps)
open SthBoring.Docker.DriverModels
open SthBoring.Sandbox.DockerSandbox (DockerPythonSandbox SandboxStatus)
open SthBoring.Sandbox.SandboxLife

attribute [local irreducible] DockerSandbox.safeJoin

variable {σ : Type u} {α : Type}

section Ledgers

/-- The containers that `create_container` returned. -/
def obtained (calls : List DriverCall) : List String := calls.filterMap DriverCall.created

/-- The containers that were passed to `remove_container`. -/
def handedBack (calls : List DriverCall) : List String := calls.filterMap DriverCall.removed

theorem obtained_append (calls : List DriverCall) (call : DriverCall) :
    obtained (calls ++ [call]) = obtained calls ++ call.created.toList := by
  cases h : call.created <;> simp [obtained, List.filterMap_append, h]

theorem mem_handedBack_append {calls : List DriverCall} {id : String} (call : DriverCall)
    (h : id ∈ handedBack calls) : id ∈ handedBack (calls ++ [call]) := by
  rw [handedBack, List.filterMap_append]
  exact List.mem_append_left _ h

end Ledgers

/-- Whatever was obtained was handed back. -/
def Cleared (s : Session (Ledger σ)) : Prop :=
  ∀ id ∈ obtained s.world.calls, id ∈ handedBack s.world.calls

/-- Whatever was obtained was handed back, or is the container that the sandbox holds. -/
def Accounted (s : Session (Ledger σ)) : Prop :=
  ∀ id ∈ obtained s.world.calls, id ∈ handedBack s.world.calls ∨ s.containerId = some id

theorem Cleared.accounted {s : Session (Ledger σ)} (h : Cleared s) : Accounted s :=
  fun id hid => .inl (h id hid)

section Calls

variable {s : Session (Ledger σ)} {call : DriverCall}

theorem Cleared.entered (h : Cleared s) (made : call.created = none) (w : σ) :
    Cleared { s with world := ⟨w, s.world.calls ++ [call]⟩ } := by
  intro id hid
  rw [obtained_append, made] at hid
  exact mem_handedBack_append call (h id (by simpa using hid))

theorem Accounted.entered (h : Accounted s) (made : call.created = none) (w : σ) :
    Accounted { s with world := ⟨w, s.world.calls ++ [call]⟩ } := by
  intro id hid
  rw [obtained_append, made] at hid
  exact (h id (by simpa using hid)).imp_left (mem_handedBack_append call)

/-- A call that creates no container. -/
theorem keeps_quiet {entry : Except Lib.PyValue.PyExc α → DriverCall} {m : Computation σ _ α}
    (quiet : ∀ answer, (entry answer).created = none) (s : Session (Ledger σ)) :
    Keeps (fun l => Accounted { s with world := l }) (entered entry m) :=
  keeps_entered fun answer w l h => Accounted.entered (s := { s with world := l }) h (quiet answer) w

end Calls

section Methods

variable (spec : SandboxSpec) (driver : DockerDriver σ)

theorem keeps_setStatus (status : SandboxStatus) :
    Keeps (Accounted (σ := σ)) (setStatus status) :=
  Keeps.modify fun _ h => h

theorem keeps_containerAttrs (containerId : Option String) :
    Keeps (Accounted (σ := σ)) (containerAttrs (recorded driver) containerId) := by
  unfold containerAttrs
  split
  · exact Keeps.pure []
  · exact Keeps.pure []
  · refine Keeps.bind (Keeps.outcome (keeps_calling fun s => ?_)) (fun answer => Keeps.lift _)
    exact keeps_quiet (fun _ => rfl) s

theorem keeps_snapshot : Keeps (Accounted (σ := σ)) (snapshot spec (recorded driver)) :=
  Keeps.bind (Keeps.read _) fun _ => Keeps.bind (Keeps.read _) fun containerId =>
    Keeps.bind (keeps_containerAttrs driver containerId) fun _ =>
      Keeps.bind (Keeps.read _) fun _ => Keeps.pure _

theorem keeps_exec (command : ExecSpec) (timeoutSec : Option ℤ) :
    Keeps (Accounted (σ := σ)) (exec spec (recorded driver) command timeoutSec) :=
  keeps_asIs fun s => Keeps.bind (Keeps.lift _) fun _ => keeps_quiet (fun _ => rfl) s

theorem keeps_prepareImage : Keeps (Accounted (σ := σ)) (prepareImage spec (recorded driver)) := by
  refine Keeps.bind (keeps_calling fun s => keeps_quiet (fun _ => rfl) s) fun imageId => ?_
  refine Keeps.bind (Keeps.modify fun _ h => h) fun _ => ?_
  exact Keeps.bind (keeps_setStatus .imageReady) fun _ => Keeps.pure imageId

theorem keeps_stop (timeoutSec : ℤ) : Keeps (Accounted (σ := σ)) (stop (recorded driver) timeoutSec) := by
  refine Keeps.bind (Keeps.read _) fun containerId => Keeps.bind (Keeps.read _) fun status => ?_
  split
  · exact Keeps.pure ()
  · split
    · exact Keeps.pure ()
    · exact Keeps.bind (keeps_calling fun s => keeps_quiet (fun _ => rfl) s)
        fun _ => keeps_setStatus .stopped

theorem keeps_destroy (force removeVolumes : Bool) :
    Keeps (Accounted (σ := σ)) (destroy (recorded driver) force removeVolumes) := by
  refine Keeps.bind (Keeps.read _) fun containerId => ?_
  split
  · exact keeps_setStatus .removed
  · refine Keeps.bind (Keeps.outcome (keeps_calling fun s => keeps_quiet (fun _ => rfl) s))
      fun answer => ?_
    exact Keeps.bind (keeps_setStatus .removed) fun _ => Keeps.lift answer

/-- A container is created once everything before it was handed back, and then held. -/
theorem launch_accounted :
    Triple Cleared (launch spec (recorded driver)) (fun _ => Accounted (σ := σ))
      (fun _ => Accounted) := by
  have made : Triple Cleared (calling ((recorded driver).createContainer (containerCreateSpec spec)))
      (fun ref (s : Session (Ledger σ)) => ∀ id ∈ obtained s.world.calls,
        id ∈ handedBack s.world.calls ∨ id = ref.containerId) (fun _ => Accounted) := by
    refine triple_calling fun s => triple_entered ?_ ?_
    · intro ref w l cleared id hid
      rw [obtained_append] at hid
      rcases List.mem_append.mp hid with old | new
      · exact .inl (mem_handedBack_append _ (cleared id old))
      · exact .inr (by simpa [DriverCall.created] using new)
    · intro exc w l cleared
      exact (Cleared.entered (s := { s with world := l }) cleared rfl w).accounted
  refine Triple.bind made fun ref => ?_
  have held : Triple (fun s : Session (Ledger σ) => ∀ id ∈ obtained s.world.calls,
        id ∈ handedBack s.world.calls ∨ id = ref.containerId)
      (Computation.modify fun s => { s with containerId := some ref.containerId })
      (fun _ => Accounted) (fun (_ : Lib.PyValue.PyExc) => Accounted) :=
    Triple.modify fun s h id hid => (h id hid).imp_right fun same => congrArg some same.symm
  refine Triple.bind held fun _ => ?_
  exact Keeps.bind (keeps_calling fun s => keeps_quiet (fun _ => rfl) s)
    fun _ => keeps_setStatus .containerRunning

theorem start_accounted :
    Triple Cleared (start spec (recorded driver)) (fun _ => Accounted (σ := σ))
      (fun _ => Accounted) := by
  have checked : ∀ status, Triple (Cleared (σ := σ)) (Computation.lift (startable status))
      (fun _ => Cleared) (fun _ => Accounted) := fun status =>
    Triple.lift (fun _ _ _ h => h) (fun _ _ _ h => Cleared.accounted h)
  refine Triple.bind (Q := fun _ => Cleared) (Triple.read fun _ h => h) fun status => ?_
  refine Triple.bind (checked status) fun _ => Triple.bind (launch_accounted spec driver) fun _ => ?_
  refine Keeps.bind (keeps_exec spec driver _ none) fun _ => ?_
  refine Keeps.bind (keeps_setStatus _) fun _ => Keeps.bind (keeps_setStatus _) fun _ => ?_
  exact keeps_snapshot spec driver

/-- Away from a prepared image, a start is refused. -/
theorem start_refused {s : Session (Ledger σ)} (h : s.status ≠ .imageReady) :
    ∃ exc, start spec (recorded driver) s = (.error exc, s) := by
  have refused : ∃ exc, startable s.status = .error exc := by
    cases status : s.status with
    | imageReady => exact absurd status h
    | _ => exact ⟨_, rfl⟩
  obtain ⟨exc, refused⟩ := refused
  refine ⟨exc, ?_⟩
  have stopped : (Computation.lift (startable s.status) : InSession (Ledger σ) Unit) s =
      (.error exc, s) := by
    rw [refused]
    rfl
  exact Computation.bind_of_error stopped _

end Methods

section Runs

variable (spec : SandboxSpec) (driver : DockerDriver σ)

/-- What a tidy caller sees to before a call: no container is started over one that was not handed
back, and the container to destroy has a name. -/
def Tidy (s : Session (Ledger σ)) : SandboxCall → Prop
  | .start => s.status = .imageReady → ∀ id, s.containerId = some id → id ∈ handedBack s.world.calls
  | .destroy _ _ => s.containerId ≠ some ""
  | _ => True

/-- All the calls are tidy, each where it is made. -/
def TidyRun : List SandboxCall → Session (Ledger σ) → Prop
  | [], _ => True
  | call :: calls, s =>
    Tidy s call ∧ TidyRun calls (perform spec (recorded driver) call s).2

theorem cleared_of_handedBack {s : Session (Ledger σ)} (h : Accounted s)
    (held : ∀ id, s.containerId = some id → id ∈ handedBack s.world.calls) : Cleared s :=
  fun id hid => (h id hid).elim (fun done => done) (held id)

theorem keeps_discard {β : Type} {m : InSession (Ledger σ) β} (h : Keeps Accounted m) :
    Keeps Accounted (discard m : InSession (Ledger σ) Unit) :=
  Keeps.bind h fun _ => Keeps.pure _

/-- Every call keeps account of the containers, a start over an unreturned one aside. -/
theorem accounted_step {s : Session (Ledger σ)} (call : SandboxCall) (tidy : Tidy s call)
    (h : Accounted s) : Accounted (perform spec (recorded driver) call s).2 := by
  cases call with
  | start =>
    by_cases prepared : s.status = .imageReady
    · have cleared := cleared_of_handedBack h (tidy prepared)
      have started : Triple Cleared (discard (start spec (recorded driver)) : InSession (Ledger σ) Unit)
          (fun _ => Accounted) (fun _ => Accounted) :=
        Triple.bind (start_accounted spec driver) fun _ => Keeps.pure _
      exact (started s cleared).snd
    · obtain ⟨exc, refused⟩ := start_refused spec driver prepared
      have same : (perform spec (recorded driver) .start s).2 = s :=
        congrArg Prod.snd (Computation.bind_of_error refused _)
      rw [same]
      exact h
  | create =>
    have keeps := Keeps.bind (keeps_setStatus .created) fun _ => keeps_snapshot spec driver
    exact (keeps_discard keeps).after h
  | prepareImage => exact (keeps_discard (keeps_prepareImage spec driver)).after h
  | putWorkspaceBytes data dest =>
    refine Keeps.after (keeps_asIs fun s => ?_) h
    exact Keeps.bind (Keeps.lift _) fun _ => keeps_quiet (fun _ => rfl) s
  | putText path content =>
    refine Keeps.after (keeps_asIs fun s => ?_) h
    refine Keeps.bind (Keeps.lift _) fun _ => Keeps.bind (Keeps.lift _) fun _ => ?_
    exact keeps_quiet (fun _ => rfl) s
  | exec command timeoutSec => exact (keeps_discard (keeps_exec spec driver _ _)).after h
  | runPython argv timeoutSec => exact (keeps_discard (keeps_exec spec driver _ _)).after h
  | runPip argv timeoutSec => exact (keeps_discard (keeps_exec spec driver _ _)).after h
  | runPytest targets extraArgs timeoutSec =>
    exact (keeps_discard (keeps_exec spec driver _ _)).after h
  | getArchive path =>
    refine Keeps.after (keeps_discard (keeps_asIs fun s => ?_)) h
    refine Keeps.bind (Keeps.lift _) fun _ => Keeps.bind (Keeps.lift _) fun _ => ?_
    exact keeps_quiet (fun _ => rfl) s
  | logs tail =>
    refine Keeps.after (keeps_discard (keeps_asIs fun s => ?_)) h
    exact Keeps.bind (Keeps.lift _) fun _ => keeps_quiet (fun _ => rfl) s
  | snapshot => exact (keeps_discard (keeps_snapshot spec driver)).after h
  | stop timeoutSec => exact (keeps_stop driver timeoutSec).after h
  | destroy force removeVolumes => exact (keeps_destroy driver force removeVolumes).after h

theorem accounted_run {s : Session (Ledger σ)} {calls : List SandboxCall}
    (tidy : TidyRun spec driver calls s) (h : Accounted s) :
    Accounted (afterCalls spec (recorded driver) calls s) := by
  induction calls generalizing s with
  | nil => exact h
  | cons call calls ih => exact ih tidy.2 (accounted_step spec driver call tidy.1 h)

theorem tidyRun_append {s : Session (Ledger σ)} {calls calls' : List SandboxCall}
    (tidy : TidyRun spec driver (calls ++ calls') s) : TidyRun spec driver calls s ∧
      TidyRun spec driver calls' (afterCalls spec (recorded driver) calls s) := by
  induction calls generalizing s with
  | nil => exact ⟨trivial, tidy⟩
  | cons call calls ih =>
    obtain ⟨here, rest⟩ := tidy
    exact ⟨⟨here, (ih rest).1⟩, (ih rest).2⟩

theorem destroy_of_none {s : Session (Ledger σ)} (held : heldContainer s.containerId = none)
    (force removeVolumes : Bool) :
    (destroy (recorded driver) force removeVolumes s).2 = { s with status := .removed } := by
  have read : (Computation.read Session.containerId : InSession (Ledger σ) _) s =
      (.ok s.containerId, s) := rfl
  rw [destroy, Computation.bind_of_ok read, held]
  rfl

theorem destroy_of_held {s : Session (Ledger σ)} {id : String}
    (held : heldContainer s.containerId = some id) (force removeVolumes : Bool) :
    (destroy (recorded driver) force removeVolumes s).2 = { s with
      status := .removed
      world := ⟨(driver.removeContainer id force removeVolumes s.world.world).2, s.world.calls ++
        [.removeContainer id force removeVolumes
          (driver.removeContainer id force removeVolumes s.world.world).1]⟩ } := by
  have read : (Computation.read Session.containerId : InSession (Ledger σ) _) s =
      (.ok s.containerId, s) := rfl
  rw [destroy, Computation.bind_of_ok read, held]
  rcases answered : driver.removeContainer id force removeVolumes s.world.world with ⟨exc | done, w⟩
  · simp [bind, Computation.outcome, calling, Computation.within, recorded, entered, answered,
      setStatus, Computation.modify, Computation.lift, Computation.raise]
  · simp [bind, Computation.outcome, calling, Computation.within, recorded, entered, answered,
      setStatus, Computation.modify, Computation.lift, pure]

theorem heldContainer_eq_some {containerId : Option String} {id : String}
    (held : containerId = some id) (named : containerId ≠ some "") :
    heldContainer containerId = some id := by
  rw [held] at named ⊢
  have other : id ≠ "" := fun empty => named (congrArg some empty)
  simp [heldContainer, other]

/-- Destroying hands back the container that is held. -/
theorem cleared_of_destroy {s : Session (Ledger σ)} (h : Accounted s)
    (named : s.containerId ≠ some "") (force removeVolumes : Bool) :
    Cleared (destroy (recorded driver) force removeVolumes s).2 := by
  refine cleared_of_handedBack ((keeps_destroy driver force removeVolumes).after h) ?_
  intro id kept
  cases found : heldContainer s.containerId with
  | none =>
    rw [destroy_of_none driver found] at kept
    exact absurd (heldContainer_eq_some kept named) (found ▸ nofun)
  | some held =>
    rw [destroy_of_held driver found] at kept ⊢
    obtain rfl : held = id := Option.some.inj (found.symm.trans (heldContainer_eq_some kept named))
    rw [handedBack, List.filterMap_append]
    exact List.mem_append_right _ (List.mem_singleton.mpr rfl)

/-- Once a tidy run ends in a destroy, every container was handed back. -/
theorem no_container_left (w : σ) (calls : List SandboxCall) (force removeVolumes : Bool)
    (tidy : TidyRun spec driver (calls ++ [.destroy force removeVolumes]) (opened w)) :
    Cleared (afterCalls spec (recorded driver) (calls ++ [.destroy force removeVolumes])
      (opened w)) := by
  obtain ⟨before, named, -⟩ := tidyRun_append spec driver tidy
  have accounted : Accounted (afterCalls spec (recorded driver) calls (opened w)) :=
    accounted_run spec driver before (fun id hid => nomatch hid)
  rw [afterCalls, List.foldl_append]
  exact cleared_of_destroy driver accounted named force removeVolumes

end Runs

section Sessions

/-- `open_session`. -/
def session : List SandboxCall := [.create, .prepareImage, .start]

/-- One session, and its end. -/
theorem no_container_left_session :
    Cleared (afterCalls { sandboxId := "s1" } (recorded countingDriver)
      (session ++ [.stop 10] ++ [.destroy false false]) (opened 0)) := by
  refine no_container_left { sandboxId := "s1" } countingDriver 0 (session ++ [.stop 10]) false false ?_
  refine ⟨trivial, trivial, fun _ id held => ?_, trivial, ?_, trivial⟩
  · cases held
  · change _ ≠ _
    decide

/-- A second session on the same sandbox loses the container of the first. -/
theorem second_session_leaks :
    let calls := session ++ session ++ [.stop 10, .destroy false false]
    let s := afterCalls { sandboxId := "s1" } (recorded countingDriver) calls (opened 0)
    obtained s.world.calls = ["c0", "c1"] ∧ handedBack s.world.calls = ["c1"] ∧
      (perform { sandboxId := "s1" } (recorded countingDriver) (.destroy false false)
        (afterCalls { sandboxId := "s1" } (recorded countingDriver)
          (session ++ session ++ [.stop 10]) (opened 0))).1 = .ok () := by
  refine ⟨?_, ?_, ?_⟩
  · decide
  · decide
  · rfl

end Sessions

end SthBoring.Sandbox.ContainerLeaks
