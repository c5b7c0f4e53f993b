/- Module: SthBoring/ControlPlane/RegistryAgreement
   source: sdk_test_agent/control_plane/runtime_manager/runtime_manager_service.py
   digest: When the registry and the engine agree on which containers there are. -/

import SthBoring.Lib.History
import SthBoring.ControlPlane.RuntimeManager

set_option autoImplicit false
set_option relaxedAutoImplicit false

namespace SthBoring.ControlPlane.RegistryAgreement

universe u

open SthBoring.Lib.Effect (Computation)
open SthBoring.Lib.History (Since since_append_singleton)
open SthBoring.Lib.OrderedDict (PyDict)
open SthBoring.Lib.PyValue (PyExc)
open SthBoring.Docker.DriverModels
open SthBoring.ControlPlane.RuntimeRegistry
open SthBoring.ControlPlane.RuntimeManager

variable {τ : Type u}

section Engine

/-- The container that a call removed. -/
def dropped : DriverCall → Option String
  | .removeContainer id _ _ (.ok ()) => some id
  | _ => none

/-- The service created the container, and has not removed it since. -/
def Exists (calls : List DriverCall) (id : String) : Prop :=
  Since (fun call => call.created = some id) (fun call => dropped call = some id) calls

theorem exists_append {calls : List DriverCall} {call : DriverCall} {id : String} :
    Exists (calls ++ [call]) id ↔
      call.created = some id ∨ (Exists calls id ∧ dropped call ≠ some id) :=
  since_append_singleton

/-- A call that neither creates nor removes a container. -/
theorem exists_append_quiet {calls : List DriverCall} {call : DriverCall}
    (made : call.created = none) (stays : dropped call = none) (id : String) :
    Exists (calls ++ [call]) id ↔ Exists calls id := by
  rw [exists_append, made, stays]
  simp

end Engine

/-- The service, with a driver that keeps a ledger. -/
def ledgered (service : RuntimeManagerService τ) : RuntimeManagerService (Ledger τ) where
  driver := recorded service.driver
  engineId := service.engineId
  nowFn l := ((service.nowFn l.world).1, { l with world := (service.nowFn l.world).2 })
  database l := ((service.database l.world).1, { l with world := (service.database l.world).2 })
  sha1Hex := service.sha1Hex
  sha256Hex := service.sha256Hex

abbrev Managed (τ : Type u) := Plane (Ledger τ)

/-- Every container is registered, and what is registered as running exists. -/
structure Agree (s : Managed τ) : Prop where
  registered : ∀ id, Exists s.world.calls id → id ∈ s.registry.containers.keys
  running : ∀ id row, s.registry.containers.get id = some row → row.status = some "running" →
    Exists s.world.calls id

inductive ManagerCall where
  | createContainer (spec : ContainerCreateSpec) (ownerTaskId : Option String)
  | removeContainer (containerId : String)

section Calls

variable (service : RuntimeManagerService τ)

/-- Make a call, and drop what it returns. -/
def perform : ManagerCall → Managing (Ledger τ) Unit
  | .createContainer spec ownerTaskId => discard (createContainer (ledgered service) spec ownerTaskId)
  | .removeContainer containerId => removeContainer (ledgered service) containerId

/-- Of the containers that were created since, none is left. -/
def LeavesNothing (s s' : Managed τ) : Prop :=
  ∀ since, s'.world.calls = s.world.calls ++ since → ∀ id, ¬ Exists since id

/-- What the call should see to: agreement after it, and no container left where one was to be
created and the call raised. -/
def Sound (s : Managed τ) (call : ManagerCall) : Prop :=
  Agree (perform service call s).2 ∧
    ∀ spec ownerTaskId exc, call = .createContainer spec ownerTaskId →
      (perform service call s).1 = .error exc → LeavesNothing s (perform service call s).2

/-- The world once a record has been dated. -/
def dated (w : τ) : τ := (service.nowFn (service.nowFn w).2).2

/-- The container can be started, and a row can be inserted for it. -/
def Recordable (ref : ContainerRef) (w : τ) (registry : Registry) : Prop :=
  ∃ w', service.driver.startContainer ref.containerId w = (.ok (), w') ∧
    (service.database (dated service w')).1 = none ∧ ref.containerId ∉ registry.containers.keys

/-- Nothing fails behind the first effect of the call, or nothing is registered as running that
the failure would concern. -/
def GoesThrough (s : Managed τ) : ManagerCall → Prop
  | .createContainer spec _ =>
    ∀ ref w, service.driver.createContainer spec s.world.world = (.ok ref, w) →
      Recordable service ref w s.registry
  | .removeContainer containerId =>
    ∀ w, service.driver.removeContainer containerId true false s.world.world = (.ok (), w) →
      (service.database (service.nowFn w).2).1 = none ∨
        ∀ row, s.registry.containers.get containerId = some row → row.status ≠ some "running"

end Calls

theorem outside_entered {α : Type} (entry : Except PyExc α → DriverCall) {m : Computation τ PyExc α}
    {s : Managed τ} {answer : Except PyExc α} {w : τ} (h : m s.world.world = (answer, w)) :
    outside (entered entry m) s =
      (answer, { s with world := ⟨w, s.world.calls ++ [entry answer]⟩ }) := by
  unfold outside Computation.within entered
  rw [h]

theorem discard_eq {S : Type u} {α : Type} (m : Computation S PyExc α) (s : S) :
    (discard m : Computation S PyExc Unit) s = ((m s).1.map fun _ => (), (m s).2) := by
  rcases ran : m s with ⟨exc | a, s'⟩
  · exact Computation.bind_of_error ran _
  · exact Computation.bind_of_ok ran _

section Creating

variable (service : RuntimeManagerService τ) (spec : ContainerCreateSpec)
  (ownerTaskId : Option String) (ref : ContainerRef)

/-- What a call to start and record a container leaves. -/
structure Attempted (s : Managed τ) (outcome : Except PyExc ContainerRecord) (s' : Managed τ) :
    Prop where
  calls : ∃ answer, s'.world.calls = s.world.calls ++ [.startContainer ref.containerId answer]
  ended : (Recordable service ref s.world.world s.registry ∧ ∃ row, outcome = .ok row ∧
      row.status = some "running" ∧
      s'.registry.containers = s.registry.containers.set ref.containerId row) ∨
    (¬ Recordable service ref s.world.world s.registry ∧ (∃ exc, outcome = .error exc) ∧
      s'.registry = s.registry)

/-- The record of a container is inserted, or nothing is. -/
theorem recordContainer_cases (s : Managed τ) :
    ((service.database (dated service s.world.world)).1 = none ∧
        ref.containerId ∉ s.registry.containers.keys ∧ ∃ row, row.status = some "running" ∧
        ∃ s', recordContainer (ledgered service) spec ownerTaskId ref s = (.ok row, s') ∧
          s'.world.calls = s.world.calls ∧
          s'.registry.containers = s.registry.containers.set ref.containerId row) ∨
      (¬ ((service.database (dated service s.world.world)).1 = none ∧
          ref.containerId ∉ s.registry.containers.keys) ∧
        ∃ exc s', recordContainer (ledgered service) spec ownerTaskId ref s = (.error exc, s') ∧
          s'.world.calls = s.world.calls ∧ s'.registry = s.registry) := by
  by_cases goes : (service.database (dated service s.world.world)).1 = none ∧
      ref.containerId ∉ s.registry.containers.keys
  · obtain ⟨row, -, running, recorded⟩ :=
      recordContainer_of_new (ledgered service) spec ownerTaskId goes.1 goes.2
    exact .inl ⟨goes.1, goes.2, row, running, _, recorded, rfl, rfl⟩
  · obtain ⟨exc, raised⟩ := recordContainer_of_refused (ledgered service) spec ownerTaskId goes
    exact .inr ⟨goes, exc, _, raised, rfl, rfl⟩

/-- A container is started and recorded, or the call raises and the registry is as it was. -/
theorem startAndRecord_attempted (s : Managed τ) :
    Attempted service ref s (startAndRecord (ledgered service) spec ownerTaskId ref s).1
      (startAndRecord (ledgered service) spec ownerTaskId ref s).2 := by
  rcases started : service.driver.startContainer ref.containerId s.world.world with ⟨exc | done, w⟩
  · have first := outside_entered (.startContainer ref.containerId) started
    have ran : startAndRecord (ledgered service) spec ownerTaskId ref s = _ :=
      Computation.bind_of_error first _
    rw [ran]
    refine ⟨⟨_, rfl⟩, .inr ⟨?_, ⟨exc, rfl⟩, rfl⟩⟩
    rintro ⟨w', works, -⟩
    cases started.symm.trans works
  · have first := outside_entered (.startContainer ref.containerId) started
    have ran : startAndRecord (ledgered service) spec ownerTaskId ref s = _ :=
      Computation.bind_of_ok first _
    rw [ran]
    rcases recordContainer_cases service spec ownerTaskId ref ⟨⟨w, _⟩, s.registry⟩ with
      ⟨works, new, row, running, s', recorded, calls, containers⟩ |
      ⟨fails, exc, s', recorded, calls, same⟩
    · rw [recorded]
      exact ⟨⟨_, calls⟩, .inl ⟨⟨w, started, works, new⟩, row, rfl, running, containers⟩⟩
    · rw [recorded]
      refine ⟨⟨_, calls⟩, .inr ⟨?_, ⟨exc, rfl⟩, same⟩⟩
      rintro ⟨w', again, works, new⟩
      obtain ⟨-, rfl⟩ := Prod.ext_iff.mp (started.symm.trans again)
      exact fails ⟨works, new⟩

/-- The ledger once a container was created and an attempt was made to start it. -/
theorem exists_created (calls : List DriverCall) {answer : Except PyExc Unit} (id : String) :
    Exists (calls ++ [.createContainer spec (.ok ref)] ++ [.startContainer ref.containerId answer]) id ↔
      id = ref.containerId ∨ Exists calls id := by
  rw [exists_append_quiet (by cases answer <;> rfl) rfl, exists_append]
  refine or_congr ?_ (and_iff_left nofun)
  exact ⟨fun same => (Option.some.inj same).symm, fun same => congrArg some same.symm⟩

theorem agree_of_quiet {s : Managed τ} (h : Agree s) {call : DriverCall} {w : τ}
    (made : call.created = none) (stays : dropped call = none) :
    Agree (⟨⟨w, s.world.calls ++ [call]⟩, s.registry⟩ : Managed τ) where
  registered id there := h.registered id ((exists_append_quiet made stays id).mp there)
  running id row found running :=
    (exists_append_quiet made stays id).mpr (h.running id row found running)

theorem agree_of_recorded {s s' : Managed τ} (h : Agree s) {answer : Except PyExc Unit}
    (calls : s'.world.calls = s.world.calls ++ [.createContainer spec (.ok ref)] ++
      [.startContainer ref.containerId answer]) {row : ContainerRecord}
    (containers : s'.registry.containers = s.registry.containers.set ref.containerId row) :
    Agree s' := by
  constructor
  · intro id there
    rw [calls, exists_created] at there
    rw [containers, PyDict.mem_keys_set]
    exact there.imp_right (h.registered id)
  · intro id row' found running
    rw [calls, exists_created]
    rw [containers, PyDict.get_set] at found
    split at found
    · next same => exact .inl same.symm
    · exact .inr (h.running id row' found running)

theorem create_sound_iff {s : Managed τ} (h : Agree s) :
    Sound service s (.createContainer spec ownerTaskId) ↔
      GoesThrough service s (.createContainer spec ownerTaskId) := by
  rcases made : service.driver.createContainer spec s.world.world with ⟨exc | ref, w⟩
  · have first := outside_entered (.createContainer spec) made
    have ran : perform service (.createContainer spec ownerTaskId) s = _ :=
      Computation.bind_of_error (Computation.bind_of_error first _) _
    constructor
    · intro _ ref w' again
      cases made.symm.trans again
    · intro _
      refine ⟨?_, fun _ _ exc' _ _ => ?_⟩
      · rw [ran]
        exact agree_of_quiet h rfl rfl
      · rw [ran]
        intro since split id there
        obtain rfl := List.append_cancel_left split
        rw [← List.nil_append [_], exists_append_quiet rfl rfl] at there
        exact Lib.History.since_nil there
  · have first := outside_entered (.createContainer spec) made
    have made' : createContainer (ledgered service) spec ownerTaskId s = _ :=
      Computation.bind_of_ok first _
    have attempted := startAndRecord_attempted service spec ownerTaskId ref
      ⟨⟨w, s.world.calls ++ [.createContainer spec (.ok ref)]⟩, s.registry⟩
    rw [← made'] at attempted
    obtain ⟨⟨answer, calls⟩, ended⟩ := attempted
    have ran : perform service (.createContainer spec ownerTaskId) s = _ := discard_eq _ s
    constructor
    · intro sound ref' w' again
      obtain ⟨same, rfl⟩ := Prod.ext_iff.mp (made.symm.trans again)
      obtain rfl : ref = ref' := Except.ok.inj same
      rcases ended with ⟨recordable, -⟩ | ⟨-, ⟨exc, raised⟩, -⟩
      · exact recordable
      · have left := sound.2 spec ownerTaskId exc rfl (by rw [ran, raised]; rfl)
        rw [ran] at left
        refine absurd ?_ (left _ (by rw [calls, List.append_assoc]) ref.containerId)
        exact (exists_created spec ref [] ref.containerId).mpr (.inl rfl)
    · intro through
      rcases ended with ⟨-, row, finished, running, containers⟩ | ⟨fails, -⟩
      · refine ⟨?_, fun _ _ exc' _ raised => ?_⟩
        · rw [ran]
          exact agree_of_recorded spec ref h calls containers
        · rw [ran, finished] at raised
          cases raised
      · exact absurd (through ref w made) fails

end Creating

section Removing

variable (service : RuntimeManagerService τ)

/-- No row is lost, and the container is not registered as running any more. -/
theorem upsert_spec (containerId updatedAt : String) (registry : Registry) :
    ∃ registry', registry.upsertContainerStatus containerId "removed" updatedAt = .ok registry' ∧
      (∀ id ∈ registry.containers.keys, id ∈ registry'.containers.keys) ∧
      ∀ id row, registry'.containers.get id = some row → row.status = some "running" →
        id ≠ containerId ∧ registry.containers.get id = some row := by
  unfold Registry.upsertContainerStatus
  cases found : registry.containers.get containerId with
  | none =>
    refine ⟨registry, rfl, fun _ mem => mem, fun id row held _ => ⟨?_, held⟩⟩
    rintro rfl
    cases found.symm.trans held
  | some row =>
    refine ⟨_, rfl, fun id mem => ?_, fun id row' held running => ?_⟩
    · exact (PyDict.mem_keys_set _ _ _ _).mpr (.inr mem)
    · dsimp only at held
      rw [PyDict.get_set] at held
      split at held
      · obtain rfl := Option.some.inj held
        exact absurd (Option.some.inj running) (by decide)
      · next other => exact ⟨fun same => other same.symm, held⟩

/-- The ledger once a container was removed. -/
theorem exists_removed {calls : List DriverCall} (containerId id : String) :
    Exists (calls ++ [.removeContainer containerId true false (.ok ())]) id ↔
      Exists calls id ∧ id ≠ containerId := by
  have uncreated : ¬ (DriverCall.removeContainer containerId true false (.ok ())).created = some id :=
    nofun
  rw [exists_append, or_iff_right uncreated]
  exact and_congr_right fun _ => not_congr ⟨fun same => (Option.some.inj same).symm,
    fun same => congrArg some same.symm⟩

theorem remove_sound_iff {s : Managed τ} (h : Agree s) (containerId : String) :
    Sound service s (.removeContainer containerId) ↔
      GoesThrough service s (.removeContainer containerId) := by
  rw [Sound, and_iff_left (fun _ _ _ same => nomatch same)]
  rcases removed : service.driver.removeContainer containerId true false s.world.world with
    ⟨exc | done, w⟩
  · have first := outside_entered (.removeContainer containerId true false) removed
    have ran : perform service (.removeContainer containerId) s = _ :=
      Computation.bind_of_error first _
    rw [ran]
    constructor
    · intro _ w' again
      cases removed.symm.trans again
    · intro _
      exact agree_of_quiet h rfl rfl
  · have first := outside_entered (.removeContainer containerId true false) removed
    let s₂ : Managed τ := ⟨⟨(service.nowFn w).2, s.world.calls ++
      [.removeContainer containerId true false (.ok ())]⟩, s.registry⟩
    -- the clock is read once, and the row is updated
    have ran : perform service (.removeContainer containerId) s =
        execute (ledgered service).database
          (fun r => r.upsertContainerStatus containerId "removed" (service.nowFn w).1) s₂ :=
      Computation.bind_of_ok first _
    have here : GoesThrough service s (.removeContainer containerId) ↔
        ((service.database (service.nowFn w).2).1 = none ∨
          ∀ row, s.registry.containers.get containerId = some row → row.status ≠ some "running") := by
      refine ⟨fun through => through w removed, fun safe w' again => ?_⟩
      obtain ⟨-, rfl⟩ := Prod.ext_iff.mp (removed.symm.trans again)
      exact safe
    rw [here]
    cases fault : (service.database (service.nowFn w).2).1 with
    | none =>
      obtain ⟨registry', updated, kept, running⟩ :=
        upsert_spec containerId (service.nowFn w).1 s.registry
      have done' : execute (ledgered service).database
          (fun r => r.upsertContainerStatus containerId "removed" (service.nowFn w).1) s₂ = _ :=
        execute_of_ok fault updated
      rw [ran, done']
      refine iff_of_true ⟨fun id there => ?_, fun id row found runs => ?_⟩ (.inl rfl)
      · exact kept id (h.registered id ((exists_removed containerId id).mp there).1)
      · obtain ⟨other, old⟩ := running id row found runs
        exact (exists_removed containerId id).mpr ⟨h.running id row old runs, other⟩
    | some exc =>
      have failed : execute (ledgered service).database
          (fun r => r.upsertContainerStatus containerId "removed" (service.nowFn w).1) s₂ = _ :=
        execute_of_fault fault
      rw [ran, failed, or_iff_right nofun]
      constructor
      · intro agree row found runs
        exact ((exists_removed containerId containerId).mp (agree.running _ row found runs)).2 rfl
      · intro idle
        refine ⟨fun id there => ?_, fun id row found runs => ?_⟩
        · exact h.registered id ((exists_removed containerId id).mp there).1
        · refine (exists_removed containerId id).mpr ⟨h.running id row found runs, ?_⟩
          rintro rfl
          exact idle row found runs

end Removing

section Runs

variable (service : RuntimeManagerService τ)

theorem sound_iff {s : Managed τ} (h : Agree s) (call : ManagerCall) :
    Sound service s call ↔ GoesThrough service s call := by
  cases call with
  | createContainer spec ownerTaskId => exact create_sound_iff service spec ownerTaskId h
  | removeContainer containerId => exact remove_sound_iff service h containerId

/-- Every call sees to what it should, where it is made. -/
def AlwaysSound : List ManagerCall → Managed τ → Prop
  | [], _ => True
  | call :: calls, s => Sound service s call ∧ AlwaysSound calls (perform service call s).2

/-- Every call goes through, where it is made. -/
def AllGoThrough : List ManagerCall → Managed τ → Prop
  | [], _ => True
  | call :: calls, s => GoesThrough service s call ∧ AllGoThrough calls (perform service call s).2

/-- Registry and engine agree after every call, and no failed call leaves a container, exactly in
the runs in which no call fails behind its first effect. -/
theorem registry_agrees_iff {s : Managed τ} (h : Agree s) (calls : List ManagerCall) :
    AlwaysSound service calls s ↔ AllGoThrough service calls s := by
  induction calls generalizing s with
  | nil => exact Iff.rfl
  | cons call calls ih =>
    have here := sound_iff service h call
    constructor
    · rintro ⟨sound, rest⟩
      exact ⟨here.mp sound, (ih sound.1).mp rest⟩
    · rintro ⟨through, rest⟩
      have sound := here.mpr through
      exact ⟨sound, (ih sound.1).mpr rest⟩

end Runs

section Failures

/-- A service whose clock and database never fail. -/
def steadyService (driver : DockerDriver ℕ) : RuntimeManagerService ℕ where
  driver := driver
  engineId := "engine_X"
  nowFn n := ("2026-01-01T00:00:00Z", n)
  database n := (none, n)
  sha1Hex _ := "0"
  sha256Hex _ := "0"

def sleeper : ContainerCreateSpec := { image := "img1", command := .words ["sleep", "infinity"] }

/-- Nothing created, nothing registered. -/
def fresh : Managed ℕ := { world := { world := 0 } }

theorem agree_fresh : Agree fresh :=
  ⟨fun _ there => absurd there Lib.History.since_nil, fun _ _ found => nomatch found⟩

theorem registry_agrees_sleeper :
    AlwaysSound (steadyService countingDriver)
      [.createContainer sleeper none, .removeContainer "c0"] fresh := by
  refine (registry_agrees_iff _ agree_fresh _).mpr ⟨fun ref w made => ?_, fun w _ => .inl rfl, trivial⟩
  cases made
  exact ⟨1, rfl, rfl, by decide⟩

def startError : PyExc := ⟨"DockerContainerError", ["DockerDriverError", "Exception"], "port is taken"⟩

/-- A container that cannot be started is left behind, and the registry knows nothing of it. -/
theorem failed_start_leaves_container :
    let service := steadyService { countingDriver with
      startContainer := fun _ => Computation.raise startError }
    let ended := perform service (.createContainer sleeper none) fresh
    ended.1 = .error startError ∧ Exists ended.2.world.calls "c0" ∧
      "c0" ∉ ended.2.registry.containers.keys ∧
      ¬ AlwaysSound service [.createContainer sleeper none] fresh := by
  refine ⟨rfl, ⟨[], _, [_], rfl, rfl, ?_⟩, by decide, ?_⟩
  · simp [dropped]
  · rintro ⟨⟨agree, -⟩, -⟩
    have row := agree.registered "c0" ⟨[], _, [_], rfl, rfl, by simp [dropped]⟩
    exact absurd row (by decide)

end Failures

end SthBoring.ControlPlane.RegistryAgreement
