/- Module: SthBoring/Loop/RepeatedDeploys
   source: sdk_test_agent/loop/minimal_loop_service.py
   digest: When deployments can be repeated on one service. -/

import SthBoring.ArtifactManager.ArtifactIntegrity
import SthBoring.ArtifactManager.FreshTasks
import SthBoring.Loop.MinimalLoop

set_option autoImplicit false
set_option relaxedAutoImplicit false

namespace SthBoring.Loop.RepeatedDeploys

open SthBoring.Lib.Effect (Computation Completes Keeps Total)
open SthBoring.Lib.FileTree.FileSystem (put_entries_of_ne)
open SthBoring.Lib.MadeDirectories (Made Plain makeDirectories_singleton)
open SthBoring.Lib.OrderedDict (PyDict)
open SthBoring.Lib.PyValue (PyExc)
open SthBoring.ArtifactManager.Service
open SthBoring.ArtifactManager.FreshTasks
open SthBoring.ArtifactManager.ArtifactIntegrity (testDisk)
open SthBoring.ControlPlane.RuntimeManager
open SthBoring.ControlPlane.RuntimeRegistry
open SthBoring.Docker.DriverModels
open SthBoring.Execution.Models (PersistCall)
open SthBoring.Loop.MinimalLoop

variable {σ : Type} (service : MinimalLoopService σ)

/-- Nothing outside the loop fails: the driver does what it is asked, the database takes every
statement that its keys allow, the inspectors give a report, and ids are hexadecimal. -/
structure Steady : Prop where
  ids : Hexadecimal service.artifactService
  buildImage : ∀ spec, Total (service.driver.buildImage spec)
  createContainer : ∀ spec, Total (service.runtimeService.driver.createContainer spec)
  startContainer : ∀ id, Total (service.runtimeService.driver.startContainer id)
  database : ∀ w, (service.runtimeService.database w).1 = none
  packageInspector : ∀ inspect, service.packageInspector = some inspect → ∀ data, Total (inspect data)
  envInspector : ∀ inspect, service.envInspector = some inspect → ∀ data, Total (inspect data)

/-- The next ids to be drawn are new to the tables and to the disk. -/
structure Open (m : ℕ) (s : Bench σ) : Prop where
  store : Ahead service.artifactService m s.store
  stages : ∀ i, s.store.idsDrawn ≤ i → i < s.store.idsDrawn + m →
    idAt service.artifactService "stage" i ∉ s.stages.keys

/-- The world once the package inspector, if there is one, has seen the input. -/
def seen (payload : JavaDeployInput) (w : σ) : σ :=
  match service.packageInspector with
  | none => w
  | some inspect => (inspect payload w).2

/-- The world once a row was dated and its insertion was tried. -/
def inserting (w : σ) : σ :=
  (service.runtimeService.database (service.runtimeService.nowFn w).2).2

/-- The rows of a deployment get keys of their own. -/
def Unregistered (registry : Registry) (taskId imageId containerId : String) : Prop :=
  imageId ∉ registry.images.keys ∧ containerId ∉ registry.containers.keys ∧
    deploymentId service.runtimeService taskId containerId ∉ registry.deployments.keys

/-- The image that the driver builds and the container that it creates from it are not registered
yet, and no deployment has the id that the next task and the container give. -/
def NewKeys (s : Bench σ) (payload : JavaDeployInput) : Prop :=
  ∀ build w ref w',
    service.driver.buildImage (makeBuildSpecFromInput payload s!"{payload.sdkName}:latest")
      (seen service payload s.plane.world) = (.ok build, w) →
    service.runtimeService.driver.createContainer (makeContainerSpec build.imageId)
      (inserting service w) = (.ok ref, w') →
    Unregistered service s.plane.registry
      (idAt service.artifactService "task" s.store.idsDrawn) build.imageId ref.containerId

/-- The deployment that a result tells of is on record. -/
def Recorded (result : MinimalLoopResult) (registry : Registry) : Prop :=
  ∃ row, registry.deployments.get result.deploymentId = some row ∧
    row.taskId = some result.taskId ∧ row.imageId = some result.imageId ∧
    row.containerId = some result.containerId

def Completed (s : Bench σ) (payload : JavaDeployInput) : Prop :=
  ∃ result s', runJavaDeploy service payload s = (.ok result, s') ∧ Recorded result s'.plane.registry

/-- A deployment is at work on its task, having drawn so many ids. -/
structure AtWork (taskId : String) (m n : ℕ) (p : Plane σ) (s : Bench σ) : Prop where
  store : Working service.artifactService taskId m s.store
  stages : ∀ i, s.store.idsDrawn ≤ i → i < s.store.idsDrawn + m →
    idAt service.artifactService "stage" i ∉ s.stages.keys
  drawn : s.store.idsDrawn = n
  plane : s.plane = p

section Ingesting

variable {service} {payload : JavaDeployInput} {m n : ℕ} {taskId : String} {p : Plane σ}
  {s : Bench σ}

theorem AtWork.open (h : AtWork service taskId m n p s) : Open service m s :=
  ⟨h.store.ahead, h.stages⟩

theorem createTask_atWork (steady : Steady service) (taskType : String)
    (inputSummary : Option String) :
    Completes (fun s => Open service (m + 1) s ∧ s.store.idsDrawn = n ∧ s.plane = p)
      (inStore (createTask service.artifactService taskType inputSummary))
      (fun task s => task.taskId = idAt service.artifactService "task" n ∧
        AtWork service (idAt service.artifactService "task" n) m (n + 1) p s) := by
  have created := createTask_completes (m := m) steady.ids taskType inputSummary n
  unfold inStore
  refine Completes.within created (fun s h => ⟨h.1.store, h.2.1⟩) fun task store s h post => ?_
  obtain ⟨named, working, drawn⟩ := post
  refine ⟨named, working, fun i low high => ?_, drawn, h.2.2⟩
  have before := h.2.1
  dsimp only at low high
  exact h.1.stages i (by omega) (by omega)

theorem createStage_atWork (stageName status : String) :
    Completes (AtWork service taskId (m + 1) n p)
      (createStage service.artifactService taskId stageName status)
      (fun _ => AtWork service taskId m (n + 1) p) := by
  refine ⟨fun s h => ?_⟩
  have fresh := h.stages s.store.idsDrawn le_rfl (by omega)
  generalize named : (TaskStageRecord.mk (idAt service.artifactService "stage" s.store.idsDrawn) taskId
    stageName status (some (service.artifactService.isoTime s.store.ticks)) none none) = rec'
  have id : rec'.stageId = idAt service.artifactService "stage" s.store.idsDrawn := by rw [← named]
  let s₁ : Bench σ := { s with store := { s.store with idsDrawn := s.store.idsDrawn + 1 } }
  let s₂ : Bench σ := { s₁ with store := { s₁.store with ticks := s.store.ticks + 1 } }
  have drawn : inStore (newId service.artifactService "stage") s =
      (.ok (idAt service.artifactService "stage" s.store.idsDrawn), s₁) := rfl
  have dated : inStore (nowIso service.artifactService) s₁ =
      (.ok (service.artifactService.isoTime s.store.ticks), s₂) := rfl
  have inserted : insertStage rec' s₂ = (.ok (), { s₂ with stages := s.stages.set rec'.stageId rec' }) := by
    unfold insertStage
    rw [insertRow_of_new (by rw [id]; exact fresh)]
  refine ⟨rec', { s₂ with stages := s.stages.set rec'.stageId rec' }, ?_,
    h.store.drawn.ticked _, fun i low high mem => ?_, ?_, h.plane⟩
  · unfold createStage
    rw [Computation.bind_of_ok drawn, Computation.bind_of_ok dated]
    rw [named, Computation.bind_of_ok inserted]
    rfl
  · rcases (PyDict.mem_keys_set _ _ _ _).mp mem with own | old
    · exact h.store.ids.ne "stage" low high (own.trans id)
    · change s.store.idsDrawn + 1 ≤ i at low
      change i < s.store.idsDrawn + 1 + m at high
      exact h.stages i (by omega) (by omega) old
  · change s.store.idsDrawn + 1 = n + 1
    rw [h.drawn]

theorem persist_atWork {call : PersistCall} (plain : Plain taskId) (filed : Files taskId call) :
    Completes (AtWork service taskId (m + 1) n p) (persist service call)
      (fun _ => AtWork service taskId m (n + 1) p) := by
  have persisted : Completes (fun s => Working service.artifactService taskId (m + 1) s ∧ _) _ _ :=
    persist_completes plain filed n
  unfold persist inStore
  refine Completes.within persisted (fun s h => ⟨h.store, h.drawn⟩) fun rec' store s h post => ?_
  obtain ⟨working, drawn⟩ := post
  refine ⟨working, fun i low high => ?_, drawn, h.plane⟩
  have before := h.drawn
  dsimp only at low high
  exact h.stages i (by omega) (by omega)

theorem AtWork.spare (h : AtWork service taskId (m + 1) n p s) : AtWork service taskId m n p s :=
  ⟨h.store.spare, fun i low high => h.stages i low (by omega), h.drawn, h.plane⟩

theorem files_inputCall (taskId stageId kind : String) {name : String} (named : Plain name)
    (content : ByteArray) (mimeType : String) :
    Files taskId (inputCall taskId stageId kind name content mimeType) where
  keywords := rfl
  task := rfl
  subdir := by
    change "inputs" ∈ subdirs
    decide
  name := named

theorem files_dockerfileCall (taskId stageId : String) (spec : BuildImageSpec) :
    Files taskId (dockerfileCall taskId stageId spec) where
  keywords := rfl
  task := rfl
  subdir := by
    change "generated" ∈ subdirs
    decide
  name := by
    change Plain "Dockerfile"
    decide

theorem persistSettings_atWork (plain : Plain taskId) (stageId : String)
    (settings : Option ByteArray) :
    Completes (AtWork service taskId (m + 1) n p) (persistSettings service taskId stageId settings)
      (fun _ s => ∃ n, AtWork service taskId m n p s) := by
  cases settings with
  | none => exact Completes.pure fun s h => ⟨n, h.spare⟩
  | some settings =>
    have named : Plain "settings.xml" := by decide
    have filed := files_inputCall taskId stageId "input.settings_xml" named settings "application/xml"
    unfold persistSettings
    dsimp only
    exact Completes.bind (persist_atWork plain filed) fun _ => Completes.pure fun s h => ⟨n + 1, h⟩

theorem inspected_atWork (steady : Steady service) (payload : JavaDeployInput) :
    Completes (AtWork service taskId m n p) (inspected service.packageInspector payload)
      (fun _ => AtWork service taskId m n { p with world := seen service payload p.world }) := by
  refine ⟨fun s h => ?_⟩
  rcases there : service.packageInspector with _ | inspect
  · have same : seen service payload p.world = p.world := by rw [seen, there]
    exact ⟨none, s, rfl, ⟨h.store, h.stages, h.drawn, by rw [same]; exact h.plane⟩⟩
  · obtain ⟨status, w, reported⟩ := steady.packageInspector inspect there payload p.world
    have after : seen service payload p.world = w := by
      rw [seen, there]
      exact congrArg Prod.snd reported
    have asked : inPlane (outside (inspect payload)) s =
        (.ok status, { s with plane := { p with world := w } }) := by
      unfold inPlane outside Computation.within
      rw [h.plane, reported]
    refine ⟨some status.text, { s with plane := { p with world := w } }, ?_,
      ⟨h.store, h.stages, h.drawn, by rw [after]⟩⟩
    exact Computation.bind_of_ok asked _

/-- A deployment gets past its input files and its Dockerfile. -/
theorem ingest_completes (steady : Steady service) (payload : JavaDeployInput) :
    Completes (fun s => Open service (m + 6) s ∧ s.store.idsDrawn = n ∧ s.plane = p)
      (ingest service payload)
      (fun ingested s => ingested.taskId = idAt service.artifactService "task" n ∧
        Open service m s ∧ s.plane = { p with world := seen service payload p.world }) := by
  have plain := plain_task steady.ids n
  have jar : Plain "app.jar" := by decide
  have pom : Plain "pom.xml" := by decide
  have created := createTask_atWork (m := m + 5) (n := n) (p := p) steady "sdk_deploy"
    (some s!"deploy {payload.sdkName}")
  generalize idAt service.artifactService "task" n = taskId at *
  unfold ingest
  refine Completes.bind created fun task => Completes.given fun named => ?_
  subst named
  refine Completes.bind (createStage_atWork _ _) fun stage => ?_
  refine Completes.bind (persist_atWork plain (files_inputCall _ _ _ jar _ _)) fun jarArt => ?_
  refine Completes.bind (persist_atWork plain (files_inputCall _ _ _ pom _ _)) fun pomArt => ?_
  refine Completes.bind (persistSettings_atWork plain _ _) fun _ => Completes.some fun k => ?_
  refine Completes.bind (inspected_atWork steady payload) fun packageStatus => ?_
  refine Completes.bind (persist_atWork plain (files_dockerfileCall _ _ _)) fun dockerfileArt => ?_
  exact Completes.pure fun s h => ⟨rfl, h.open, h.plane⟩

end Ingesting

section Deploying

variable {service} {payload : JavaDeployInput} {ingested : Ingested} {imageId containerId : String}
  {s : Bench σ} {p : Plane σ}

theorem inPlane_eq {α : Type} {m : Computation (Plane σ) PyExc α} {outcome : Except PyExc α}
    (h : m s.plane = (outcome, p)) : inPlane m s = (outcome, { s with plane := p }) := by
  unfold inPlane Computation.within
  rw [h]

/-- An inspector leaves the registry alone. -/
theorem inspected_spec {β : Type} {inspector : Option (β → Computation σ PyExc InspectionStatus)}
    (steady : ∀ inspect, inspector = some inspect → ∀ data, Total (inspect data)) (data : β)
    (s : Bench σ) :
    ∃ status w, inspected inspector data s =
      (.ok status, { s with plane := { s.plane with world := w } }) := by
  rcases inspector with _ | inspect
  · exact ⟨none, s.plane.world, rfl⟩
  · obtain ⟨status, w, reported⟩ := steady inspect rfl data s.plane.world
    have asked : inPlane (outside (inspect data)) s =
        (.ok status, { s with plane := { s.plane with world := w } }) := by
      refine inPlane_eq ?_
      unfold outside Computation.within
      rw [reported]
    exact ⟨some status.text, w, Computation.bind_of_ok asked _⟩

/-- A call returns what is on record if its rows get keys of their own, and raises otherwise. -/
inductive Ended (free : Prop) : Except PyExc MinimalLoopResult × Bench σ → Prop where
  | completed {result : MinimalLoopResult} {s' : Bench σ} (new : free)
      (recorded : Recorded result s'.plane.registry) : Ended free (.ok result, s')
  | refused {exc : PyExc} {s' : Bench σ} (taken : ¬ free) : Ended free (.error exc, s')

theorem Ended.iff {free : Prop} {ended : Except PyExc MinimalLoopResult × Bench σ}
    (h : Ended free ended) :
    (∃ result s', ended = (.ok result, s') ∧ Recorded result s'.plane.registry) ↔ free := by
  cases h with
  | completed new recorded => exact iff_of_true ⟨_, _, rfl, recorded⟩ new
  | refused taken => exact iff_of_false nofun taken

theorem recordDeployment_ended (steady : Steady service) (s : Bench σ) :
    Ended (deploymentId service.runtimeService ingested.taskId containerId ∉
        s.plane.registry.deployments.keys)
      (recordDeployment service payload ingested imageId containerId s) := by
  obtain ⟨status, w, reported⟩ := inspected_spec steady.envInspector
    { engineId := service.runtimeService.engineId, imageId := some imageId
      containerId := containerId } s
  let s₁ : Bench σ := { s with plane := { s.plane with world := w } }
  by_cases taken : deploymentId service.runtimeService ingested.taskId containerId ∈
      s.plane.registry.deployments.keys
  · obtain ⟨exc, p, refused⟩ := createDeploymentRecord_of_taken service.runtimeService
      (s := s₁.plane) payload.sdkName payload.sdkVersion imageId
      (fingerprintInput service payload imageId) 1 (steady.database _) taken
    have ran : recordDeployment service payload ingested imageId containerId s = _ :=
      (Computation.bind_of_ok reported _).trans
        (Computation.bind_of_error (inPlane_eq (s := s₁) refused) _)
    rw [ran]
    exact .refused fun new => new taken
  · obtain ⟨row, fields, recorded⟩ := createDeploymentRecord_of_new service.runtimeService
      (s := s₁.plane) payload.sdkName payload.sdkVersion imageId
      (fingerprintInput service payload imageId) 1 (steady.database _) taken
    have ran : recordDeployment service payload ingested imageId containerId s = _ :=
      (Computation.bind_of_ok reported _).trans
        (Computation.bind_of_ok (inPlane_eq (s := s₁) recorded) _)
    rw [ran]
    exact .completed taken ⟨row, PyDict.get_set_self _ _ _, fields⟩

/-- The container is created and started, and its record is next. -/
theorem createContainer_eq (steady : Steady service) {spec : ContainerCreateSpec}
    (ownerTaskId : Option String) {ref : ContainerRef} {w : σ}
    (made : service.runtimeService.driver.createContainer spec p.world = (.ok ref, w)) :
    ∃ w', createContainer service.runtimeService spec ownerTaskId p =
      recordContainer service.runtimeService spec ownerTaskId ref { p with world := w' } := by
  obtain ⟨⟨⟩, w', started⟩ := steady.startContainer ref.containerId w
  have first : outside (service.runtimeService.driver.createContainer spec) p =
      (.ok ref, { p with world := w }) := by
    unfold outside Computation.within
    rw [made]
  have second : outside (service.runtimeService.driver.startContainer ref.containerId)
      { p with world := w } = (.ok (), { p with world := w' }) := by
    unfold outside Computation.within
    rw [started]
  exact ⟨w', (Computation.bind_of_ok first _).trans (Computation.bind_of_ok second _)⟩

/-- A deployment whose image is registered already raises, and registers nothing. -/
theorem deployImage_of_taken (steady : Steady service) (payload : JavaDeployInput)
    (ingested : Ingested) {build : BuildImageResult} {s : Bench σ}
    (image : build.imageId ∈ s.plane.registry.images.keys) :
    ∃ exc s', deployImage service payload ingested build s = (.error exc, s') ∧
      s'.plane.registry = s.plane.registry := by
  obtain ⟨exc, refused⟩ := registerImage_of_taken service.runtimeService (s := s.plane) build.tags
    "built" (some ingested.taskId) (steady.database _) image
  exact ⟨exc, _, Computation.bind_of_error (inPlane_eq refused) _, rfl⟩

/-- What a deployment comes to behind the build. -/
theorem deployImage_ended (steady : Steady service) {build : BuildImageResult} {ref : ContainerRef}
    {w : σ} (made : service.runtimeService.driver.createContainer (makeContainerSpec build.imageId)
      (inserting service s.plane.world) = (.ok ref, w)) :
    Ended (Unregistered service s.plane.registry ingested.taskId build.imageId ref.containerId)
      (deployImage service payload ingested build s) := by
  by_cases image : build.imageId ∈ s.plane.registry.images.keys
  · obtain ⟨exc, s', ran, -⟩ := deployImage_of_taken steady payload ingested image
    rw [ran]
    exact .refused fun new => new.1 image
  obtain ⟨rec', registered⟩ := registerImage_of_new service.runtimeService (s := s.plane) build.tags
    "built" (some ingested.taskId) (steady.database _) image
  let s₁ : Bench σ := { s with plane := ⟨inserting service s.plane.world,
    { s.plane.registry with images := s.plane.registry.images.set build.imageId rec' }⟩ }
  have first : inPlane (registerImage service.runtimeService build.imageId build.tags "built"
      (some ingested.taskId)) s = (.ok rec', s₁) := inPlane_eq registered
  obtain ⟨w', created⟩ := createContainer_eq (p := s₁.plane) steady (some ingested.taskId) made
  by_cases container : ref.containerId ∈ s.plane.registry.containers.keys
  · obtain ⟨exc, refused⟩ := recordContainer_of_refused service.runtimeService
      (s := { s₁.plane with world := w' }) (makeContainerSpec build.imageId) (some ingested.taskId)
      (fun h => h.2 container)
    have ran : deployImage service payload ingested build s = _ :=
      (Computation.bind_of_ok first _).trans
        (Computation.bind_of_error (inPlane_eq (s := s₁) (created.trans refused)) _)
    rw [ran]
    exact .refused fun new => new.2.1 container
  · obtain ⟨row, named, -, recorded⟩ := recordContainer_of_new service.runtimeService
      (s := { s₁.plane with world := w' }) (makeContainerSpec build.imageId) (some ingested.taskId)
      (steady.database _) container
    have ran : deployImage service payload ingested build s = _ :=
      (Computation.bind_of_ok first _).trans
        (Computation.bind_of_ok (inPlane_eq (s := s₁) (created.trans recorded)) _)
    rw [named] at ran
    obtain ⟨s₂, ran, deployments⟩ : ∃ s₂ : Bench σ, deployImage service payload ingested build s =
        recordDeployment service payload ingested build.imageId ref.containerId s₂ ∧
        s₂.plane.registry.deployments = s.plane.registry.deployments := ⟨_, ran, rfl⟩
    have rest : Unregistered service s.plane.registry ingested.taskId build.imageId ref.containerId ↔
        deploymentId service.runtimeService ingested.taskId ref.containerId ∉
          s.plane.registry.deployments.keys :=
      ⟨fun h => h.2.2, fun h => ⟨image, container, h⟩⟩
    rw [rest, ran, ← deployments]
    exact recordDeployment_ended steady s₂

theorem keeps_inPlane {α : Type} (m : ℕ) (step : Computation (Plane σ) PyExc α) :
    Keeps (Open service m) (inPlane step) :=
  Keeps.within step fun _ _ h => ⟨h.store, h.stages⟩

theorem keeps_inspected {β : Type} (m : ℕ)
    (inspector : Option (β → Computation σ PyExc InspectionStatus)) (data : β) :
    Keeps (Open service m) (inspected inspector data) := by
  rcases inspector with _ | inspect
  · exact Keeps.pure _
  · exact Keeps.bind (keeps_inPlane m _) fun _ => Keeps.pure _

/-- Behind its input files a deployment leaves the store alone. -/
theorem keeps_deployImage (m : ℕ) (build : BuildImageResult) :
    Keeps (Open service m) (deployImage service payload ingested build) := by
  unfold deployImage recordDeployment
  refine Keeps.bind (keeps_inPlane m _) fun _ => Keeps.bind (keeps_inPlane m _) fun _ => ?_
  exact Keeps.bind (keeps_inspected m _ _) fun _ => Keeps.bind (keeps_inPlane m _) fun _ => Keeps.pure _

/-- A deployment gets to its build, with the next id for its task. -/
theorem runJavaDeploy_eq (steady : Steady service) (payload : JavaDeployInput) {m : ℕ} (h : Open service (m + 6) s) :
    ∃ ingested build w s₁, runJavaDeploy service payload s =
        deployImage service payload ingested build s₁ ∧
      service.driver.buildImage (makeBuildSpecFromInput payload s!"{payload.sdkName}:latest")
        (seen service payload s.plane.world) = (.ok build, w) ∧
      s₁.plane = { s.plane with world := w } ∧
      ingested.taskId = idAt service.artifactService "task" s.store.idsDrawn ∧ Open service m s₁ := by
  obtain ⟨ingested, s₁, first, named, opened, plane⟩ := (ingest_completes (m := m) (p := s.plane) steady
    payload).ends s ⟨h, rfl, rfl⟩
  obtain ⟨build, w, built⟩ := steady.buildImage
    (makeBuildSpecFromInput payload s!"{payload.sdkName}:latest") (seen service payload s.plane.world)
  have second : inPlane (outside (service.driver.buildImage
      (makeBuildSpecFromInput payload s!"{payload.sdkName}:latest"))) s₁ =
        (.ok build, { s₁ with plane := { s.plane with world := w } }) := by
    refine inPlane_eq ?_
    unfold outside Computation.within
    rw [plane]
    dsimp only
    rw [built]
  have ran : runJavaDeploy service payload s = _ :=
    (Computation.bind_of_ok first _).trans (Computation.bind_of_ok second _)
  exact ⟨ingested, build, w, _, ran, built, rfl, named, ⟨opened.store, opened.stages⟩⟩

/-- A deployment on a bench that is open to it returns what is on record exactly if its rows get
keys of their own, and leaves the bench open to the next. -/
theorem runJavaDeploy_ended (steady : Steady service) (payload : JavaDeployInput) {m : ℕ} (h : Open service (m + 6) s) :
    Ended (NewKeys service s payload) (runJavaDeploy service payload s) ∧
      Open service m (runJavaDeploy service payload s).2 := by
  obtain ⟨ingested, build, w, s₁, ran, built, plane, named, opened⟩ :=
    runJavaDeploy_eq steady payload h
  obtain ⟨ref, w', made⟩ := steady.createContainer (makeContainerSpec build.imageId) (inserting service w)
  have keys : NewKeys service s payload ↔
      Unregistered service s₁.plane.registry ingested.taskId build.imageId ref.containerId := by
    rw [named, plane]
    constructor
    · exact fun new => new build w ref w' built made
    · intro free build' v ref' v' built' made'
      obtain ⟨same, rfl⟩ := Prod.ext_iff.mp (built.symm.trans built')
      obtain rfl : build = build' := Except.ok.inj same
      obtain ⟨same, -⟩ := Prod.ext_iff.mp (made.symm.trans made')
      obtain rfl : ref = ref' := Except.ok.inj same
      exact free
  have made' : service.runtimeService.driver.createContainer (makeContainerSpec build.imageId)
      (inserting service s₁.plane.world) = (.ok ref, w') := by
    rw [plane]
    exact made
  rw [keys, ran]
  exact ⟨deployImage_ended steady made', (keeps_deployImage m build).after opened⟩

end Deploying

section Images

variable {service} {payload : JavaDeployInput} {ingested : Ingested} {id : String} {s : Bench σ}

/-- An image is registered. -/
abbrev HasImage (id : String) (registry : Registry) : Prop := id ∈ registry.images.keys

theorem images_insertContainer {rec' : ContainerRecord} {r r' : Registry}
    (done : r.insertContainer rec' = .ok r') : r'.images = r.images := by
  by_cases taken : rec'.containerId ∈ r.containers.keys
  · obtain ⟨exc, refused⟩ := insertContainer_of_taken rec' taken
    cases refused.symm.trans done
  · cases (insertContainer_of_new rec' taken).symm.trans done
    rfl

theorem images_insertDeployment {rec' : DeploymentRecord} {r r' : Registry}
    (done : r.insertDeployment rec' = .ok r') : r'.images = r.images := by
  by_cases taken : rec'.deploymentId ∈ r.deployments.keys
  · obtain ⟨exc, refused⟩ := insertDeployment_of_taken rec' taken
    cases refused.symm.trans done
  · cases (insertDeployment_of_new rec' taken).symm.trans done
    rfl

theorem keeps_createContainer (spec : ContainerCreateSpec) (ownerTaskId : Option String) :
    Keeps (fun p : Plane σ => HasImage id p.registry)
      (createContainer service.runtimeService spec ownerTaskId) := by
  refine Keeps.bind (keeps_outside _) fun ref => Keeps.bind (keeps_outside _) fun _ => ?_
  refine Keeps.bind (fun _ h => h) fun createdAt => Keeps.bind (fun _ h => h) fun updatedAt => ?_
  refine Keeps.bind (keeps_execute fun r r' done there => ?_) fun _ => Keeps.pure _
  rw [HasImage, images_insertContainer done]
  exact there

theorem keeps_createDeploymentRecord (taskId sdkName : String) (sdkVersion : Option String)
    (imageId containerId : String) (fingerprint : EnvFingerprintInput) (reusable : ℤ) :
    Keeps (fun p : Plane σ => HasImage id p.registry)
      (createDeploymentRecord service.runtimeService taskId sdkName sdkVersion imageId containerId
        fingerprint reusable) := by
  refine Keeps.bind (fun _ h => h) fun createdAt => Keeps.bind (fun _ h => h) fun updatedAt => ?_
  refine Keeps.bind (keeps_execute fun r r' done there => ?_) fun _ => Keeps.pure _
  rw [HasImage, images_insertDeployment done]
  exact there

theorem keeps_inPlane_image {α : Type} {step : Computation (Plane σ) PyExc α}
    (h : Keeps (fun p : Plane σ => HasImage id p.registry) step) :
    Keeps (fun s : Bench σ => HasImage id s.plane.registry) (inPlane step) := by
  intro s hs
  have after := h s.plane hs
  unfold inPlane Computation.within
  rcases ran : step s.plane with ⟨exc | a, p⟩ <;> rw [ran] at after <;> exact after

/-- Behind the build the image is registered, by this deployment or by an earlier one. -/
theorem deployImage_registers (steady : Steady service) (payload : JavaDeployInput)
    (ingested : Ingested) (build : BuildImageResult) (s : Bench σ) :
    HasImage build.imageId (deployImage service payload ingested build s).2.plane.registry := by
  by_cases image : build.imageId ∈ s.plane.registry.images.keys
  · obtain ⟨exc, s', ran, kept⟩ := deployImage_of_taken steady payload ingested image
    rw [ran]
    show HasImage build.imageId s'.plane.registry
    rw [kept]
    exact image
  · obtain ⟨rec', registered⟩ := registerImage_of_new service.runtimeService (s := s.plane) build.tags
      "built" (some ingested.taskId) (steady.database _) image
    have ran : deployImage service payload ingested build s = _ :=
      Computation.bind_of_ok (inPlane_eq registered) _
    rw [ran]
    refine Keeps.after (I := fun s : Bench σ => HasImage build.imageId s.plane.registry)
      (Keeps.bind (keeps_inPlane_image (keeps_createContainer _ _)) fun cont => Keeps.bind ?_ fun _ =>
        Keeps.bind (keeps_inPlane_image (keeps_createDeploymentRecord _ _ _ _ _ _ _)) fun _ =>
          Keeps.pure _) ?_
    · rcases service.envInspector with _ | inspect
      · exact Keeps.pure _
      · exact Keeps.bind (keeps_inPlane_image (keeps_outside _)) fun _ => Keeps.pure _
    · exact (PyDict.mem_keys_set _ _ _ _).mpr (.inl rfl)

/-- The second deployment whose build gives the id of an image that is registered raises. -/
theorem not_completed_of_registered (steady : Steady service) {m : ℕ} (h : Open service (m + 6) s)
    {build : BuildImageResult} {w : σ}
    (built : service.driver.buildImage (makeBuildSpecFromInput payload s!"{payload.sdkName}:latest")
      (seen service payload s.plane.world) = (.ok build, w))
    (registered : HasImage build.imageId s.plane.registry) : ¬ Completed service s payload := by
  obtain ⟨ref, w', made⟩ := steady.createContainer (makeContainerSpec build.imageId) (inserting service w)
  intro completed
  have new := (runJavaDeploy_ended steady payload h).1.iff.mp completed
  exact (new build w ref w' built made).1 registered

end Images

section Runs

/-- Every deployment of a sequence is completed, where it is made. -/
def AllCompleted : List JavaDeployInput → Bench σ → Prop
  | [], _ => True
  | payload :: payloads, s =>
    Completed service s payload ∧ AllCompleted payloads (runJavaDeploy service payload s).2

/-- Every deployment of a sequence gets keys of its own, where it is made. -/
def AllNew : List JavaDeployInput → Bench σ → Prop
  | [], _ => True
  | payload :: payloads, s =>
    NewKeys service s payload ∧ AllNew payloads (runJavaDeploy service payload s).2

/-- With nothing failing outside the loop, a sequence of deployments goes through exactly if no
image, no container and no deployment of it has the key of an earlier row. -/
theorem deployments_repeat_iff (steady : Steady service) (payloads : List JavaDeployInput)
    {s : Bench σ} (h : Open service (6 * payloads.length) s) :
    AllCompleted service payloads s ↔ AllNew service payloads s := by
  induction payloads generalizing s with
  | nil => exact Iff.rfl
  | cons payload payloads ih =>
    obtain ⟨ended, next⟩ := runJavaDeploy_ended steady payload h
    exact and_congr ended.iff (ih next)

end Runs

section Caching

def testManager : RuntimeManagerService ℕ where
  driver := countingDriver
  engineId := "engine_X"
  nowFn n := ("2026-01-01T00:00:00Z", n)
  database n := (none, n)
  sha1Hex raw := toString raw.size
  sha256Hex raw := toString raw.size

/-- A loop over a driver that builds the same image for the same input. -/
def testLoop : MinimalLoopService ℕ where
  artifactService := {
    artifactRootDir := "artifacts"
    sha256Hex := fun content => toString content.size
    uuidHex := fun n => String.ofList (List.replicate (n % 32) 'b' ++ List.replicate (32 - n % 32) 'a')
    isoTime := fun n => toString n }
  runtimeService := testManager
  driver := countingDriver

def testBench : Bench ℕ where
  store := Store.new testDisk
  plane := { world := 0 }

def testInput : JavaDeployInput := ⟨"acme", some "1.0", .empty, .empty, none, none⟩

theorem steady_testLoop : Steady testLoop where
  ids n c mem := by
    have chars : c ∈ List.replicate (n % 32) 'b' ++ List.replicate (32 - n % 32) 'a' := by
      rwa [← String.toList_ofList (l := List.replicate (n % 32) 'b' ++ _)]
    rcases List.mem_append.mp chars with front | back
    · rw [List.eq_of_mem_replicate front]
      decide
    · rw [List.eq_of_mem_replicate back]
      decide
  buildImage _ := Total.pure _
  createContainer _ n := ⟨_, _, rfl⟩
  startContainer _ := Total.pure _
  database _ := rfl
  packageInspector _ none := nomatch none
  envInspector _ none := nomatch none

/-- The first ids of the source are new to a bench on which nothing was done yet. -/
theorem open_testBench {m : ℕ} (few : m ≤ 12) : Open testLoop m testBench := by
  have distinct : ∀ j < 12, ∀ i < j,
      digits testLoop.artifactService i ≠ digits testLoop.artifactService j := by decide +kernel
  have root : Plain "artifacts" := by decide
  have parts : Lib.PosixPath.parts "artifacts" = ["artifacts"] := root.parts
  have bare : ∀ p, p ≠ ["work"] → testDisk.entries p = none := fun p other => if_neg other
  have free : ∀ content, testDisk.entries (["work"] ++ ["artifacts"]) ≠ some (.file content) := by
    intro content
    rw [bare _ (by decide)]
    exact Option.some_ne_none _ ∘ Eq.symm
  have made : Made "artifacts" testDisk (testDisk.put (["work"] ++ ["artifacts"]) .directory) := by
    unfold Made
    rw [parts]
    exact makeDirectories_singleton root free ""
  have home : place testLoop.artifactService testBench.store = ["work"] ++ ["artifacts"] := by
    unfold place
    change Lib.PosixPath.canonical ["work"] "artifacts" = _
    rw [Lib.PosixPath.canonical, parts]
    decide
  refine ⟨⟨_, made, ?_, ?_, ?_, ?_⟩, ?_⟩
  · intro i j _ apart high
    change j < 0 + m at high
    exact distinct j (by omega) i apart
  · intro i _ _ mem
    cases mem
  · intro i _ _ mem
    cases mem
  · intro i _ _ rest
    rw [home, put_entries_of_ne _ _ (by simp), bare _ (by simp)]
  · intro i _ _ mem
    cases mem

theorem deployments_repeat_testInput : AllCompleted testLoop [testInput] testBench := by
  refine (deployments_repeat_iff testLoop steady_testLoop [testInput]
    (open_testBench (by decide))).mpr ⟨?_, trivial⟩
  intro build w ref w' _ _
  exact ⟨List.not_mem_nil, List.not_mem_nil, List.not_mem_nil⟩

/-- The second deployment of the same input fails on the row of its image. -/
theorem cached_build_fails :
    Completed testLoop testBench testInput ∧
      ¬ Completed testLoop (runJavaDeploy testLoop testInput testBench).2 testInput ∧
      ¬ AllCompleted testLoop [testInput, testInput] testBench := by
  obtain ⟨ended, next⟩ := runJavaDeploy_ended (m := 6) steady_testLoop testInput
    (open_testBench (m := 12) le_rfl)
  have first : Completed testLoop testBench testInput := by
    refine ended.iff.mpr fun build w ref w' _ _ => ?_
    exact ⟨List.not_mem_nil, List.not_mem_nil, List.not_mem_nil⟩
  have second : ¬ Completed testLoop (runJavaDeploy testLoop testInput testBench).2 testInput := by
    obtain ⟨ingested, build, w, s₁, ran, built, -⟩ :=
      runJavaDeploy_eq (m := 6) steady_testLoop testInput (open_testBench (m := 12) le_rfl)
    have registered := deployImage_registers steady_testLoop testInput ingested build s₁
    rw [← ran] at registered
    cases built
    exact not_completed_of_registered (m := 0) steady_testLoop next rfl registered
  exact ⟨first, second, fun all => second all.2.1⟩

end Caching

end SthBoring.Loop.RepeatedDeploys
