/- Module: SthBoring/ControlPlane/RuntimeRegistry
   source: sdk_test_agent/control_plane/runtime_registry/runtime_registry_models.py,
     runtime_registry_schema.py, runtime_registry_repo.py
   digest: The tables of the runtime registry, and the statements that change them. -/

import SthBoring.ArtifactManager.Service

set_option autoImplicit false
set_option relaxedAutoImplicit false

namespace SthBoring.ControlPlane.RuntimeRegistry

universe u

open SthBoring.Lib.Effect (Computation Keeps)
open SthBoring.Lib.OrderedDict (PyDict)
open SthBoring.Lib.PyValue (PyExc)
open SthBoring.ArtifactManager.Service (integrityError)

structure ImageRecord where
  imageId : String
  engineId : String
  repoTagsJson : Option String
  sourceType : String
  sourceRef : Option String
  createdAt : Option String
  metadataJson : Option String

structure ContainerRecord where
  containerId : String
  engineId : String
  imageId : Option String
  name : Option String
  status : Option String
  workdir : Option String
  envJson : Option String
  portsJson : Option String
  labelsJson : Option String
  createdAt : Option String
  updatedAt : Option String
  ownerTaskId : Option String
  metadataJson : Option String

structure DeploymentRecord where
  deploymentId : String
  taskId : Option String
  sdkName : String
  sdkVersion : Option String
  engineId : Option String
  imageId : Option String
  containerId : Option String
  envFingerprint : Option String
  status : Option String
  reusable : ℤ
  createdAt : Option String
  updatedAt : Option String
  metadataJson : Option String

/-- The tables, each by its primary key. Foreign keys are not enforced. -/
structure Registry where
  images : PyDict String ImageRecord := .empty
  containers : PyDict String ContainerRecord := .empty
  deployments : PyDict String DeploymentRecord := .empty

/-- Insert a row under a key that must be new. -/
def insertRow {ρ : Type} (column key : String) (row : ρ) (table : PyDict String ρ) :
    Except PyExc (PyDict String ρ) :=
  if key ∈ table.keys then .error (integrityError column) else .ok (table.set key row)

namespace Registry

def insertImage (rec' : ImageRecord) (r : Registry) : Except PyExc Registry := do
  let images ← insertRow "images.image_id" rec'.imageId rec' r.images
  return { r with images := images }

def insertContainer (rec' : ContainerRecord) (r : Registry) : Except PyExc Registry := do
  let containers ← insertRow "containers.container_id" rec'.containerId rec' r.containers
  return { r with containers := containers }

def insertDeployment (rec' : DeploymentRecord) (r : Registry) : Except PyExc Registry := do
  let deployments ← insertRow "deployments.deployment_id" rec'.deploymentId rec' r.deployments
  return { r with deployments := deployments }

/-- An UPDATE: where there is no such row it changes nothing. -/
def upsertContainerStatus (containerId status updatedAt : String) (r : Registry) :
    Except PyExc Registry :=
  match r.containers.get containerId with
  | none => .ok r
  | some row =>
    let row' := { row with status := some status, updatedAt := some updatedAt }
    .ok { r with containers := r.containers.set containerId row' }

end Registry

/-- The registry beside the rest of the world. -/
structure Plane (σ : Type u) where
  world : σ
  registry : Registry := {}

variable {σ : Type u} {ρ : Type}

/-- What the database raises of its own accord at a statement, if anything. -/
abbrev Database (σ : Type u) := σ → Option PyExc × σ

/-- Run a statement and commit it. One that raises is rolled back. -/
def execute (database : Database σ) (statement : Registry → Except PyExc Registry) :
    Computation (Plane σ) PyExc Unit := fun s =>
  match (database s.world).1 with
  | some exc => (.error exc, { s with world := (database s.world).2 })
  | none =>
    match statement s.registry with
    | .error exc => (.error exc, { s with world := (database s.world).2 })
    | .ok registry => (.ok (), ⟨(database s.world).2, registry⟩)

/-- Call something outside the registry. -/
def outside {α : Type} (m : Computation σ PyExc α) : Computation (Plane σ) PyExc α :=
  Computation.within Plane.world (fun w s => { s with world := w }) m

section Statements

variable {column key : String} {row : ρ} {table : PyDict String ρ} {database : Database σ}
  {statement : Registry → Except PyExc Registry} {s : Plane σ}

theorem insertRow_of_new (new : key ∉ table.keys) :
    insertRow column key row table = .ok (table.set key row) :=
  if_neg new

theorem insertRow_of_taken (taken : key ∈ table.keys) :
    insertRow column key row table = .error (integrityError column) :=
  if_pos taken

theorem execute_of_fault {exc : PyExc} (fault : (database s.world).1 = some exc) :
    execute database statement s = (.error exc, { s with world := (database s.world).2 }) := by
  unfold execute
  rw [fault]

theorem execute_of_error {exc : PyExc} (works : (database s.world).1 = none)
    (refused : statement s.registry = .error exc) :
    execute database statement s = (.error exc, { s with world := (database s.world).2 }) := by
  unfold execute
  rw [works, refused]

theorem execute_of_ok {registry : Registry} (works : (database s.world).1 = none)
    (done : statement s.registry = .ok registry) :
    execute database statement s = (.ok (), ⟨(database s.world).2, registry⟩) := by
  unfold execute
  rw [works, done]

/-- A statement that keeps a property of the tables keeps it as it is run. -/
theorem keeps_execute {I : Registry → Prop}
    (h : ∀ r r', statement r = .ok r' → I r → I r') :
    Keeps (fun s : Plane σ => I s.registry) (execute database statement) := by
  intro s hs
  unfold execute
  split
  · exact hs
  · split
    · exact hs
    · next registry done => exact h s.registry registry done hs

theorem keeps_outside {α : Type} {I : Registry → Prop} (m : Computation σ PyExc α) :
    Keeps (fun s : Plane σ => I s.registry) (outside m) :=
  Keeps.within m fun _ _ h => h

theorem insertImage_of_new (rec' : ImageRecord) {registry : Registry}
    (new : rec'.imageId ∉ registry.images.keys) :
    registry.insertImage rec' =
      .ok { registry with images := registry.images.set rec'.imageId rec' } := by
  rw [Registry.insertImage, insertRow_of_new new]
  rfl

theorem insertImage_of_taken (rec' : ImageRecord) {registry : Registry}
    (taken : rec'.imageId ∈ registry.images.keys) :
    ∃ exc, registry.insertImage rec' = .error exc := by
  rw [Registry.insertImage, insertRow_of_taken taken]
  exact ⟨_, rfl⟩

theorem insertContainer_of_new (rec' : ContainerRecord) {registry : Registry}
    (new : rec'.containerId ∉ registry.containers.keys) :
    registry.insertContainer rec' =
      .ok { registry with containers := registry.containers.set rec'.containerId rec' } := by
  rw [Registry.insertContainer, insertRow_of_new new]
  rfl

theorem insertContainer_of_taken (rec' : ContainerRecord) {registry : Registry}
    (taken : rec'.containerId ∈ registry.containers.keys) :
    ∃ exc, registry.insertContainer rec' = .error exc := by
  rw [Registry.insertContainer, insertRow_of_taken taken]
  exact ⟨_, rfl⟩

theorem insertDeployment_of_new (rec' : DeploymentRecord) {registry : Registry}
    (new : rec'.deploymentId ∉ registry.deployments.keys) :
    registry.insertDeployment rec' =
      .ok { registry with deployments := registry.deployments.set rec'.deploymentId rec' } := by
  rw [Registry.insertDeployment, insertRow_of_new new]
  rfl

theorem insertDeployment_of_taken (rec' : DeploymentRecord) {registry : Registry}
    (taken : rec'.deploymentId ∈ registry.deployments.keys) :
    ∃ exc, registry.insertDeployment rec' = .error exc := by
  rw [Registry.insertDeployment, insertRow_of_taken taken]
  exact ⟨_, rfl⟩

end Statements

end SthBoring.ControlPlane.RuntimeRegistry
