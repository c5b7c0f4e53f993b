/- Module: SthBoring/ArtifactManager/Service
   source: sdk_test_agent/artifact_manager/artifact_manager_models.py, artifact_manager_repo.py,
     artifact_manager_schema.py, artifact_manager_utils.py, artifact_manager_service.py
   digest: The artifact store: task directories, files, and the index of records. -/

import SthBoring.Lib.Effect
import SthBoring.Lib.FileTree
import SthBoring.Execution.Models

set_option autoImplicit false
set_option relaxedAutoImplicit false

namespace SthBoring.ArtifactManager.Service

universe u

open SthBoring.Lib.Effect (Computation)
open SthBoring.Lib.FileTree (Entry FileSystem)
open SthBoring.Lib.OrderedDict (PyDict assocGet)
open SthBoring.Lib.PosixPath (join pathJoin)
open SthBoring.Lib.PyValue (Value PyExc typeError)
open SthBoring.Execution.Models (PersistCall PersistedRecord ArtifactManager)

structure TaskRecord where
  taskId : String
  taskType : String
  status : String
  inputSummary : Option String
  createdAt : String
  updatedAt : String

structure ArtifactRecord where
  artifactId : String
  taskId : Option String
  stageId : Option String
  kind : String
  name : Option String
  storagePath : String
  contentHash : Option String
  mimeType : Option String
  sizeBytes : Option ℕ
  parentArtifactId : Option String
  createdByAction : Option String
  createdAt : String
  metadataJson : Option String

/-- A file that was opened for writing, and what the call named it. -/
structure WrittenFile where
  taskId : String
  subdir : String
  name : String
  path : String

/-- The disk, the two tables (which are keyed by their ids), how many ids and timestamps were
drawn, and the files that were opened for writing, in order. -/
structure Store where
  files : FileSystem
  tasks : PyDict String TaskRecord
  artifacts : PyDict String ArtifactRecord
  idsDrawn : ℕ
  ticks : ℕ
  written : List WrittenFile

/-- A store with an index just initialized. -/
def Store.new (files : FileSystem) : Store := ⟨files, .empty, .empty, 0, 0, []⟩

/-- The service with `sha256().hexdigest()`, and what the source of ids and the clock give at
each draw. -/
structure ArtifactManagerService where
  artifactRootDir : String
  sha256Hex : ByteArray → String
  uuidHex : ℕ → String
  isoTime : ℕ → String

abbrev Storing (α : Type) := Computation Store PyExc α

variable (service : ArtifactManagerService)

def nowIso : Storing String := do
  let n ← Computation.read Store.ticks
  Computation.modify (fun s => { s with ticks := s.ticks + 1 })
  return service.isoTime n

def newId (pre : String) : Storing String := do
  let n ← Computation.read Store.idsDrawn
  Computation.modify (fun s => { s with idsDrawn := s.idsDrawn + 1 })
  let digits := String.ofList (((service.uuidHex n).toList.take 26).map Char.toUpper)
  return s!"{pre}_{digits}"

def makedirs (path : String) : Storing Unit := fun s =>
  let (outcome, files) := FileSystem.makedirs path s.files
  (outcome, { s with files := files })

/-- The dict `paths`. -/
def taskDirs (rootDir taskId : String) : List (String × String) :=
  let base := pathJoin rootDir taskId
  [("root", base), ("generated", pathJoin base "generated"), ("logs", pathJoin base "logs"),
    ("reports", pathJoin base "reports"), ("inputs", pathJoin base "inputs")]

def ensureTaskDirs (rootDir taskId : String) : Storing (List (String × String)) := do
  let _ ← Computation.each makedirs ((taskDirs rootDir taskId).map (·.2))
  return taskDirs rootDir taskId

def integrityError (column : String) : PyExc :=
  ⟨"IntegrityError", ["DatabaseError", "Error", "Exception"], s!"UNIQUE constraint failed: {column}"⟩

def insertTask (rec : TaskRecord) : Storing Unit := fun s =>
  if rec.taskId ∈ s.tasks.keys then (.error (integrityError "tasks.task_id"), s)
  else (.ok (), { s with tasks := s.tasks.set rec.taskId rec })

def insertArtifact (rec : ArtifactRecord) : Storing Unit := fun s =>
  if rec.artifactId ∈ s.artifacts.keys then (.error (integrityError "artifacts.artifact_id"), s)
  else (.ok (), { s with artifacts := s.artifacts.set rec.artifactId rec })

def createTask (taskType : String) (inputSummary : Option String) : Storing TaskRecord := do
  let taskId ← newId service "task"
  let now ← nowIso service
  let rec' : TaskRecord := ⟨taskId, taskType, "created", inputSummary, now, now⟩
  insertTask rec'
  let _ ← ensureTaskDirs service.artifactRootDir taskId
  return rec'

/-- The arguments of `persist_artifact_bytes` are keyword-only. -/
def positionalError : PyExc :=
  typeError "ArtifactManagerService.persist_artifact_bytes() takes 1 positional argument but 7 were given"

def checkKeywords (call : PersistCall) : Storing Unit :=
  if call.positional then Computation.raise positionalError else pure ()

/-- `dirs.get(subdir, dirs["root"])`. -/
def baseDir (rootDir taskId subdir : String) : String :=
  (assocGet subdir (taskDirs rootDir taskId)).getD (pathJoin rootDir taskId)

/-- The lines up to `path`. -/
def artifactPath (call : PersistCall) : Storing String := do
  checkKeywords call
  let _ ← ensureTaskDirs service.artifactRootDir call.taskId
  return join (baseDir service.artifactRootDir call.taskId call.subdir) call.name

/-- `with open(path, "wb") as f: f.write(content)`. -/
def writeFile (call : PersistCall) (path : String) : Storing Unit := fun s =>
  match s.files.writable path with
  | .error exc => (.error exc, s)
  | .ok place =>
    (.ok (), { s with
      files := s.files.put place (.file call.content)
      written := s.written ++ [⟨call.taskId, call.subdir, call.name, path⟩] })

def artifactRecord (call : PersistCall) (path artifactId createdAt : String) : ArtifactRecord where
  artifactId := artifactId
  taskId := some call.taskId
  stageId := call.stageId
  kind := call.kind
  name := some call.name
  storagePath := path
  contentHash := some (service.sha256Hex call.content)
  mimeType := call.mimeType
  sizeBytes := some call.content.size
  parentArtifactId := none
  createdByAction := call.createdByAction
  createdAt := createdAt
  metadataJson := none

/-- The lines after the file is written. -/
def indexArtifact (call : PersistCall) (path : String) : Storing ArtifactRecord := do
  let artifactId ← newId service "artifact"
  let createdAt ← nowIso service
  let rec' := artifactRecord service call path artifactId createdAt
  insertArtifact rec'
  return rec'

def persistArtifactBytes (call : PersistCall) : Storing ArtifactRecord := do
  let path ← artifactPath service call
  writeFile call path
  indexArtifact service call path

def textOrNone : Option String → Value
  | some s => .str s
  | none => .null

/-- The record as a dataclass instance. -/
def ArtifactRecord.value (rec : ArtifactRecord) : Value :=
  .obj "ArtifactRecord" [("artifact_id", .str rec.artifactId), ("task_id", textOrNone rec.taskId),
    ("stage_id", textOrNone rec.stageId), ("kind", .str rec.kind), ("name", textOrNone rec.name),
    ("storage_path", .str rec.storagePath), ("content_hash", textOrNone rec.contentHash),
    ("mime_type", textOrNone rec.mimeType),
    ("size_bytes", match rec.sizeBytes with | some n => .int n | none => .null),
    ("parent_artifact_id", textOrNone rec.parentArtifactId),
    ("created_by_action", textOrNone rec.createdByAction), ("created_at", .str rec.createdAt),
    ("metadata_json", textOrNone rec.metadataJson)]

/-- What the callers of the service see of a record. -/
def ArtifactRecord.seen (rec : ArtifactRecord) : PersistedRecord :=
  ⟨some rec.artifactId, some rec.storagePath, rec.value.text⟩

/-- The service as the artifact manager of an execution, in a world that has a store. -/
def manager {τ : Type u} : ArtifactManager (Store × τ) where
  persistArtifactBytes call w :=
    let (outcome, s) := persistArtifactBytes service call w.1
    (outcome.map ArtifactRecord.seen, (s, w.2))

end SthBoring.ArtifactManager.Service
