/- Module: SthBoring/Sandbox/DockerSandbox
   source: sdk_test_agent/sandbox/python/docker_sandbox.py, artifact_codec.py, sandbox/utils/paths.py
   digest: How files get into the sandbox and out of it. -/

import SthBoring.Lib.Effect
import SthBoring.Lib.NormPath

set_option autoImplicit false
set_option relaxedAutoImplicit false

namespace SthBoring.Sandbox.DockerSandbox

universe u

open SthBoring.Lib.Effect (Computation)
open SthBoring.Lib.PyValue (Fields PyExc valueError)
open SthBoring.Lib.NormPath (normpath lstripSlash)

variable {σ : Type u}

def safeJoin (workdir relPath : String) : Except PyExc String :=
  let clean := lstripSlash (normpath relPath)
  if "..".toList.isPrefixOf clean.toList then .error (valueError "path escapes workdir")
  else .ok (normpath (workdir ++ "/" ++ clean))

/-- A member of a tar archive; its name is relative to where the archive is unpacked. -/
structure TarMember where
  name : String
  data : ByteArray

abbrev TarArchive := List TarMember

def packTextFile (path content : String) : TarArchive :=
  [{ name := lstripSlash path, data := content.toUTF8 }]

inductive SandboxStatus where
  | created | imageReady | containerRunning | workspaceReady | ready | stopped | removed | failed
  deriving DecidableEq

def SandboxStatus.text : SandboxStatus → String
  | created => "created"
  | imageReady => "image_ready"
  | containerRunning => "container_running"
  | workspaceReady => "workspace_ready"
  | ready => "ready"
  | stopped => "stopped"
  | removed => "removed"
  | failed => "failed"

structure SandboxSpec where
  sandboxId : String
  workdir : String := "/workspace"

structure DockerPythonSandbox where
  spec : SandboxSpec
  status : SandboxStatus := .created
  containerId : Option String := none

/-- The calls of the driver that move archives. -/
structure BaseDockerDriver (σ : Type u) where
  putArchive : String → String → TarArchive → Computation σ PyExc Unit
  getArchive : String → String → Computation σ PyExc (ByteArray × Fields)

def sandboxNotReadyError (message : String) : PyExc :=
  ⟨"SandboxNotReadyError", ["SandboxError", "Exception"], message⟩

/-- `_require_running`, with the id of the container that runs. -/
def requireRunning (sandbox : DockerPythonSandbox) : Except PyExc String :=
  if sandbox.status ∈ [.containerRunning, .workspaceReady, .ready] then
    match sandbox.containerId with
    | some containerId => .ok containerId
    | none => .error (sandboxNotReadyError "missing container_id")
  else
    .error (sandboxNotReadyError ("sandbox not running, status=" ++ sandbox.status.text))

def putWorkspaceBytes (sandbox : DockerPythonSandbox) (driver : BaseDockerDriver σ)
    (data : TarArchive) (dest : Option String) : Computation σ PyExc Unit := do
  let containerId ← Computation.lift (requireRunning sandbox)
  driver.putArchive containerId (dest.getD sandbox.spec.workdir) data

def putText (sandbox : DockerPythonSandbox) (driver : BaseDockerDriver σ) (path content : String) :
    Computation σ PyExc Unit := do
  let absPath ← Computation.lift (safeJoin sandbox.spec.workdir path)
  let tarData := packTextFile (lstripSlash absPath) content
  putWorkspaceBytes sandbox driver tarData (some "/")

def getArchive (sandbox : DockerPythonSandbox) (driver : BaseDockerDriver σ) (path : String) :
    Computation σ PyExc (ByteArray × Fields) := do
  let containerId ← Computation.lift (requireRunning sandbox)
  let absPath ← Computation.lift (safeJoin sandbox.spec.workdir path)
  driver.getArchive containerId absPath

end SthBoring.Sandbox.DockerSandbox
