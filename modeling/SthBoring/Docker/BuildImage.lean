/- Module: SthBoring/Docker/BuildImage
   source: sdk_test_agent/docker_driver/docker_sdk_driver.py
   digest: The build call of the Docker SDK, and the Dockerfile that it builds. -/

import SthBoring.Docker.BuildContext
import SthBoring.Docker.DriverModels

set_option autoImplicit false
set_option relaxedAutoImplicit false

namespace SthBoring.Docker.BuildImage

open SthBoring.Docker.BuildContext
open SthBoring.Docker.DriverModels
open SthBoring.Lib.Effect (Computation Triple Keeps)
open SthBoring.Lib.NormPath (lstripSlash)
open SthBoring.Lib.OrderedDict (PyDict)
open SthBoring.Lib.PyValue (Fields PyExc)
open SthBoring.Sandbox.DockerSandbox (TarArchive)

/-- Where a build has its context from: a directory, an archive that was given, or one that was
made for it. -/
inductive Context where
  | path (contextDir : String)
  | given (tar : ByteArray)
  | made (archive : TarArchive)

/-- The keyword arguments of `images.build`. -/
structure BuildCall where
  context : Context
  customContext : Bool := false
  dockerfile : Option String := none
  tag : Option String
  pull : Bool
  nocache : Bool
  rm : Bool
  forcerm : Bool
  timeout : Option ℤ
  buildargs : PyDict String String
  encoding : Option String := none

structure BuiltImage where
  id : Option String := none
  tags : Option (List String) := none

/-- The client of a driver. -/
structure DockerClient (σ : Type) where
  getClient : Computation σ PyExc Unit
  build : BuildCall → Computation σ PyExc (BuiltImage × Option (List Fields))

def dockerImageError (message : String) : PyExc :=
  ⟨"DockerImageError", ["DockerDriverError", "Exception"], message⟩

def isSet (text : Option String) : Bool := text.any (· ≠ "")

def hasContextSource (spec : BuildImageSpec) : Bool :=
  isSet spec.contextDir || spec.contextTarBytes.any (fun tar => tar.size ≠ 0) ||
    isSet spec.dockerfileText || !spec.contextFiles.entries.isEmpty

/-- The call that `build_image` makes. -/
def buildCall (spec : BuildImageSpec) : Except PyExc BuildCall :=
  match spec.contextDir.filter (· ≠ "") with
  | some contextDir => .ok
      { context := .path contextDir
        dockerfile := some spec.dockerfilePathInContext
        tag := spec.tag
        pull := spec.pull
        nocache := spec.nocache
        rm := spec.rm
        forcerm := spec.forcerm
        timeout := spec.timeout
        buildargs := spec.buildargs }
  | none => do
    let context ← match spec.contextTarBytes with
      | some tar => .ok (Context.given tar)
      | none => (makeTarContext spec.dockerfileText spec.dockerfilePathInContext
          (some spec.contextFiles)).map Context.made
    return { context := context
             customContext := true
             tag := spec.tag
             pull := spec.pull
             nocache := spec.nocache
             rm := spec.rm
             forcerm := spec.forcerm
             timeout := spec.timeout
             buildargs := spec.buildargs
             encoding := spec.encoding }

/-- An entry of the log that tells of an error. -/
def loggedError (entry : Fields) : Option PyExc :=
  if (entry.getD "errorDetail").truthy then
    some (dockerImageError (entry.getD "errorDetail").text)
  else if (entry.getD "error").truthy then some (dockerImageError (entry.getD "error").text)
  else none

def buildResult (image : BuiltImage) (logs : Option (List Fields)) :
    Except PyExc BuildImageResult :=
  let logList := logs.getD []
  match logList.findSome? loggedError with
  | some exc => .error exc
  | none =>
    match image.id.filter (· ≠ "") with
    | none => .error (dockerImageError "docker build did not return an image id")
    | some imageId => .ok { imageId := imageId, tags := image.tags.getD [], logs := logList }

def asImageError (exc : PyExc) : PyExc :=
  if exc.isInstance "DockerImageError" then exc else dockerImageError exc.message

variable {σ : Type}

def buildImage (client : DockerClient σ) (spec : BuildImageSpec) :
    Computation σ PyExc BuildImageResult := do
  client.getClient
  if hasContextSource spec then
    Computation.mapError asImageError do
      let call ← Computation.lift (buildCall spec)
      let (image, logs) ← client.build call
      Computation.lift (buildResult image logs)
  else Computation.raise (dockerImageError "invalid build spec: no context source provided")

/-- A world, with the build calls that were made. -/
structure Submissions (σ : Type) where
  world : σ
  calls : List BuildCall := []

/-- The client, with a record of its build calls. -/
def DockerClient.recorded (client : DockerClient σ) : DockerClient (Submissions σ) where
  getClient := Computation.within Submissions.world (fun w s => { s with world := w })
    client.getClient
  build call := do
    Computation.modify fun s => { s with calls := s.calls ++ [call] }
    Computation.within Submissions.world (fun w s => { s with world := w }) (client.build call)

/-- What is in the directories of the host, and in an archive. -/
structure Contents where
  file : String → String → Option ByteArray
  untar : ByteArray → TarArchive

def Context.get (contents : Contents) : Context → String → Option ByteArray
  | .path contextDir, name => contents.file contextDir name
  | .given tar, name => unpacked (contents.untar tar) name
  | .made archive, name => unpacked archive name

/-- The Dockerfile of the call is this text. -/
def Builds (contents : Contents) (call : BuildCall) (text : String) : Prop :=
  call.context.get contents (call.dockerfile.getD "Dockerfile") = some text.toUTF8

/-- The file that stays as the Dockerfile has these bytes: of all those with this name, up to slashes
in front, the one with the last name. -/
def LastDockerfile (members : Files) (bytes : ByteArray) : Prop :=
  ∃ e ∈ members.entries, lstripSlash e.1 = "Dockerfile" ∧ e.2 = bytes ∧
    ∀ f ∈ members.entries, lstripSlash f.1 = "Dockerfile" → f.1 ≤ e.1

/-- A directory or an archive that is given has the text already, at the path that is asked for or
as its Dockerfile; without them, the text is the last Dockerfile of the files. -/
def Carries (contents : Contents) (spec : BuildImageSpec) (text : String) : Prop :=
  match spec.contextDir.filter (· ≠ ""), spec.contextTarBytes with
  | some contextDir, _ =>
    contents.file contextDir spec.dockerfilePathInContext = some text.toUTF8
  | none, some tar => unpacked (contents.untar tar) "Dockerfile" = some text.toUTF8
  | none, none =>
    LastDockerfile (contextMembers (some text) spec.dockerfilePathInContext
      (some spec.contextFiles)) text.toUTF8

section Calls

variable {client : DockerClient σ} {contents : Contents} {spec : BuildImageSpec} {text : String}
  {call : BuildCall} {world : σ}

/-- Only the call of the specification is made. -/
theorem keeps_recorded :
    Keeps (fun s : Submissions σ => ∀ call ∈ s.calls, buildCall spec = .ok call)
      (buildImage client.recorded spec) := by
  have outside : ∀ {α : Type} (m : Computation σ PyExc α),
      Keeps (fun s : Submissions σ => ∀ call ∈ s.calls, buildCall spec = .ok call)
        (Computation.within Submissions.world (fun w s => { s with world := w }) m) :=
    fun m => Keeps.within m fun _ _ kept => kept
  refine Keeps.bind (outside client.getClient) fun _ => ?_
  split
  · refine Triple.mapError asImageError (Keeps.bind_lift fun call determined => ?_)
      (fun _ _ kept => kept)
    have submit : Keeps (fun s : Submissions σ => ∀ call ∈ s.calls, buildCall spec = .ok call)
        (Computation.modify fun s => { s with calls := s.calls ++ [call] } :
          Computation (Submissions σ) PyExc Unit) := by
      intro s kept call' mem
      obtain old | new := List.mem_append.mp mem
      · exact kept call' old
      · rw [List.mem_singleton.mp new]
        exact determined
    have built := Keeps.bind submit fun _ => outside (client.build call)
    exact Keeps.bind built fun answer => Keeps.lift (buildResult answer.1 answer.2)
  · exact Keeps.raise _

theorem buildCall_of_submitted
    (submitted : call ∈ (buildImage client.recorded spec ⟨world, []⟩).2.calls) :
    buildCall spec = .ok call :=
  keeps_recorded.after (s := ⟨world, []⟩) (fun _ none => by cases none) call submitted

theorem builds_of_buildCall (given : spec.dockerfileText = some text)
    (determined : buildCall spec = .ok call) :
    Builds contents call text ↔ Carries contents spec text := by
  unfold buildCall at determined
  unfold Builds Carries
  cases directory : spec.contextDir.filter (· ≠ "") with
  | some contextDir =>
    rw [directory] at determined
    cases determined
    exact Iff.rfl
  | none =>
    rw [directory] at determined
    cases tar : spec.contextTarBytes with
    | some tar =>
      rw [tar] at determined
      cases determined
      exact Iff.rfl
    | none =>
      let members :=
        contextMembers (some text) spec.dockerfilePathInContext (some spec.contextFiles)
      have written : (spec.dockerfilePathInContext, text.toUTF8) ∈ members.entries :=
        (PyDict.get_eq_some_iff _ _ _).mp (PyDict.get_set_self _ _ _)
      rw [tar, given, makeTarContext_of_mem written] at determined
      cases determined
      exact unpacked_packed

/-- The Dockerfile of a call that is made is the given text if and only if what the context is
taken from carries it. -/
theorem builds_iff (given : spec.dockerfileText = some text)
    (submitted : call ∈ (buildImage client.recorded spec ⟨world, []⟩).2.calls) :
    Builds contents call text ↔ Carries contents spec text :=
  builds_of_buildCall given (buildCall_of_submitted submitted)

end Calls

section Sample

def sampleClient : DockerClient Unit where
  getClient := pure ()
  build _ := pure ({ id := some "sha256:1" }, none)

def noContents : Contents where
  file _ _ := none
  untar _ := []

/-- A Dockerfile under this path, and no other source. -/
def inlineSpec (path : String) : BuildImageSpec where
  dockerfileText := some "FROM scratch"
  dockerfilePathInContext := path

def inlineCall (path : String) : BuildCall where
  context := .made [⟨lstripSlash path, "FROM scratch".toUTF8⟩]
  customContext := true
  tag := none
  pull := false
  nocache := false
  rm := true
  forcerm := true
  timeout := none
  buildargs := .empty

theorem calls_inlineSpec (path : String) :
    (buildImage sampleClient.recorded (inlineSpec path) ⟨(), []⟩).2.calls = [inlineCall path] := by
  rfl

theorem inlineCall_mem (path : String) : inlineCall path ∈
    (buildImage sampleClient.recorded (inlineSpec path) ⟨(), []⟩).2.calls := by
  rw [calls_inlineSpec]
  exact List.mem_cons_self

theorem inline_builds : Builds noContents (inlineCall "Dockerfile") "FROM scratch" := by
  have same : Builds noContents (inlineCall "Dockerfile") "FROM scratch" ↔
      Carries noContents (inlineSpec "Dockerfile") "FROM scratch" :=
    builds_iff rfl (inlineCall_mem "Dockerfile")
  refine same.mpr ⟨("Dockerfile", "FROM scratch".toUTF8), List.mem_cons_self, ?_, rfl, ?_⟩
  · decide +kernel
  · intro f hf _
    have name : f.1 = "Dockerfile" := congrArg Prod.fst (List.mem_singleton.mp hf)
    rw [name]

/-- The call does not say where in its archive the Dockerfile is. -/
theorem custom_path_is_dropped :
    ∃ call ∈ (buildImage sampleClient.recorded (inlineSpec "docker/Dockerfile") ⟨(), []⟩).2.calls,
      ¬ Builds noContents call "FROM scratch" := by
  refine ⟨_, inlineCall_mem "docker/Dockerfile", fun builds => ?_⟩
  have missing : unpacked [⟨lstripSlash "docker/Dockerfile", "FROM scratch".toUTF8⟩] "Dockerfile" =
      none := by decide +kernel
  have found : unpacked [⟨lstripSlash "docker/Dockerfile", "FROM scratch".toUTF8⟩] "Dockerfile" =
      some "FROM scratch".toUTF8 := builds
  rw [missing] at found
  cases found

end Sample

end SthBoring.Docker.BuildImage
