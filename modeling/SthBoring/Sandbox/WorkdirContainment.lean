/- Module: SthBoring/Sandbox/WorkdirContainment
   source: sdk_test_agent/sandbox/python/docker_sandbox.py, sandbox/utils/paths.py
   digest: Where the files are that the sandbox writes and fetches. -/

import SthBoring.Sandbox.DockerSandbox

set_option autoImplicit false
set_option relaxedAutoImplicit false

namespace SthBoring.Sandbox.WorkdirContainment

universe u

open SthBoring.Lib.Effect (Computation)
open SthBoring.Lib.PyValue (PyExc joinWith valueError)
open SthBoring.Lib.PosixPath
open SthBoring.Lib.NormPath
open SthBoring.Sandbox.DockerSandbox

variable {σ : Type u}

/-- The path is the directory or starts with the directory and a slash, and climbs nowhere. -/
structure Within (workdir path : String) : Prop where
  below : path = workdir ∨ (workdir ++ "/").toList <+: path.toList
  climbs : ".." ∉ rawParts path

/-- A path is refused, or joined to one within the directory. -/
def JoinContained (workdir : String) : Prop :=
  ∀ path, safeJoin workdir path = .error (valueError "path escapes workdir") ∨
    ∃ full, safeJoin workdir path = .ok full ∧ Within workdir full

/-- Nothing reaches the driver, or one file that is unpacked at the root to a place within the
working directory. -/
def PutContained (sandbox : DockerPythonSandbox) (driver : BaseDockerDriver σ) : Prop :=
  ∀ path content w, (∃ exc, putText sandbox driver path content w = (.error exc, w)) ∨
    ∃ containerId file,
      putText sandbox driver path content w = driver.putArchive containerId "/" [file] w ∧
        canonical [] sandbox.spec.workdir <+: canonical [] ("/" ++ file.name) ∧
        ".." ∉ rawParts file.name

/-- Nothing reaches the driver, or it is asked for a path within the working directory. -/
def GetContained (sandbox : DockerPythonSandbox) (driver : BaseDockerDriver σ) : Prop :=
  ∀ path w, (∃ exc, getArchive sandbox driver path w = (.error exc, w)) ∨
    ∃ containerId full, getArchive sandbox driver path w = driver.getArchive containerId full w ∧
      Within sandbox.spec.workdir full

section Join

variable {workdir : String}

theorem parts_joined (h : NormalisedAbs workdir) (deep : parts workdir ≠ []) {clean : String}
    (below : ".." ∉ parts clean) :
    parts (normpath (workdir ++ "/" ++ clean)) = parts workdir ++ parts clean := by
  rw [h.normpath_append deep below]
  refine parts_root_append workdir (fun part hp => ?_)
  rcases List.mem_append.mp hp with inside | further
  · exact mem_parts inside
  · exact mem_parts further

theorem within_normpath (h : NormalisedAbs workdir) (deep : parts workdir ≠ []) {clean : String}
    (below : ".." ∉ parts clean) : Within workdir (normpath (workdir ++ "/" ++ clean)) := by
  constructor
  · rcases h.normpath_append_cases deep below with same | further
    · exact .inl same
    · right
      rw [further]
      exact ⟨(joinWith "/" (parts clean)).toList, String.toList_append.symm⟩
  · rw [← dotdot_mem_parts, parts_joined h deep below, List.mem_append, not_or]
    exact ⟨h.not_mem_dotdot, below⟩

/-- What is not refused has no dotdot in it. -/
theorem safeJoin_cases (workdir path : String) :
    safeJoin workdir path = .error (valueError "path escapes workdir") ∨
      ".." ∉ parts (lstripSlash (normpath path)) ∧
        safeJoin workdir path = .ok (normpath (workdir ++ "/" ++ lstripSlash (normpath path))) := by
  unfold safeJoin
  dsimp only
  split
  · exact .inl rfl
  · rename_i kept
    refine .inr ⟨fun dotdot => kept ?_, rfl⟩
    exact List.isPrefixOf_iff_prefix.mpr (dotdot_of_mem dotdot)

theorem joinContained (h : NormalisedAbs workdir) (deep : parts workdir ≠ []) :
    JoinContained workdir := by
  intro path
  rcases safeJoin_cases workdir path with refused | ⟨below, joined⟩
  · exact .inl refused
  · exact .inr ⟨_, joined, within_normpath h deep below⟩

end Join

section Driver

/-- A rooted path without a dotdot names the place of its parts. -/
theorem canonical_rooted {path : String} (rooted : isAbs path = true) (below : ".." ∉ parts path)
    (cwd : List String) : canonical cwd path = parts path := by
  rw [canonical, if_pos rooted, descend_of_not_mem below, List.nil_append]

/-- Unpacked at the root, a member named after a path goes where the path is. -/
theorem member_placed {workdir full clean : String} (h : NormalisedAbs workdir)
    (joined : parts full = parts workdir ++ parts clean) (below : ".." ∉ parts clean) :
    canonical [] workdir <+: canonical [] ("/" ++ lstripSlash (lstripSlash full)) ∧
      ".." ∉ rawParts (lstripSlash (lstripSlash full)) := by
  have named : parts (lstripSlash (lstripSlash full)) = parts workdir ++ parts clean := by
    rw [parts_lstripSlash, parts_lstripSlash, joined]
  have dotless : ".." ∉ parts workdir ++ parts clean := by
    rw [List.mem_append, not_or]
    exact ⟨h.not_mem_dotdot, below⟩
  constructor
  · rw [canonical_rooted h.rooted h.not_mem_dotdot, canonical_rooted, parts_slash, named]
    · exact List.prefix_append _ _
    · simp [isAbs]
    · rw [parts_slash, named]
      exact dotless
  · rw [← dotdot_mem_parts, named]
    exact dotless

variable {sandbox : DockerPythonSandbox}

theorem putContained (h : NormalisedAbs sandbox.spec.workdir)
    (deep : parts sandbox.spec.workdir ≠ []) (driver : BaseDockerDriver σ) :
    PutContained sandbox driver := by
  intro path content w
  unfold putText putWorkspaceBytes
  rcases safeJoin_cases sandbox.spec.workdir path with refused | ⟨below, joined⟩
  · rw [refused]
    exact .inl ⟨_, rfl⟩
  rw [joined]
  cases running : requireRunning sandbox with
  | error exc => exact .inl ⟨exc, rfl⟩
  | ok containerId =>
    refine .inr ⟨containerId, _, rfl, ?_⟩
    exact member_placed h (parts_joined h deep below) below

theorem getContained (h : NormalisedAbs sandbox.spec.workdir)
    (deep : parts sandbox.spec.workdir ≠ []) (driver : BaseDockerDriver σ) :
    GetContained sandbox driver := by
  intro path w
  unfold getArchive
  cases running : requireRunning sandbox with
  | error exc => exact .inl ⟨exc, rfl⟩
  | ok containerId =>
    rcases safeJoin_cases sandbox.spec.workdir path with refused | ⟨below, joined⟩
    · rw [refused]
      exact .inl ⟨_, rfl⟩
    · rw [joined]
      exact .inr ⟨containerId, _, rfl, within_normpath h deep below⟩

end Driver

/-- For every working directory but the roots, joined paths stay within it, and so do the files
that are written and fetched. -/
theorem workdir_contained {sandbox : DockerPythonSandbox} (h : NormalisedAbs sandbox.spec.workdir)
    (one : sandbox.spec.workdir ≠ "/") (two : sandbox.spec.workdir ≠ "//")
    (driver : BaseDockerDriver σ) :
    JoinContained sandbox.spec.workdir ∧ PutContained sandbox driver ∧ GetContained sandbox driver :=
  have deep := h.parts_ne_nil one two
  ⟨joinContained h deep, putContained h deep driver, getContained h deep driver⟩

/-- A sandbox with the default working directory, and a driver that answers nothing. -/
def defaultSandbox : DockerPythonSandbox :=
  { spec := { sandboxId := "s1" }, status := .ready, containerId := some "c-1" }

def silentDriver : BaseDockerDriver Unit where
  putArchive _ _ _ := pure ()
  getArchive _ _ := pure (.empty, [])

theorem workdir_contained_default :
    JoinContained "/workspace" ∧ PutContained defaultSandbox silentDriver ∧
      GetContained defaultSandbox silentDriver := by
  have normalised : NormalisedAbs defaultSandbox.spec.workdir := ⟨by decide +kernel, by decide +kernel⟩
  exact workdir_contained normalised (by decide +kernel) (by decide +kernel) silentDriver

/-- Two slashes are a root that `normpath` keeps, and that is lost as soon as a path is joined. -/
theorem join_leaves_double_root :
    NormalisedAbs "//" ∧ safeJoin "//" "a" = .ok "/a" ∧ ¬ Within "//" "/a" := by
  have joined : (safeJoin "//" "a").toOption = some "/a" := by decide +kernel
  refine ⟨⟨by decide +kernel, by decide +kernel⟩, ?_, fun within => ?_⟩
  · cases outcome : safeJoin "//" "a" with
    | error exc => rw [outcome] at joined; cases joined
    | ok full => rw [outcome] at joined; rw [Option.some.inj joined]
  · rcases within.below with same | below
    · exact absurd same (by decide)
    · exact absurd below (by decide)

end SthBoring.Sandbox.WorkdirContainment
