/- Module: SthBoring/CmdCtrl/PathAdmission
   source: sdk_test_agent/cmd_ctrl/policies.py, sandbox/utils/paths.py
   digest: Which paths are refused as leading out of the working directory. -/

import SthBoring.CmdCtrl.Controller
import SthBoring.Sandbox.DockerSandbox

set_option autoImplicit false
set_option relaxedAutoImplicit false

namespace SthBoring.CmdCtrl.PathAdmission

open SthBoring.Lib.NormPath
open SthBoring.Lib.PosixPath (isPart mem_parts parts)
open SthBoring.Lib.PyValue (PyExc joinWith valueError)
open SthBoring.CmdCtrl.Controller (PathPolicy pathText)
open SthBoring.CmdCtrl.Policies (policyViolationError refuseIf)
open SthBoring.Sandbox.DockerSandbox (safeJoin)

/-- The first component of the path, once it is normalised. -/
def leading (path : String) : Option String := (parts (normpath path)).head?

/-- From the working directory the path leads out of it. -/
def Climbs (path : String) : Prop := leading path = some ".."

/-- The path begins with a name that has two dots in front. -/
def DottedName (path : String) : Prop :=
  ∃ name, leading path = some name ∧ "..".toList <+: name.toList ∧ name ≠ ".."

/-- A path is refused, by the policy and by the sandbox, if and only if it leads out. -/
structure RefusedIffClimbs (policy : PathPolicy) (workdir path : String) : Prop where
  validated : policy.validateRelativePath (.str path) = .ok () ↔ ¬Climbs path
  joined : (∃ full, safeJoin workdir path = .ok full) ↔ ¬Climbs path

section Prefix

/-- Two dots in front are looked for before the first slash. -/
theorem dots_prefix_joinWith {comp : String} (named : isPart comp = true) (comps : List String) :
    "..".toList <+: (joinWith "/" (comp :: comps)).toList ↔ "..".toList <+: comp.toList := by
  cases comps with
  | nil => exact Iff.rfl
  | cons next comps =>
    rw [joinWith, String.toList_append, String.toList_append]
    rcases chars : comp.toList with _ | ⟨c, _ | ⟨d, cs⟩⟩
    · rw [String.toList_eq_nil_iff.mp chars] at named
      cases named
    · simp
    · simp

/-- What the code tests, said of the first component. -/
theorem dots_prefix_iff (path : String) :
    "..".toList <+: (lstripSlash (normpath path)).toList ↔
      ∃ name, leading path = some name ∧ "..".toList <+: name.toList := by
  unfold leading
  rcases split : parts (normpath path) with _ | ⟨comp, comps⟩
  · constructor
    · intro dots
      rcases normpath_of_parts_eq_nil split with bare | bare | bare <;> rw [bare] at dots
      · exact absurd dots (by decide)
      · exact absurd dots (by decide)
      · exact absurd dots (by decide)
    · rintro ⟨name, none, -⟩
      cases none
  · have mem : comp ∈ parts (normpath path) := split ▸ List.mem_cons_self
    have some : parts (normpath path) ≠ [] := List.ne_nil_of_mem mem
    rw [lstripSlash_normpath some, split, dots_prefix_joinWith (mem_parts mem).1]
    constructor
    · intro dots
      exact ⟨comp, rfl, dots⟩
    · rintro ⟨name, first, dots⟩
      cases first
      exact dots

end Prefix

section Checks

theorem validateRelativePath_ok_iff (policy : PathPolicy) (path : String) :
    policy.validateRelativePath (.str path) = .ok () ↔
      ¬"..".toList <+: (lstripSlash (normpath path)).toList := by
  unfold PathPolicy.validateRelativePath refuseIf
  dsimp only [pathText, bind, Except.bind]
  split
  · rename_i refused
    exact iff_of_false nofun (not_not.mpr (List.isPrefixOf_iff_prefix.mp refused))
  · rename_i passed
    exact iff_of_true rfl (fun dots => passed (List.isPrefixOf_iff_prefix.mpr dots))

theorem safeJoin_ok_iff (workdir path : String) :
    (∃ full, safeJoin workdir path = .ok full) ↔
      ¬"..".toList <+: (lstripSlash (normpath path)).toList := by
  unfold safeJoin
  dsimp only
  split
  · rename_i refused
    exact iff_of_false nofun (not_not.mpr (List.isPrefixOf_iff_prefix.mp refused))
  · rename_i passed
    exact iff_of_true ⟨_, rfl⟩ (fun dots => passed (List.isPrefixOf_iff_prefix.mpr dots))

end Checks

section Verdict

theorem Climbs.dots {path : String} (climbs : Climbs path) :
    ∃ name, leading path = some name ∧ "..".toList <+: name.toList :=
  ⟨"..", climbs, List.prefix_rfl⟩

/-- A path that begins with two dots leads out, or begins with a dotted name. -/
theorem climbs_or_dottedName {path : String}
    (dots : ∃ name, leading path = some name ∧ "..".toList <+: name.toList) :
    Climbs path ∨ DottedName path := by
  obtain ⟨name, first, front⟩ := dots
  by_cases parent : name = ".."
  · rw [parent] at first
    exact .inl first
  · exact .inr ⟨name, first, front, parent⟩

theorem DottedName.not_climbs {path : String} (dotted : DottedName path) : ¬Climbs path := by
  obtain ⟨name, first, -, other⟩ := dotted
  intro climbs
  rw [Climbs, first] at climbs
  exact other (Option.some.inj climbs)

/-- Paths that begin with a dotted name are refused though they do not lead out, and no others. -/
theorem refusedIffClimbs_iff (policy : PathPolicy) (workdir path : String) :
    RefusedIffClimbs policy workdir path ↔ ¬DottedName path := by
  constructor
  · rintro ⟨validated, -⟩ dotted
    rw [validateRelativePath_ok_iff, dots_prefix_iff] at validated
    have inside := dotted.not_climbs
    obtain ⟨name, first, front, -⟩ := dotted
    exact validated.mpr inside ⟨name, first, front⟩
  · intro plain
    have tested : (∃ name, leading path = some name ∧ "..".toList <+: name.toList) ↔ Climbs path := by
      constructor
      · intro dots
        exact (climbs_or_dottedName dots).resolve_right plain
      · exact Climbs.dots
    constructor
    · rw [validateRelativePath_ok_iff, dots_prefix_iff, tested]
    · rw [safeJoin_ok_iff, dots_prefix_iff, tested]

/-- A file in a directory whose name begins with two dots. -/
theorem not_refusedIffClimbs_dottedName :
    ¬RefusedIffClimbs {} "/workspace" "..data/app.log" := by
  rintro ⟨validated, -⟩
  have first : leading "..data/app.log" = some "..data" := by decide +kernel
  have inside : ¬Climbs "..data/app.log" := by
    rw [Climbs, first]
    decide
  have refused := validated.mpr inside
  rw [validateRelativePath_ok_iff, dots_prefix_iff] at refused
  exact refused ⟨"..data", first, by decide⟩

end Verdict

end SthBoring.CmdCtrl.PathAdmission
