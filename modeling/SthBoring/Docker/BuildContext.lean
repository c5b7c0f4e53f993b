/- Module: SthBoring/Docker/BuildContext
   source: sdk_test_agent/docker_driver/build_context.py
   digest: The archive of a build context, and what is in it when it is unpacked. -/

import SthBoring.Lib.KeyedDict
import SthBoring.Lib.PyJson
import SthBoring.Sandbox.DockerSandbox

set_option autoImplicit false
set_option relaxedAutoImplicit false

namespace SthBoring.Docker.BuildContext

open SthBoring.Lib.NormPath (lstripSlash)
open SthBoring.Lib.OrderedDict (PyDict)
open SthBoring.Lib.PyJson (sortMembers)
open SthBoring.Lib.PyValue (PyExc valueError)
open SthBoring.Sandbox.DockerSandbox (TarMember TarArchive)

abbrev Files := PyDict String ByteArray

/-- The `members` of `make_tar_context`. -/
def contextMembers (dockerfileText : Option String) (dockerfilePath : String)
    (files : Option Files) : Files :=
  let members := files.getD .empty
  match dockerfileText with
  | some text => members.set dockerfilePath text.toUTF8
  | none => members

/-- `tarfile.TarInfo`, with the bytes of the file. -/
def tarInfo (file : String × ByteArray) : TarMember where
  name := lstripSlash file.1
  data := file.2

def packed (members : Files) : TarArchive := (sortMembers members.entries).map tarInfo

def makeTarContext (dockerfileText : Option String) (dockerfilePath : String)
    (files : Option Files) : Except PyExc TarArchive :=
  let members := contextMembers dockerfileText dockerfilePath files
  if members.entries.isEmpty then
    .error (valueError "empty build context: provide dockerfile_text and/or files")
  else .ok (packed members)

/-- What is under a name when the members are unpacked in order, and later ones overwrite. -/
def unpacked (archive : TarArchive) (name : String) : Option ByteArray :=
  ((PyDict.comprehension TarMember.name archive).get name).map TarMember.data

/-- Two files have one name in the archive, but not the same bytes. -/
def Collide (members : Files) : Prop :=
  ∃ e ∈ members.entries, ∃ f ∈ members.entries, lstripSlash e.1 = lstripSlash f.1 ∧ e.2 ≠ f.2

/-- Every file is in the archive under its name, but for the one that the Dockerfile replaces; and
there is no archive that would have to hold two contents under one name. -/
structure LosesNoFile (dockerfileText : Option String) (dockerfilePath : String)
    (files : Option Files) : Prop where
  kept : ∀ archive, makeTarContext dockerfileText dockerfilePath files = .ok archive →
    ∀ file ∈ (files.getD .empty).entries,
      (dockerfileText.isSome = true → file.1 ≠ dockerfilePath) →
        unpacked archive (lstripSlash file.1) = some file.2
  refused : Collide (contextMembers dockerfileText dockerfilePath files) →
    ∃ exc, makeTarContext dockerfileText dockerfilePath files = .error exc

section Unpacked

variable {members : Files} {name : String} {bytes : ByteArray}

theorem mem_sortMembers {e : String × ByteArray} {es : List (String × ByteArray)} :
    e ∈ sortMembers es ↔ e ∈ es := List.mem_insertionSort _

/-- The files with this name in the archive, as they are packed. -/
def alike (members : Files) (name : String) : List (String × ByteArray) :=
  (sortMembers members.entries).filter (fun e => decide (lstripSlash e.1 = name))

theorem mem_alike {e : String × ByteArray} :
    e ∈ alike members name ↔ e ∈ members.entries ∧ lstripSlash e.1 = name := by
  rw [alike, List.mem_filter, decide_eq_true_eq, mem_sortMembers]

theorem unpacked_eq_getLast? :
    unpacked (packed members) name = (alike members name).getLast?.map Prod.snd := by
  rw [unpacked, packed, PyDict.get_comprehension_eq_getLast?, List.filter_map,
    List.getLast?_map, Option.map_map]
  rfl

theorem pairwise_alike (members : Files) (name : String) :
    (alike members name).Pairwise (fun e f => e.1 ≤ f.1) :=
  (List.pairwise_insertionSort _ _).filter _

theorem exists_getLast? {e : String × ByteArray} {es : List (String × ByteArray)} (he : e ∈ es) :
    ∃ f, es.getLast? = some f := by
  rw [← Option.ne_none_iff_exists', Ne, List.getLast?_eq_none_iff]
  exact List.ne_nil_of_mem he

theorem le_of_getLast? {es : List (String × ByteArray)} {e f : String × ByteArray}
    (ordered : es.Pairwise (fun e f => e.1 ≤ f.1)) (last : es.getLast? = some e) (hf : f ∈ es) :
    f.1 ≤ e.1 := by
  obtain ⟨before, rfl⟩ := List.getLast?_eq_some_iff.mp last
  obtain earlier | same := List.mem_append.mp hf
  · exact (List.pairwise_append.mp ordered).2.2 f earlier e (List.mem_singleton_self e)
  · rw [List.mem_singleton.mp same]

/-- Of the files with this name in the archive, the one with the last name in the dictionary is
what stays. -/
theorem unpacked_packed : unpacked (packed members) name = some bytes ↔
    ∃ e ∈ members.entries, lstripSlash e.1 = name ∧ e.2 = bytes ∧
      ∀ f ∈ members.entries, lstripSlash f.1 = name → f.1 ≤ e.1 := by
  rw [unpacked_eq_getLast?]
  constructor
  · intro last
    obtain ⟨e, here, rfl⟩ := Option.map_eq_some_iff.mp last
    obtain ⟨he, same⟩ := mem_alike.mp (List.mem_of_getLast? here)
    refine ⟨e, he, same, rfl, fun f hf same => ?_⟩
    exact le_of_getLast? (pairwise_alike members name) here (mem_alike.mpr ⟨hf, same⟩)
  · rintro ⟨e, he, same, rfl, largest⟩
    have inside : e ∈ alike members name := mem_alike.mpr ⟨he, same⟩
    obtain ⟨f, here⟩ := exists_getLast? inside
    obtain ⟨hf, chosen⟩ := mem_alike.mp (List.mem_of_getLast? here)
    have below : e.1 ≤ f.1 := le_of_getLast? (pairwise_alike members name) here inside
    have names : f.1 = e.1 := le_antisymm (largest f hf chosen) below
    have one : f = e := List.inj_on_of_nodup_map members.nodup hf he names
    rw [here, one]
    rfl

/-- Where no two files collide, each of them is found. -/
theorem unpacked_of_mem (apart : ¬ Collide members) {e : String × ByteArray}
    (he : e ∈ members.entries) : unpacked (packed members) (lstripSlash e.1) = some e.2 := by
  obtain ⟨f, here⟩ := exists_getLast? (mem_alike.mpr ⟨he, rfl⟩)
  obtain ⟨hf, same⟩ := mem_alike.mp (List.mem_of_getLast? here)
  have equal : f.2 = e.2 := by
    by_contra differ
    exact apart ⟨f, hf, e, he, same, differ⟩
  rw [unpacked_eq_getLast?, here, ← equal]
  rfl

end Unpacked

section Files

variable {dockerfileText : Option String} {dockerfilePath : String} {files : Option Files}

theorem makeTarContext_of_mem {e : String × ByteArray}
    (he : e ∈ (contextMembers dockerfileText dockerfilePath files).entries) :
    makeTarContext dockerfileText dockerfilePath files =
      .ok (packed (contextMembers dockerfileText dockerfilePath files)) := by
  rw [makeTarContext, if_neg]
  rw [List.isEmpty_iff]
  exact List.ne_nil_of_mem he

theorem mem_contextMembers {e : String × ByteArray} (he : e ∈ (files.getD .empty).entries)
    (kept : dockerfileText.isSome = true → e.1 ≠ dockerfilePath) :
    e ∈ (contextMembers dockerfileText dockerfilePath files).entries := by
  cases dockerfileText with
  | none => exact he
  | some text =>
    have other : dockerfilePath ≠ e.1 := Ne.symm (kept rfl)
    rw [contextMembers, ← PyDict.get_eq_some_iff, PyDict.get_set_of_ne _ _ other,
      PyDict.get_eq_some_iff]
    exact he

theorem not_collide_of_losesNoFile (holds : LosesNoFile dockerfileText dockerfilePath files) :
    ¬ Collide (contextMembers dockerfileText dockerfilePath files) := by
  intro collide
  obtain ⟨exc, refused⟩ := holds.refused collide
  obtain ⟨e, he, -⟩ := collide
  rw [makeTarContext_of_mem he] at refused
  cases refused

/-- No file is lost if and only if the archive need not hold two contents under one name. -/
theorem losesNoFile_iff : LosesNoFile dockerfileText dockerfilePath files ↔
    ¬ Collide (contextMembers dockerfileText dockerfilePath files) := by
  refine ⟨not_collide_of_losesNoFile, fun apart => ⟨?_, fun collide => absurd collide apart⟩⟩
  intro archive made e he kept
  have inside := mem_contextMembers he kept
  rw [makeTarContext_of_mem inside] at made
  cases made
  exact unpacked_of_mem apart inside

/-- Of two files that differ by a slash, one is lost. -/
theorem slash_loses_file : ¬ LosesNoFile none "Dockerfile"
    (some ((PyDict.empty.set "a" "1".toUTF8).set "/a" "2".toUTF8)) := by
  intro holds
  refine not_collide_of_losesNoFile holds ⟨("a", "1".toUTF8), ?_, ("/a", "2".toUTF8), ?_, ?_⟩
  · exact List.mem_cons_self
  · exact List.mem_cons_of_mem _ List.mem_cons_self
  · decide +kernel

end Files

end SthBoring.Docker.BuildContext
