/- Module: SthBoring/Inspection/PomCoordinates
   source: package_inspector/java_package_inspector.py
   digest: Which elements of a pom.xml give the report its name, version and packaging. -/

import SthBoring.Inspection.JavaPackageInspector

set_option autoImplicit false
set_option relaxedAutoImplicit false

namespace SthBoring.Inspection.PomCoordinates

open SthBoring.Inspection.JavaPackageInspector
open SthBoring.Lib.ElementTree (Element)
open SthBoring.Lib.ElementTree.Element (findDescendant_of_child iterAll hasName)
open SthBoring.Lib.PyValue (strip textOr)

/-- What a project says of itself in children of its own. -/
inductive Coordinate where
  | artifactId | version | packaging
  deriving DecidableEq

namespace Coordinate

def tag : Coordinate → String
  | artifactId => "artifactId"
  | version => "version"
  | packaging => "packaging"

/-- Where the report has it. -/
def shown (report : PackageInspectionReport) : Coordinate → Option String
  | artifactId => report.packageName
  | version => report.version
  | packaging => report.runtimeHints.packaging

/-- What stands there when the pom gives nothing. -/
def fallback (report : PackageInspectionReport) : Coordinate → Option String
  | artifactId => report.packageName
  | version => report.version
  | packaging => some "jar"

end Coordinate

/-- A child of the root, between the blocks before it and those behind it, that gives the
coordinate in a text that is not blank. -/
structure Given (root : Element) (coordinate : Coordinate) (before after : List Element)
    (child : Element) (text : String) : Prop where
  split : root.children = before ++ child :: after
  named : hasName coordinate.tag child = true
  text_eq : child.text = some text
  not_blank : strip text ≠ ""

/-- The report has each coordinate as the project gives it. -/
def NamesProject (root : Element) (report : PackageInspectionReport) : Prop :=
  ∀ coordinate before after child text, Given root coordinate before after child text →
    coordinate.shown report = some (strip text)

/-- The first element of this name in these blocks, in whatever depth. -/
def firstIn (blocks : List Element) (coordinate : Coordinate) : Option Element :=
  ((iterAll blocks).filter (hasName coordinate.tag)).head?

/-- What the report shows for an element: its text, or else what it shows without one. -/
def shownFor (report : PackageInspectionReport) (coordinate : Coordinate) (e : Element) :
    Option String :=
  (truthy (findText (some e))).or (coordinate.fallback report)

/-- No block before the child has an element of its name, or the first of these makes the report
show the same. -/
def NotShadowed (root : Element) (report : PackageInspectionReport) : Prop :=
  ∀ coordinate before after child text, Given root coordinate before after child text →
    ∀ first, firstIn before coordinate = some first →
      shownFor report coordinate first = some (strip text)

section Reports

variable {parsers : Parsers} {pomBytes : ByteArray} {root child : Element}
  {report : PackageInspectionReport} {coordinate : Coordinate} {before after : List Element}
  {text : String}

theorem some_textOr (shown : Option String) (default : String) :
    some (textOr shown default) = (truthy shown).or (some default) := by
  cases shown with
  | none => rfl
  | some text =>
    by_cases blank : text = ""
    · simp [textOr, truthy, blank, Option.filter]
    · simp [textOr, truthy, blank, Option.filter]

theorem shown_readPom : coordinate.shown (readPom root report) =
    (truthy (findText (root.findDescendant coordinate.tag))).or (coordinate.fallback report) := by
  unfold readPom
  cases javaVersionOf root with
  | none =>
    cases coordinate with
    | artifactId | version => rfl
    | packaging => exact some_textOr _ _
  | some javaVersion =>
    cases coordinate with
    | artifactId | version => rfl
    | packaging => exact some_textOr _ _

theorem shown_inspectPom (parsed : parsers.fromstring pomBytes = .ok root) :
    coordinate.shown (inspectPom parsers pomBytes report) =
      (truthy (findText (root.findDescendant coordinate.tag))).or
        (coordinate.fallback report) := by
  rw [← shown_readPom, inspectPom, parsed]
  dsimp only
  split
  · cases coordinate <;> rfl
  · rfl

/-- The element that the report shows is the first of its name in the blocks before the child, or
the child. -/
theorem shown_of_given (parsed : parsers.fromstring pomBytes = .ok root)
    (given : Given root coordinate before after child text) :
    coordinate.shown (inspectPom parsers pomBytes report) =
      match firstIn before coordinate with
      | some first => shownFor report coordinate first
      | none => some (strip text) := by
  rw [shown_inspectPom parsed, findDescendant_of_child given.split given.named]
  change (truthy (findText ((firstIn before coordinate).or (some child)))).or _ = _
  cases firstIn before coordinate with
  | some first => rfl
  | none =>
    have not_empty : text ≠ "" := by
      rintro rfl
      exact given.not_blank rfl
    have own : truthy (findText (some child)) = some (strip text) := by
      simp [findText, truthy, given.text_eq, not_empty, given.not_blank, Option.filter]
    rw [Option.none_or, own, Option.some_or]

/-- The report names the project if and only if no other element of the same name comes before what
the project says of itself, or what comes first happens to agree with it. -/
theorem namesProject_iff (parsed : parsers.fromstring pomBytes = .ok root) :
    NamesProject root (inspectPom parsers pomBytes report) ↔ NotShadowed root report := by
  unfold NamesProject NotShadowed
  constructor
  · intro names coordinate before after child text given first found
    have shown := names coordinate before after child text given
    rw [shown_of_given parsed given, found] at shown
    exact shown
  · intro free coordinate before after child text given
    rw [shown_of_given parsed given]
    cases found : firstIn before coordinate with
    | some first => exact free coordinate before after child text given first found
    | none => rfl

end Reports

section Sample

def leaf (tag text : String) : Element := .mk tag (some text) []

/-- A project behind the block that names its parent. -/
def inheriting : Element :=
  .mk "project" none
    [.mk "parent" none [leaf "artifactId" "spring-boot-starter-parent", leaf "version" "3.2.0"],
      leaf "artifactId" "app", leaf "version" "1.0"]

def dependencies : Element :=
  .mk "dependencies" none [.mk "dependency" none [leaf "artifactId" "junit"]]

/-- A project in front of its dependencies. -/
def standalone : Element :=
  .mk "{http://maven.apache.org/POM/4.0.0}project" none
    [leaf "{http://maven.apache.org/POM/4.0.0}artifactId" " app ", dependencies]

def parsersOf (root : Element) : Parsers where
  fromstring _ := .ok root
  openZip _ := .error ⟨"BadZipFile", ["Exception"], "File is not a zip file"⟩
  decodeIgnore _ := ""

def sampleReport : PackageInspectionReport where
  subjectType := .package
  subjectName := some "sdk"
  status := .success
  packageName := some "sdk"

theorem notShadowed_standalone : NotShadowed standalone sampleReport := by
  intro coordinate before after child text given first found
  have split := given.split
  cases before with
  | nil => cases found
  | cons _ before =>
    cases before with
    | nil =>
      injection split with _ rest
      injection rest with same
      have named := given.named
      rw [← same] at named
      cases coordinate <;> exact absurd named (by decide +kernel)
    | cons _ before =>
      injection split with _ rest
      injection rest with _ none_left
      cases before <;> cases none_left

theorem standalone_named :
    NamesProject standalone (inspectPom (parsersOf standalone) .empty sampleReport) :=
  (namesProject_iff rfl).mpr notShadowed_standalone

/-- The parent gives the report its name. -/
theorem inheriting_misnamed :
    ¬ NamesProject inheriting (inspectPom (parsersOf inheriting) .empty sampleReport) := by
  intro names
  have given : Given inheriting .artifactId (inheriting.children.take 1)
      (inheriting.children.drop 2) (leaf "artifactId" "app") "app" :=
    ⟨rfl, by decide +kernel, rfl, by decide +kernel⟩
  have shown := names .artifactId _ _ _ "app" given
  revert shown
  decide +kernel

end Sample

end SthBoring.Inspection.PomCoordinates
