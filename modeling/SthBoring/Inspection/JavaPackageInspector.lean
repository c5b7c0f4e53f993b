/- Module: SthBoring/Inspection/JavaPackageInspector
   source: inspection/inspection_models.py, package_inspector/package_inspector_models.py,
     package_inspector/java_package_inspector.py
   digest: The report on a Java package, from its pom.xml and the manifest of its jar. -/

import SthBoring.Lib.ElementTree
import SthBoring.Lib.PyValue
import SthBoring.Lib.TextPattern

set_option autoImplicit false
set_option relaxedAutoImplicit false

namespace SthBoring.Inspection.JavaPackageInspector

open SthBoring.Lib.ElementTree (Element)
open SthBoring.Lib.PyValue (PyExc isSpace strip textOr)
open SthBoring.Lib.TextPattern (behind occursIn)

section Models

inductive FindingLevel where
  | info | warning | error
  deriving DecidableEq

inductive InspectionStatus where
  | success | partial' | failed
  deriving DecidableEq

inductive InspectionSubjectType where
  | package | environment
  deriving DecidableEq

structure InspectionEvidence where
  source : String
  ref : Option String := none
  snippet : Option String := none

structure InspectionFinding where
  code : String
  level : FindingLevel
  summary : String
  detail : Option String := none
  evidence : List InspectionEvidence := []

structure JavaPackageInspectionInput where
  sdkName : String
  sdkVersion : Option String
  jarBytes : ByteArray
  pomXmlBytes : Option ByteArray
  settingsXmlBytes : Option ByteArray := none
  jdkBytes : Option ByteArray := none

structure PackageRuntimeHints where
  baseImage : Option String := none
  javaVersion : Option String := none
  mainClass : Option String := none
  packaging : Option String := none
  useEmbeddedJdk : Bool := false

structure PackageInspectionReport where
  subjectType : InspectionSubjectType
  subjectName : Option String
  status : InspectionStatus
  findings : List InspectionFinding := []
  warnings : List String := []
  language : Option String := none
  packageType : Option String := none
  buildSystem : Option String := none
  packageName : Option String := none
  version : Option String := none
  dependencyFiles : List String := []
  entrypointHints : List String := []
  runtimeHints : PackageRuntimeHints := {}

end Models

/-- A `zipfile.ZipFile` that is open. -/
structure ZipFile where
  namelist : List String
  read : String → Except PyExc ByteArray

/-- The parsers of the standard library: of XML, of archives, and of text in UTF-8, with what is no
text left out. -/
structure Parsers where
  fromstring : ByteArray → Except PyExc Element
  openZip : ByteArray → Except PyExc ZipFile
  decodeIgnore : ByteArray → String

/-- A payload that is neither missing nor empty. -/
def present (payload : Option ByteArray) : Option ByteArray := payload.filter (fun b => b.size ≠ 0)

section Pom

/-- A text that is neither missing nor empty. -/
def truthy (text : Option String) : Option String := text.filter (· ≠ "")

/-- `find_text`, for the node that was found. -/
def findText (node : Option Element) : Option String :=
  (node.bind fun node => truthy node.text).map strip

def javaVersionOf (root : Element) : Option String :=
  let property name := truthy (findText (root.findChildOf "properties" name))
  (property "java.version").or
    ((property "maven.compiler.source").or (property "maven.compiler.target"))

/-- `_inspect_pom`, for the root of the document. -/
def readPom (root : Element) (report : PackageInspectionReport) : PackageInspectionReport :=
  let artifactId := truthy (findText (root.findDescendant "artifactId"))
  let version := truthy (findText (root.findDescendant "version"))
  let packaging := textOr (findText (root.findDescendant "packaging")) "jar"
  let named :=
    { report with
      packageName := artifactId.or report.packageName
      version := version.or report.version
      runtimeHints.packaging := some packaging }
  match javaVersionOf root with
  | none => named
  | some javaVersion =>
    { named with
      runtimeHints.javaVersion := some javaVersion
      findings := named.findings ++ [{
        code := "pom.java_version.detected"
        level := .info
        summary := s!"detected java version {javaVersion}" }] }

variable (parsers : Parsers)

/-- `_inspect_pom`. -/
def inspectPom (pomBytes : ByteArray) (report : PackageInspectionReport) :
    PackageInspectionReport :=
  match parsers.fromstring pomBytes with
  | .error _ =>
    { report with
      status := .partial'
      warnings := report.warnings ++ ["failed to parse pom.xml"] }
  | .ok root =>
    let read := readPom root report
    if occursIn "spring-boot-maven-plugin".toList (parsers.decodeIgnore pomBytes).toList then
      { read with entrypointHints := read.entrypointHints ++ ["spring-boot-maven-plugin"] }
    else read

end Pom

section Manifest

/-- `(.+)$` at the front of a text: what there is of its line. -/
def lineAt (text : List Char) : Option (List Char) :=
  match text.takeWhile (· ≠ '\n') with
  | [] => none
  | line => some line

/-- `\s*(.+)$` at the front of a text. As much white space as there is goes first, unless nothing is
left for the group. -/
def capture : List Char → Option (List Char)
  | [] => none
  | c :: cs => if isSpace c then (capture cs).or (lineAt (c :: cs)) else lineAt (c :: cs)

/-- `key:\s*(.+)$` at the front of a text. -/
def captureAt (key text : List Char) : Option (List Char) :=
  (behind (key ++ [':']) text).bind capture

/-- The group of `re.search` for `^key:\s*(.+)$`, from here on. -/
def search (key : List Char) (atStart : Bool) : List Char → Option (List Char)
  | [] => none
  | c :: cs =>
    (if atStart then captureAt key (c :: cs) else none).or (search key (c == '\n') cs)

/-- `_extract_manifest_field`. -/
def extractManifestField (text key : String) : Option String :=
  (search key.toList true text.toList).map fun group => strip (String.ofList group)

def manifestName : String := "META-INF/MANIFEST.MF"

variable (parsers : Parsers)

/-- The text of the manifest, if the archive has one. -/
def manifestText (jarBytes : ByteArray) : Except PyExc (Option String) := do
  let zf ← parsers.openZip jarBytes
  if manifestName ∈ zf.namelist then
    let raw ← zf.read manifestName
    return some (parsers.decodeIgnore raw)
  else return none

/-- A report is partial at best, from here on. -/
def lowered (status : InspectionStatus) : InspectionStatus :=
  if status ≠ .failed then .partial' else status

/-- `_inspect_manifest`. -/
def inspectManifest (jarBytes : ByteArray) (report : PackageInspectionReport) :
    PackageInspectionReport :=
  match manifestText parsers jarBytes with
  | .error _ =>
    { report with
      status := lowered report.status
      warnings := report.warnings ++ ["unable to inspect jar manifest"] }
  | .ok none =>
    { report with
      status := lowered report.status
      findings := report.findings ++ [{
        code := "jar.manifest.missing"
        level := .warning
        summary := "MANIFEST.MF not found" }] }
  | .ok (some text) =>
    let main := truthy (extractManifestField text "Main-Class")
    let start := truthy (extractManifestField text "Start-Class")
    match main.or start with
    | none => report
    | some chosen =>
      { report with
        runtimeHints.mainClass := some chosen
        entrypointHints := report.entrypointHints ++ [chosen]
        findings := report.findings ++ [{
          code := "jar.main_class.detected"
          level := .info
          summary := s!"detected main class {chosen}"
          evidence := [{
            source := "input_file"
            ref := some "MANIFEST.MF"
            snippet := some chosen }] }] }

end Manifest

/-- The report as it begins. -/
def openedReport (data : JavaPackageInspectionInput) : PackageInspectionReport where
  subjectType := .package
  subjectName := some data.sdkName
  status := .success
  language := some "java"
  packageType := some "jar_binary"
  buildSystem := some (if (present data.pomXmlBytes).isSome then "maven" else "unknown")
  packageName := some data.sdkName
  version := data.sdkVersion
  runtimeHints :=
    { baseImage := some "eclipse-temurin:17-jre"
      useEmbeddedJdk := data.jdkBytes.isSome }

def inspectJavaPackage (parsers : Parsers) (data : JavaPackageInspectionInput) :
    PackageInspectionReport :=
  let report := openedReport data
  if data.jarBytes.size = 0 then
    { report with
      status := .failed
      findings := [{
        code := "jar.empty"
        level := .error
        summary := "jar payload is empty"
        evidence := [{ source := "input_file", ref := some "app.jar" }] }] }
  else
    let pomMissing : InspectionFinding :=
      { code := "pom.missing", level := .warning, summary := "pom.xml is missing" }
    let jdkPresent : InspectionFinding :=
      { code := "jdk.embedded.present"
        level := .info
        summary := "embedded jdk archive provided" }
    let pom := present data.pomXmlBytes
    let listed :=
      { report with
        status := if pom.isSome then .success else .partial'
        dependencyFiles := if pom.isSome then ["app.jar", "pom.xml"] else ["app.jar"]
        findings := (if pom.isSome then [] else [pomMissing]) ++
          (if data.jdkBytes.isSome then [jdkPresent] else []) }
    let read := match pom with
      | some pomBytes => inspectPom parsers pomBytes listed
      | none => listed
    inspectManifest parsers data.jarBytes read

example : extractManifestField "Main-Class: com.demo.Main\r\n\r\n" "Main-Class" =
    some "com.demo.Main" := by decide +kernel

end SthBoring.Inspection.JavaPackageInspector
