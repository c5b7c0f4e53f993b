/- Module: SthBoring/Inspection/EnvProbes
   source: inspection/env_inspector/docker_env_inspector.py, env_inspector_models.py
   digest: What the inspector runs in a container, and the report it makes of the answers. -/

import SthBoring.CmdCtrl.InspectSafety
import SthBoring.Docker.DriverModels
import SthBoring.Inspection.JavaPackageInspector

set_option autoImplicit false
set_option relaxedAutoImplicit false

namespace SthBoring.Inspection.EnvProbes

universe u

open SthBoring.CmdCtrl.Policies (InspectPolicy validateArgv head_of_validateArgv)
open SthBoring.Docker.DriverModels
open SthBoring.Inspection.JavaPackageInspector (FindingLevel InspectionFinding InspectionStatus
  InspectionSubjectType present)
open SthBoring.Lib.Effect (Computation)
open SthBoring.Lib.LaunchingTools (ReadOnly harmless_iff cost)
open SthBoring.Lib.PyValue (PyExc)

variable {σ : Type u}

section Models

structure DockerEnvInspectionInput where
  engineId : String
  imageId : Option String
  containerId : String
  runtimeName : String := "docker"

structure ProbeRecord where
  probeName : String
  command : List String
  ok : Bool
  exitCode : Option ℤ := none
  stdout : Option String := none
  stderr : Option String := none

/-- The fields that the inspector never sets are left out. -/
structure EnvInspectionReport where
  subjectType : InspectionSubjectType
  subjectName : Option String
  status : InspectionStatus
  findings : List InspectionFinding := []
  warnings : List String := []
  runtimeType : String := "docker"
  engineId : Option String := none
  imageId : Option String := none
  containerId : Option String := none
  containerStatus : Option String := none
  readiness : String := "unknown"
  probeRecords : List ProbeRecord := []

end Models

section Inspector

/-- `decode` is that of UTF-8, with a replacement for what is no text. -/
structure DockerEnvInspector (σ : Type u) where
  driver : DockerDriver σ
  decode : ByteArray → String

def inspectPolicy : InspectPolicy :=
  .init (some ["pwd", "ls", "env", "which", "python", "pip", "java", "mvn", "gradle"])

def probes : List (String × List String) :=
  [("probe.pwd", ["pwd"]), ("probe.ls", ["ls"]), ("probe.env", ["env"]),
    ("tool.python.which", ["which", "python"]), ("tool.python.version", ["python", "-V"]),
    ("tool.pip.which", ["which", "pip"]), ("tool.pip.version", ["pip", "-V"]),
    ("tool.pip.list", ["pip", "list"]), ("tool.java.version", ["java", "-version"]),
    ("tool.maven.version", ["mvn", "-v"]), ("tool.gradle.version", ["gradle", "-v"])]

def isCritical (name : String) : Bool := ["probe.pwd", "probe.ls", "probe.env"].contains name

variable (inspector : DockerEnvInspector σ)

/-- The record of a probe that was answered. -/
def recordOf (decode : ByteArray → String) (name : String) (argv : List String) :
    Except PyExc ExecResult → ProbeRecord
  | .ok out =>
    { probeName := name, command := argv, ok := out.exitCode = some 0, exitCode := out.exitCode
      stdout := ((present out.stdout).or (present out.combined)).map decode
      stderr := (present out.stderr).map decode }
  | .error exc => { probeName := name, command := argv, ok := false, stderr := some exc.message }

/-- `_run_probe`. -/
def runProbe (containerId name : String) (argv : List String) : Computation σ PyExc ProbeRecord := do
  let answer ← Computation.outcome (do
    Computation.lift (validateArgv inspectPolicy argv)
    inspector.driver.exec { containerId := containerId, argv := argv } (some 10))
  return recordOf inspector.decode name argv answer

/-- The report so far, and how many of the critical probes succeeded. -/
structure Tally where
  report : EnvInspectionReport
  criticalOk : ℕ := 0

/-- One turn of the loop over the probes, from the record on. -/
def Tally.note (tally : Tally) (record : ProbeRecord) : Tally :=
  let name := record.probeName
  let report := { tally.report with probeRecords := tally.report.probeRecords ++ [record] }
  if record.ok then
    { report := { report with findings := report.findings ++
        [{ code := s!"{name}.ok", level := .info, summary := s!"{name} succeeded" }] }
      criticalOk := tally.criticalOk + if isCritical name then 1 else 0 }
  else
    { tally with report := { report with
        warnings := report.warnings ++ [s!"{name} failed"]
        findings := report.findings ++
          [{ code := s!"{name}.failed", level := .warning, summary := s!"{name} failed" }] } }

def probeAll (containerId : String) :
    List (String × List String) → Tally → Computation σ PyExc Tally
  | [], tally => return tally
  | (name, argv) :: rest, tally => do
    let record ← runProbe inspector containerId name argv
    probeAll containerId rest (tally.note record)

def Tally.verdict (tally : Tally) : EnvInspectionReport :=
  if 3 ≤ tally.criticalOk then
    { tally.report with
      readiness := "ready"
      status := if tally.report.warnings = [] then .success else .partial' }
  else if 0 < tally.criticalOk then
    { tally.report with readiness := "degraded", status := .partial' }
  else { tally.report with readiness := "failed", status := .failed }

def newReport (data : DockerEnvInspectionInput) : EnvInspectionReport where
  subjectType := .environment
  subjectName := some data.containerId
  status := .success
  runtimeType := data.runtimeName
  engineId := some data.engineId
  imageId := data.imageId
  containerId := some data.containerId

/-- A report on a container that cannot be probed. -/
def failedReport (report : EnvInspectionReport) (finding : InspectionFinding) :
    EnvInspectionReport :=
  { report with status := .failed, readiness := "failed", findings := report.findings ++ [finding] }

def inspectFailed (exc : PyExc) : InspectionFinding where
  code := "container.inspect.failed"
  level := .error
  summary := "failed to inspect container"
  detail := some exc.message

def notRunning (container : ContainerRef) : InspectionFinding where
  code := "container.not_running"
  level := .error
  summary := "container status is " ++ container.status.getD "None"

/-- `inspect_docker_env`. -/
def inspectDockerEnv (data : DockerEnvInspectionInput) : Computation σ PyExc EnvInspectionReport := do
  let report := newReport data
  match ← Computation.outcome (inspector.driver.inspectContainer data.containerId) with
  | .error exc => return failedReport report (inspectFailed exc)
  | .ok container =>
    let report := { report with containerStatus := container.status }
    if container.status ≠ some "running" then return failedReport report (notRunning container)
    else do
      let tally ← probeAll inspector data.containerId probes { report := report }
      return tally.verdict

end Inspector

section Spec

/-- A probe with what the driver answered to it. -/
abbrev Answered := (String × List String) × Except PyExc ExecResult

/-- The command ran and ended well. -/
def succeeded : Except PyExc ExecResult → Bool
  | .ok out => out.exitCode = some 0
  | .error _ => false

def probeCall (containerId : String) (answered : Answered) : DriverCall :=
  .exec { containerId := containerId, argv := answered.1.2 } (some 10) answered.2

def critical (answered : List Answered) : List Answered :=
  answered.filter fun a => isCritical a.1.1

/-- What the report says of the probes, each with its answer. -/
structure Judged (decode : ByteArray → String) (answered : List Answered)
    (report : EnvInspectionReport) : Prop where
  records : report.probeRecords = answered.map fun a => recordOf decode a.1.1 a.1.2 a.2
  warnings : report.warnings =
    (answered.filter fun a => !succeeded a.2).map fun a => s!"{a.1.1} failed"
  findings : report.findings.map (·.code) =
    answered.map fun a => if succeeded a.2 then s!"{a.1.1}.ok" else s!"{a.1.1}.failed"
  ready : report.readiness = "ready" ↔ ∀ a ∈ critical answered, succeeded a.2 = true
  failed : report.readiness = "failed" ↔ ∀ a ∈ critical answered, succeeded a.2 = false
  degraded : report.readiness = "degraded" ↔ report.readiness ≠ "ready" ∧ report.readiness ≠ "failed"
  success : report.status = .success ↔ ∀ a ∈ answered, succeeded a.2 = true
  failure : report.status = .failed ↔ report.readiness = "failed"

/-- The calls of an inspection and its report: a container that does not answer or is not running is
left alone, and any other is probed by the whole list, in its order. -/
inductive Inspected (decode : ByteArray → String) (data : DockerEnvInspectionInput) :
    List DriverCall → EnvInspectionReport → Prop where
  | unreachable (exc : PyExc) (report : EnvInspectionReport) (status : report.status = .failed)
      (readiness : report.readiness = "failed") (records : report.probeRecords = []) :
      Inspected decode data [.inspectContainer data.containerId (.error exc)] report
  | stopped (container : ContainerRef) (report : EnvInspectionReport)
      (idle : container.status ≠ some "running") (status : report.status = .failed)
      (readiness : report.readiness = "failed") (records : report.probeRecords = []) :
      Inspected decode data [.inspectContainer data.containerId (.ok container)] report
  | probed (container : ContainerRef) (answered : List Answered) (report : EnvInspectionReport)
      (running : container.status = some "running") (whole : answered.map Prod.fst = probes)
      (judged : Judged decode answered report) :
      Inspected decode data (.inspectContainer data.containerId (.ok container) ::
        answered.map (probeCall data.containerId)) report

end Spec

section Probing

variable (driver : DockerDriver σ) (decode : ByteArray → String) (containerId : String)

/-- The inspector accepts its own commands, and they only read. -/
theorem probes_read : ∀ probe ∈ probes, validateArgv inspectPolicy probe.2 = .ok () ∧
    ReadOnly inspectPolicy.allowedBinaries probe.2 := by
  have accepted : ∀ probe ∈ probes, validateArgv inspectPolicy probe.2 = .ok () := by
    decide +kernel
  have harmless : ∀ probe ∈ probes, SthBoring.Lib.LaunchingTools.harmless
      inspectPolicy.allowedBinaries (cost probe.2 + 1) probe.2 = true := by decide +kernel
  intro probe mem
  have led := head_of_validateArgv (accepted probe mem)
  exact ⟨accepted probe mem, (harmless_iff (Nat.lt_succ_self _) led).mp (harmless probe mem)⟩

theorem runProbe_call (name : String) {argv : List String}
    (accepted : validateArgv inspectPolicy argv = .ok ()) (s : Ledger σ) :
    ∃ answer w, runProbe ⟨recorded driver, decode⟩ containerId name argv s =
      (.ok (recordOf decode name argv answer),
        ⟨w, s.calls ++ [probeCall containerId ((name, argv), answer)]⟩) := by
  refine ⟨(driver.exec { containerId := containerId, argv := argv } (some 10) s.world).1,
    (driver.exec { containerId := containerId, argv := argv } (some 10) s.world).2, ?_⟩
  rw [runProbe, Computation.lift_bind accepted]
  rfl

/-- The record of a probe that was answered, as the loop takes it down. -/
def Tally.hear (tally : Tally) (answered : Answered) : Tally :=
  tally.note (recordOf decode answered.1.1 answered.1.2 answered.2)

/-- The loop makes one call for each probe, and takes down what is answered. -/
theorem probeAll_calls {list : List (String × List String)}
    (accepted : ∀ probe ∈ list, validateArgv inspectPolicy probe.2 = .ok ()) (tally : Tally)
    (s : Ledger σ) : ∃ (answered : List Answered) (w : σ), answered.map Prod.fst = list ∧
      probeAll ⟨recorded driver, decode⟩ containerId list tally s =
        (.ok (answered.foldl (Tally.hear decode) tally),
          ⟨w, s.calls ++ answered.map (probeCall containerId)⟩) := by
  induction list generalizing tally s with
  | nil => exact ⟨[], s.world, rfl, by rw [List.map_nil, List.append_nil]; rfl⟩
  | cons probe list ih =>
    obtain ⟨name, argv⟩ := probe
    obtain ⟨first, others⟩ := List.forall_mem_cons.mp accepted
    obtain ⟨answer, w, ran⟩ := runProbe_call driver decode containerId name first s
    obtain ⟨answered, w', whole, rest⟩ := ih others (tally.note (recordOf decode name argv answer))
      ⟨w, s.calls ++ [probeCall containerId ((name, argv), answer)]⟩
    refine ⟨((name, argv), answer) :: answered, w', ?_, ?_⟩
    · rw [List.map_cons, whole]
    · rw [probeAll, Computation.bind_of_ok ran, rest, List.append_assoc]
      rfl

end Probing

section Verdict

variable (decode : ByteArray → String)

theorem recordOf_ok (name : String) (argv : List String) (answer : Except PyExc ExecResult) :
    (recordOf decode name argv answer).ok = succeeded answer := by
  cases answer <;> rfl

theorem recordOf_probeName (name : String) (argv : List String) (answer : Except PyExc ExecResult) :
    (recordOf decode name argv answer).probeName = name := by
  cases answer <;> rfl

/-- What the loop has taken down behind these probes. -/
structure Heard (decode : ByteArray → String) (answered : List Answered) (before after : Tally) :
    Prop where
  records : after.report.probeRecords = before.report.probeRecords ++
    answered.map fun a => recordOf decode a.1.1 a.1.2 a.2
  warnings : after.report.warnings = before.report.warnings ++
    (answered.filter fun a => !succeeded a.2).map fun a => s!"{a.1.1} failed"
  findings : after.report.findings.map (·.code) = before.report.findings.map (·.code) ++
    answered.map fun a => if succeeded a.2 then s!"{a.1.1}.ok" else s!"{a.1.1}.failed"
  criticalOk : after.criticalOk = before.criticalOk +
    (critical answered).countP fun a => succeeded a.2

theorem heard_one (tally : Tally) (a : Answered) : Heard decode [a] tally (tally.hear decode a) := by
  obtain ⟨⟨name, argv⟩, answer⟩ := a
  have ok := recordOf_ok decode name argv answer
  have named := recordOf_probeName decode name argv answer
  rw [Tally.hear, Tally.note]
  dsimp only
  rw [ok, named]
  cases well : succeeded answer <;> cases crit : isCritical name <;>
    constructor <;> simp [critical, well, crit]

variable {decode}

theorem Heard.trans {a : Answered} {answered : List Answered} {before between after : Tally}
    (first : Heard decode [a] before between) (rest : Heard decode answered between after) :
    Heard decode (a :: answered) before after where
  records := by rw [rest.records, first.records, List.append_assoc]; rfl
  warnings := by
    rw [rest.warnings, first.warnings, List.append_assoc, ← List.map_append, ← List.filter_append]
    rfl
  findings := by rw [rest.findings, first.findings, List.append_assoc]; rfl
  criticalOk := by
    rw [rest.criticalOk, first.criticalOk, Nat.add_assoc, ← List.countP_append, critical, critical,
      ← List.filter_append]
    rfl

theorem heard_foldl (decode : ByteArray → String) (answered : List Answered) (tally : Tally) :
    Heard decode answered tally (answered.foldl (Tally.hear decode) tally) := by
  induction answered generalizing tally with
  | nil => constructor <;> simp [critical]
  | cons a answered ih => exact (heard_one decode tally a).trans (ih (tally.hear decode a))

/-- The verdict is the one of the answers. -/
theorem judged {answered : List Answered} (whole : answered.map Prod.fst = probes)
    {report : EnvInspectionReport} (fresh : report.findings = [] ∧ report.warnings = [] ∧
      report.probeRecords = []) {tally : Tally}
    (heard : Heard decode answered { report := report } tally) :
    Judged decode answered tally.verdict := by
  obtain ⟨records, warnings, findings, counted⟩ := heard
  dsimp only at records warnings findings counted
  rw [fresh.2.2, List.nil_append] at records
  rw [fresh.2.1, List.nil_append] at warnings
  rw [fresh.1, List.map_nil, List.nil_append] at findings
  rw [Nat.zero_add] at counted
  have three : (critical answered).length = 3 := by
    have names : (critical answered).map Prod.fst = probes.filter fun p => isCritical p.1 := by
      rw [← whole, List.filter_map]
      rfl
    rw [← List.length_map (f := Prod.fst), names]
    rfl
  have ready : 3 ≤ tally.criticalOk ↔ ∀ a ∈ critical answered, succeeded a.2 = true := by
    have most := List.countP_le_length (p := fun a : Answered => succeeded a.2) (l := critical answered)
    rw [counted, ← List.countP_eq_length (p := fun a : Answered => succeeded a.2)]
    omega
  have none : tally.criticalOk = 0 ↔ ∀ a ∈ critical answered, succeeded a.2 = false := by
    rw [counted, List.countP_eq_zero]
    simp only [Bool.not_eq_true]
  have clean : tally.report.warnings = [] ↔ ∀ a ∈ answered, succeeded a.2 = true := by
    rw [warnings, List.map_eq_nil_iff, List.filter_eq_nil_iff]
    simp only [Bool.not_eq_true, Bool.not_eq_false']
  have within : (∀ a ∈ answered, succeeded a.2 = true) → 3 ≤ tally.criticalOk := by
    intro all
    exact ready.mpr fun a mem => all a (List.mem_of_mem_filter mem)
  unfold Tally.verdict
  split_ifs with enough clear some
  · refine ⟨records, warnings, findings, ?_, ?_, ?_, ?_, ?_⟩
    · exact iff_of_true rfl (ready.mp enough)
    · rw [← none]
      exact iff_of_false (by simp) (by omega)
    · simp
    · exact iff_of_true rfl (clean.mp clear)
    · simp
  · refine ⟨records, warnings, findings, ?_, ?_, ?_, ?_, ?_⟩
    · exact iff_of_true rfl (ready.mp enough)
    · rw [← none]
      exact iff_of_false (by simp) (by omega)
    · simp
    · exact iff_of_false (by simp) (fun all => clear (clean.mpr all))
    · simp
  · refine ⟨records, warnings, findings, ?_, ?_, ?_, ?_, ?_⟩
    · exact iff_of_false (by simp) (fun all => enough (ready.mpr all))
    · rw [← none]
      exact iff_of_false (by simp) (by omega)
    · simp
    · exact iff_of_false (by simp) (fun all => enough (within all))
    · simp
  · refine ⟨records, warnings, findings, ?_, ?_, ?_, ?_, ?_⟩
    · exact iff_of_false (by simp) (fun all => enough (ready.mpr all))
    · rw [← none]
      exact iff_of_true rfl (by omega)
    · simp
    · exact iff_of_false (by simp) (fun all => enough (within all))
    · simp

end Verdict

section Inspection

variable (driver : DockerDriver σ) (decode : ByteArray → String) (data : DockerEnvInspectionInput)
  (s : Ledger σ)

/-- The first call of an inspection. -/
def firstCall (answer : Except PyExc ContainerRef) : DriverCall :=
  .inspectContainer data.containerId answer

theorem outcome_inspectContainer :
    (Computation.outcome ((recorded driver).inspectContainer data.containerId) :
      Computation (Ledger σ) PyExc _) s = (.ok (driver.inspectContainer data.containerId s.world).1,
      ⟨(driver.inspectContainer data.containerId s.world).2,
        s.calls ++ [firstCall data (driver.inspectContainer data.containerId s.world).1]⟩) := rfl

/-- A call of a list of probes is a call of a probe. -/
theorem reads_probeCall {answered : List Answered} (whole : answered.map Prod.fst = probes)
    {spec : ExecCreateSpec} {timeoutSec : Option ℤ} {answer : Except PyExc ExecResult}
    (mem : DriverCall.exec spec timeoutSec answer ∈ answered.map (probeCall data.containerId)) :
    spec.containerId = data.containerId ∧ ReadOnly inspectPolicy.allowedBinaries spec.argv := by
  obtain ⟨a, among, own⟩ := List.mem_map.mp mem
  cases own
  refine ⟨rfl, (probes_read a.1 ?_).2⟩
  rw [← whole]
  exact List.mem_map_of_mem among

/-- Whatever a driver answers, and whatever it raises, an inspection ends with a report. It asks the
driver for the container and runs its own list of commands in it, each of which only reads, and the
report is the verdict on the answers. -/
theorem inspects : ∃ report calls w,
    inspectDockerEnv ⟨recorded driver, decode⟩ data s = (.ok report, ⟨w, s.calls ++ calls⟩) ∧
      Inspected decode data calls report ∧
      ∀ spec timeoutSec answer, DriverCall.exec spec timeoutSec answer ∈ calls →
        spec.containerId = data.containerId ∧
          ReadOnly inspectPolicy.allowedBinaries spec.argv := by
  have asked := outcome_inspectContainer driver data s
  rcases answer : driver.inspectContainer data.containerId s.world with ⟨exc | container, w⟩
  · rw [answer] at asked
    refine ⟨failedReport (newReport data) (inspectFailed exc), [firstCall data (.error exc)], w, ?_,
      .unreachable exc _ rfl rfl rfl, fun spec timeoutSec answer mem => ?_⟩
    · rw [inspectDockerEnv, Computation.bind_of_ok asked]
      rfl
    · cases List.mem_singleton.mp mem
  rw [answer] at asked
  by_cases running : container.status = some "running"
  · obtain ⟨answered, w', whole, probed⟩ := probeAll_calls driver decode data.containerId
      (fun probe mem => (probes_read probe mem).1)
      { report := { newReport data with containerStatus := container.status } }
      ⟨w, s.calls ++ [firstCall data (.ok container)]⟩
    have heard := heard_foldl decode answered
      { report := { newReport data with containerStatus := container.status } }
    refine ⟨_, firstCall data (.ok container) :: answered.map (probeCall data.containerId), w', ?_,
      .probed container answered _ running whole (judged whole ⟨rfl, rfl, rfl⟩ heard), ?_⟩
    · rw [inspectDockerEnv, Computation.bind_of_ok asked]
      dsimp only
      rw [if_neg (not_not.mpr running), Computation.bind_of_ok probed, List.append_assoc]
      rfl
    · intro spec timeoutSec answer mem
      rcases List.mem_cons.mp mem with other | later
      · cases other
      · exact reads_probeCall data whole later
  · refine ⟨failedReport { newReport data with containerStatus := container.status }
      (notRunning container), [firstCall data (.ok container)], w, ?_,
      .stopped container _ running rfl rfl rfl, fun spec timeoutSec answer mem => ?_⟩
    · rw [inspectDockerEnv, Computation.bind_of_ok asked]
      dsimp only
      rw [if_pos running]
      rfl
    · cases List.mem_singleton.mp mem

end Inspection

end SthBoring.Inspection.EnvProbes
