/- Module: SthBoring/FunctionTools/SandboxRun
   source: mcped_function_tools/python_sandbox.py
   digest: Code in a process of its own, and when what it wrote comes back as a bounded text. -/

import SthBoring.Lib.PosixPath
import SthBoring.Lib.PyJson

set_option autoImplicit false
set_option relaxedAutoImplicit false

namespace SthBoring.FunctionTools.SandboxRun

open SthBoring.Lib.PosixPath (pathJoin)
open SthBoring.Lib.PyJson (dumpsInOrder Format)
open SthBoring.Lib.PyValue

section Models

/-- Runtime limits for sandboxed Python execution. -/
structure SandboxLimits where
  timeoutSeconds : PyFloat := ⟨2, "2.0"⟩
  memoryMb : ℤ := 256
  maxOutputChars : ℤ := 8000

/-- What stands in a field that is declared as a text. -/
inductive Output where
  | text (s : String)
  | bytes (b : ByteArray)

structure SandboxResult where
  ok : Bool
  exitCode : Option ℤ
  stdout : Output
  stderr : Output
  timedOut : Bool

structure PythonSandbox where
  pythonBin : String
  limits : SandboxLimits

/-- What `subprocess.run` starts: the arguments, the text of the script, and the limits. -/
structure Launch where
  argv : List String
  cwd : String
  script : String
  env : List (String × String)
  timeout : PyFloat
  memBytes : ℤ

/-- How a process ends. After a timeout nothing is decoded: what was read of a stream so far is
bytes, and `none` if nothing was read. -/
inductive Outcome where
  | exited (returncode : ℤ) (stdout stderr : ByteArray)
  | timedOut (stdout stderr : Option ByteArray)

/-- The machine that the sandbox runs on: where its temporary directory is, what `text=True` makes
of the output of a process that has exited, and what a process does. -/
structure Host where
  executable : String
  tmpdir : String
  decode : ByteArray → Except PyExc String
  process : Launch → Outcome

end Models

section Run

/-- `PythonSandbox(python_bin=python_bin, limits=limits)`. -/
def PythonSandbox.init (host : Host) (pythonBin : Option String) (limits : Option SandboxLimits) :
    PythonSandbox where
  pythonBin := textOr pythonBin host.executable
  limits := limits.getD {}

def prelude : String :=
  "\nimport json\nimport os\n\n" ++
    "INPUT = json.loads(os.environ.get(\"PY_SANDBOX_INPUT\", \"null\"))\n"

def truncationMark : String := "\n...<truncated>"

def Output.length : Output → ℕ
  | .text s => s.length
  | .bytes b => b.size

/-- `_trim`. The mark cannot be put behind bytes. -/
def trim (value : Output) (maxChars : ℤ) : Except PyExc Output :=
  if (value.length : ℤ) ≤ maxChars then .ok value
  else
    match value with
    | .text s => .ok (.text (String.ofList (sliceUpTo maxChars s.toList) ++ truncationMark))
    | .bytes _ => .error (typeError "can't concat str to bytes")

/-- `captured or ""`. -/
def partialOutput : Option ByteArray → Output
  | none => .text ""
  | some b => if b.size = 0 then .text "" else .bytes b

/-- `input_data if input_data is not None else None`. -/
def inputValue : Option Fields → Value
  | some fields => .dict fields
  | none => .null

variable (sandbox : PythonSandbox) (host : Host)

def launch (code inputText : String) : Launch where
  argv := [sandbox.pythonBin, "-I", "-B", pathJoin host.tmpdir "main.py"]
  cwd := host.tmpdir
  script := prelude ++ "\n" ++ code ++ "\n"
  env := [("PYTHONUNBUFFERED", "1"), ("PY_SANDBOX_INPUT", inputText)]
  timeout := sandbox.limits.timeoutSeconds
  memBytes := sandbox.limits.memoryMb * 1024 * 1024

def finish : Outcome → Except PyExc SandboxResult
  | .timedOut out err => do
    let stdout ← trim (partialOutput out) sandbox.limits.maxOutputChars
    let stderr ← trim (partialOutput err) sandbox.limits.maxOutputChars
    .ok { ok := false, exitCode := none, stdout := stdout, stderr := stderr, timedOut := true }
  | .exited returncode out err => do
    -- `communicate` decodes both streams before it returns.
    let outText ← host.decode out
    let errText ← host.decode err
    let stdout ← trim (.text outText) sandbox.limits.maxOutputChars
    let stderr ← trim (.text errText) sandbox.limits.maxOutputChars
    .ok { ok := returncode == 0, exitCode := some returncode, stdout := stdout, stderr := stderr,
          timedOut := false }

def run (code : String) (inputData : Option Fields) : Except PyExc SandboxResult := do
  let inputText ← dumpsInOrder .standard (inputValue inputData)
  finish sandbox host (host.process (launch sandbox host code inputText))

end Run

section Bounded

variable (decode : ByteArray → Except PyExc String)

/-- The text that was read of a stream until the timeout. -/
def streamText : Option ByteArray → Except PyExc String
  | none => .ok ""
  | some b => if b.size = 0 then .ok "" else decode b

/-- The texts that a process wrote to its two streams. -/
def Wrote : Outcome → String → String → Prop
  | .exited _ out err, outText, errText => decode out = .ok outText ∧ decode err = .ok errText
  | .timedOut out err, outText, errText =>
    streamText decode out = .ok outText ∧ streamText decode err = .ok errText

/-- A text of which at most so many characters come from the process, from the start of what it
wrote. -/
def BoundedText (maxChars : ℤ) (written : String) (out : Output) : Prop :=
  ∃ part : String, part.toList <+: written.toList ∧ (part.length : ℤ) ≤ maxChars ∧
    (out = .text part ∨ out = .text (part ++ truncationMark))

/-- A call returns, with both streams as bounded texts and the verdict of the exit code. -/
def BoundedResult (maxChars : ℤ) (outcome : Outcome) (returned : Except PyExc SandboxResult) :
    Prop :=
  ∃ result outText errText, returned = .ok result ∧ Wrote decode outcome outText errText ∧
    BoundedText maxChars outText result.stdout ∧ BoundedText maxChars errText result.stderr ∧
    (result.ok = true ↔ ∃ out err, outcome = .exited 0 out err)

/-- Nothing was read of the stream before the timeout. -/
def Silent (captured : Option ByteArray) : Prop := ∀ b ∈ captured, b.size = 0

/-- The process exits and what it wrote can be decoded, or it writes nothing until it is stopped. -/
def Readable : Outcome → Prop
  | .exited _ out err => (∃ text, decode out = .ok text) ∧ ∃ text, decode err = .ok text
  | .timedOut out err => Silent out ∧ Silent err

end Bounded

section Trim

variable {maxChars : ℤ}

/-- A text is cut off at the limit, and marked if that took something away. -/
theorem trim_text (room : 0 ≤ maxChars) (s : String) :
    ∃ out, trim (.text s) maxChars = .ok out ∧ BoundedText maxChars s out := by
  unfold trim
  split
  · rename_i short
    exact ⟨.text s, rfl, s, List.prefix_rfl, short, .inl rfl⟩
  · refine ⟨_, rfl, String.ofList (sliceUpTo maxChars s.toList), ?_, ?_, .inr rfl⟩
    · rw [String.toList_ofList, sliceUpTo, if_pos room]
      exact List.take_prefix _ _
    · rw [sliceUpTo, if_pos room, String.length_ofList, List.length_take]
      omega

/-- Bytes stay bytes, or cannot be cut off. -/
theorem not_boundedText_trim {b : ByteArray} {out : Output} {written : String}
    (trimmed : trim (.bytes b) maxChars = .ok out) : ¬BoundedText maxChars written out := by
  unfold trim at trimmed
  split at trimmed
  · cases trimmed
    rintro ⟨part, -, -, same | same⟩ <;> cases same
  · cases trimmed

theorem partialOutput_of_silent {captured : Option ByteArray} (silent : Silent captured) :
    partialOutput captured = .text "" := by
  cases captured with
  | none => rfl
  | some b => exact if_pos (silent b rfl)

theorem streamText_of_silent (decode : ByteArray → Except PyExc String)
    {captured : Option ByteArray} (silent : Silent captured) :
    streamText decode captured = .ok "" := by
  cases captured with
  | none => rfl
  | some b => exact if_pos (silent b rfl)

/-- After a timeout a stream is a text only if nothing was read of it. -/
theorem silent_of_boundedText {captured : Option ByteArray} {out : Output} {written : String}
    (trimmed : trim (partialOutput captured) maxChars = .ok out)
    (bounded : BoundedText maxChars written out) : Silent captured := by
  rintro b rfl
  by_contra some
  rw [partialOutput, if_neg some] at trimmed
  exact not_boundedText_trim trimmed bounded

end Trim

section Verdict

variable (sandbox : PythonSandbox) (host : Host)

/-- What has been decoded is cut off and given back. -/
theorem finish_exited {returncode : ℤ} {out err : ByteArray} {outText errText : String}
    (room : 0 ≤ sandbox.limits.maxOutputChars) (decoded : host.decode out = .ok outText)
    (decoded' : host.decode err = .ok errText) :
    BoundedResult host.decode sandbox.limits.maxOutputChars (.exited returncode out err)
      (finish sandbox host (.exited returncode out err)) := by
  obtain ⟨stdout, trimmed, bounded⟩ := trim_text room outText
  obtain ⟨stderr, trimmed', bounded'⟩ := trim_text room errText
  refine ⟨⟨returncode == 0, some returncode, stdout, stderr, false⟩, outText, errText, ?_,
    ⟨decoded, decoded'⟩, bounded, bounded', ?_⟩
  · simp only [finish, decoded, decoded', trimmed, trimmed', bind, Except.bind]
  · constructor
    · intro zero
      rw [eq_of_beq zero]
      exact ⟨out, err, rfl⟩
    · rintro ⟨_, _, same⟩
      cases same
      rfl

theorem finish_timedOut {out err : Option ByteArray} (room : 0 ≤ sandbox.limits.maxOutputChars)
    (silent : Silent out) (silent' : Silent err) :
    BoundedResult host.decode sandbox.limits.maxOutputChars (.timedOut out err)
      (finish sandbox host (.timedOut out err)) := by
  obtain ⟨empty, trimmed, bounded⟩ := trim_text room ""
  refine ⟨⟨false, none, empty, empty, true⟩, "", "", ?_,
    ⟨streamText_of_silent _ silent, streamText_of_silent _ silent'⟩, bounded, bounded, ?_⟩
  · simp only [finish, partialOutput_of_silent silent, partialOutput_of_silent silent', trimmed,
      bind, Except.bind]
  · exact iff_of_false Bool.false_ne_true nofun

/-- A process that was stopped has texts in its result only if it had written nothing. -/
theorem silent_of_boundedResult {out err : Option ByteArray}
    (bounded : BoundedResult host.decode sandbox.limits.maxOutputChars (.timedOut out err)
      (finish sandbox host (.timedOut out err))) : Silent out ∧ Silent err := by
  obtain ⟨result, outText, errText, returned, -, stdout, stderr, -⟩ := bounded
  simp only [finish, bind_eq_ok] at returned
  obtain ⟨first, trimmed, second, trimmed', same⟩ := returned
  cases same
  exact ⟨silent_of_boundedText trimmed stdout, silent_of_boundedText trimmed' stderr⟩

theorem finish_boundedResult_iff (room : 0 ≤ sandbox.limits.maxOutputChars) (outcome : Outcome) :
    BoundedResult host.decode sandbox.limits.maxOutputChars outcome (finish sandbox host outcome) ↔
      Readable host.decode outcome := by
  cases outcome with
  | exited returncode out err =>
    constructor
    · rintro ⟨_, outText, errText, -, ⟨decoded, decoded'⟩, -⟩
      exact ⟨⟨outText, decoded⟩, ⟨errText, decoded'⟩⟩
    · rintro ⟨⟨outText, decoded⟩, ⟨errText, decoded'⟩⟩
      exact finish_exited sandbox host room decoded decoded'
  | timedOut out err =>
    constructor
    · exact silent_of_boundedResult sandbox host
    · rintro ⟨silent, silent'⟩
      exact finish_timedOut sandbox host room silent silent'

/-- A call gives bounded texts back exactly for a process that can be read. -/
theorem run_boundedResult_iff (code : String) (inputData : Option Fields) {inputText : String}
    (serialised : dumpsInOrder .standard (inputValue inputData) = .ok inputText)
    (room : 0 ≤ sandbox.limits.maxOutputChars) :
    BoundedResult host.decode sandbox.limits.maxOutputChars
        (host.process (launch sandbox host code inputText)) (run sandbox host code inputData) ↔
      Readable host.decode (host.process (launch sandbox host code inputText)) := by
  have started : run sandbox host code inputData =
      finish sandbox host (host.process (launch sandbox host code inputText)) := by
    rw [run, serialised]
    rfl
  rw [started]
  exact finish_boundedResult_iff sandbox host room _

/-- A machine whose locale is UTF-8, and what its processes do. -/
def utf8Host (process : Launch → Outcome) : Host where
  executable := "/usr/bin/python3"
  tmpdir := "/tmp/py_sandbox_x1"
  decode := fun b =>
    match String.fromUTF8? b with
    | some text => .ok text
    | none => .error ⟨"UnicodeDecodeError", ["ValueError", "Exception"], "invalid start byte"⟩
  process := process

/-- A script that prints its input. -/
theorem run_boundedResult_iff_printed :
    let host := utf8Host fun _ => .exited 0 "42\n".toUTF8 "".toUTF8
    let sandbox := PythonSandbox.init host none none
    BoundedResult host.decode 8000 (.exited 0 "42\n".toUTF8 "".toUTF8)
        (run sandbox host "print(INPUT['a'] + 2)" (some [("a", .int 40)])) ↔
      Readable host.decode (.exited 0 "42\n".toUTF8 "".toUTF8) :=
  run_boundedResult_iff (PythonSandbox.init (utf8Host _) none none) (utf8Host _)
    "print(INPUT['a'] + 2)" (some [("a", .int 40)]) rfl (by decide)

/-- A script that says something and then does not end. Within the limit its result holds bytes,
beyond it there is none. -/
theorem not_boundedResult_tick :
    let host := utf8Host fun _ => .timedOut (some "tick\n".toUTF8) none
    let roomy := PythonSandbox.init host none none
    let narrow := PythonSandbox.init host none (some { maxOutputChars := 2 })
    let code := "print('tick', flush=True)\nwhile True:\n    pass"
    ¬BoundedResult host.decode 8000 (.timedOut (some "tick\n".toUTF8) none)
        (run roomy host code none) ∧
      ¬BoundedResult host.decode 2 (.timedOut (some "tick\n".toUTF8) none)
        (run narrow host code none) := by
  intro host roomy narrow code
  have spoke : ¬Silent (some "tick\n".toUTF8) := fun silent => absurd (silent _ rfl) (by decide)
  constructor
  · intro bounded
    exact spoke (silent_of_boundedResult roomy host bounded).1
  · intro bounded
    exact spoke (silent_of_boundedResult narrow host bounded).1

end Verdict

end SthBoring.FunctionTools.SandboxRun
