/- Module: SthBoring/Execution/StepUtils
   source: sdk_test_agent/execution/step_executors/_utils.py
   digest: What the step executors share: services, earlier outputs, and persisted texts. -/

import SthBoring.Lib.Effect
import SthBoring.Lib.PyJson
import SthBoring.Lib.PyObject
import SthBoring.Execution.Engine

set_option autoImplicit false
set_option relaxedAutoImplicit false

namespace SthBoring.Execution.StepUtils

universe u

open SthBoring.Lib.Effect (Computation Triple Keeps Returns)
open SthBoring.Lib.OrderedDict (PyDict)
open SthBoring.Lib.PyJson (dumps Format)
open SthBoring.Lib.PyObject
open SthBoring.Lib.PyValue
open SthBoring.Plan.Models (PlanStep)
open SthBoring.Execution.Models
open SthBoring.Execution.Engine (persistCall noteRef keptRefs stepOutputsValue)

variable {σ : Type u}

section Calls

/-- A call that an executor makes to a service, with the answer. -/
inductive ServiceCall where
  | persistArtifactBytes (call : PersistCall) (answer : Except PyExc PersistedRecord)
  | buildImage (spec : Value) (answer : Except PyExc Value)
  | createContainer (spec : Value) (ownerTaskId : String) (answer : Except PyExc Value)
  | createDeploymentRecord (kwargs : Fields) (answer : Except PyExc Value)
  | executeAction (action : Value) (payload : Fields) (answer : Except PyExc Fields)
  | inspectJavaPackage (data : Value) (answer : Except PyExc Value)
  | inspectDockerEnv (data : Value) (answer : Except PyExc Value)

/-- What an executor works on, with the calls it made so far. -/
structure Working (σ : Type u) where
  context : ExecutionContext σ
  world : σ
  calls : List ServiceCall

abbrev Executing (σ : Type u) (α : Type) : Type u := Computation (Working σ) PyExc α

/-- Call a service. -/
def ask {α : Type} (entry : Except PyExc α → ServiceCall) (service : σ → Except PyExc α × σ) :
    Executing σ α := fun s =>
  let (answer, w) := service s.world
  (answer, { s with world := w, calls := s.calls ++ [entry answer] })

/-- Go on with the context as it is now. -/
def withContext {α : Type} (k : ExecutionContext σ → Executing σ α) : Executing σ α :=
  fun s => k s.context s

/-- A failed result that no service had a part in. -/
def failedResult (errorType errorMessage : String) : StepExecutionResult :=
  { status := .failed, errorType := some errorType, errorMessage := some errorMessage }

/-- The check at the head of an executor that a service is configured. -/
def requiring {τ : Type u} (service : ExecutionContext σ → Option τ) (name : String)
    (body : τ → Executing σ StepExecutionResult) : Executing σ StepExecutionResult := fun s =>
  match service s.context with
  | none => (.ok (failedResult "MissingDependency" s!"{name} is not configured"), s)
  | some found => body found s

/-- An executor by its kind and what it does for a step. -/
def executorOf (stepKind : String) (body : PlanStep → Executing σ StepExecutionResult) :
    StepExecutor σ where
  stepKind := stepKind
  execute step context w :=
    let ended := body step ⟨context, w, []⟩
    ⟨ended.1, ended.2.context, ended.2.world⟩

/-- The calls made for a step. -/
def callsOf (body : PlanStep → Executing σ StepExecutionResult) (step : PlanStep)
    (context : ExecutionContext σ) (w : σ) : List ServiceCall :=
  (body step ⟨context, w, []⟩).2.calls

end Calls

section Answers

variable {α : Type} {entry : Except PyExc α → ServiceCall} {service : σ → Except PyExc α × σ}
  {s : Working σ} {w : σ}

theorem ask_of_ok {a : α} (h : service s.world = (.ok a, w)) :
    ask entry service s = (.ok a, ⟨s.context, w, s.calls ++ [entry (.ok a)]⟩) := by
  unfold ask
  rw [h]

theorem ask_of_error {exc : PyExc} (h : service s.world = (.error exc, w)) :
    ask entry service s = (.error exc, ⟨s.context, w, s.calls ++ [entry (.error exc)]⟩) := by
  unfold ask
  rw [h]

/-- What a service answered is the last of the calls. -/
theorem of_ask_ok {a : α} {s' : Working σ} (h : ask entry service s = (.ok a, s')) :
    s'.context = s.context ∧ s'.calls = s.calls ++ [entry (.ok a)] := by
  unfold ask at h
  obtain ⟨answered, rfl⟩ := Prod.mk.inj h
  exact ⟨rfl, by rw [answered]⟩

/-- Only a configured service lets a step succeed that requires it. -/
theorem of_requiring_succeeded {τ : Type u} {service : ExecutionContext σ → Option τ} {name : String}
    {body : τ → Executing σ StepExecutionResult} {result : StepExecutionResult}
    (ran : (requiring service name body s).1 = .ok result) (success : result.status = .succeeded) :
    ∃ found, service s.context = some found ∧ requiring service name body s = body found s := by
  unfold requiring at ran ⊢
  cases configured : service s.context with
  | none =>
    rw [configured] at ran
    cases ran
    cases success
  | some found => exact ⟨found, rfl, rfl⟩

end Answers

section Inputs

def getInputOrVariable (inputs : Fields) (context : ExecutionContext σ) (key : String)
    (default : Value) : Value :=
  match inputs.get key with
  | some v => v
  | none => (context.contextVariables.get key).getD default

/-- The value under a key in the newest outputs that have it. -/
def findOutput (context : ExecutionContext σ) (key : String) : Value :=
  (context.stepOutputs.values.reverse.findSome? (fun outputs => Fields.get outputs key)).getD .null

end Inputs

section Persisting

/-- The call that persists a text. -/
def textCall (context : ExecutionContext σ) (kind name text : String) (mimeType : Option String) :
    PersistCall :=
  { persistCall context kind name text "" with mimeType := mimeType }

/-- `persist_text`; the call is by keywords, and not repeated. -/
def persistText (kind name text : String) (mimeType : Option String) :
    Executing σ (Option String) := withContext fun context =>
  match context.artifactManager with
  | none => pure none
  | some manager => do
    let call := textCall context kind name text mimeType
    let record ← ask (.persistArtifactBytes call) (manager.persistArtifactBytes call)
    Computation.modify (fun s => { s with context := noteRef s.context name record.ref })
    return some record.ref

section Answers

variable {kind name text : String} {mimeType : Option String} {s : Working σ} {w : σ}
  {manager : ArtifactManager σ}

theorem persistText_of_none (h : s.context.artifactManager = none) :
    persistText kind name text mimeType s = (.ok none, s) := by
  unfold persistText withContext
  dsimp only
  rw [h]
  rfl

theorem persistText_of_ok (configured : s.context.artifactManager = some manager)
    {record : PersistedRecord}
    (h : manager.persistArtifactBytes (textCall s.context kind name text mimeType) s.world =
      (.ok record, w)) :
    persistText kind name text mimeType s =
      (.ok (some record.ref), ⟨noteRef s.context name record.ref, w, s.calls ++
        [.persistArtifactBytes (textCall s.context kind name text mimeType) (.ok record)]⟩) := by
  unfold persistText withContext
  dsimp only
  rw [configured]
  exact Computation.bind_of_ok (ask_of_ok h) _

theorem persistText_of_error (configured : s.context.artifactManager = some manager) {exc : PyExc}
    (h : manager.persistArtifactBytes (textCall s.context kind name text mimeType) s.world =
      (.error exc, w)) :
    persistText kind name text mimeType s =
      (.error exc, ⟨s.context, w, s.calls ++
        [.persistArtifactBytes (textCall s.context kind name text mimeType) (.error exc)]⟩) := by
  unfold persistText withContext
  dsimp only
  rw [configured]
  exact Computation.bind_of_error (ask_of_error h) _

end Answers

def persistJson (kind name : String) (payload : Value) : Executing σ (Option String) :=
  persistText kind name (dumps .standard (jsonable payload)) (some "application/json")

/-- `text.encode`, on what a payload holds. -/
def textOf (v : Value) : Except PyExc String :=
  match v with
  | .str s => .ok s
  | v => .error (attributeError s!"'{v.typeName}' object has no attribute 'encode'")

/-- A text that may be missing. -/
def optionalText (v : Value) : Except PyExc (Option String) :=
  match v with
  | .null => .ok none
  | v => (textOf v).map some

end Persisting

section Rules

variable {α : Type} {I : Working σ → Prop}

/-- A property that a call cannot break: it is about the context alone. -/
theorem Keeps.ask {P : ExecutionContext σ → Prop} (entry : Except PyExc α → ServiceCall)
    (service : σ → Except PyExc α × σ) :
    Keeps (fun s => P s.context) (StepUtils.ask entry service) := by
  intro s hs
  unfold StepUtils.ask
  rcases service s.world with ⟨answer | answer, w⟩
  · exact hs
  · exact hs

/-- A property of the calls so far, which the new one must not break. -/
theorem Keeps.ask_calls {C : List ServiceCall → Prop} {entry : Except PyExc α → ServiceCall}
    (h : ∀ calls answer, C calls → C (calls ++ [entry answer]))
    (service : σ → Except PyExc α × σ) :
    Keeps (fun s => C s.calls) (StepUtils.ask entry service) := by
  intro s hs
  unfold StepUtils.ask
  rcases service s.world with ⟨answer | answer, w⟩
  · exact h s.calls _ hs
  · exact h s.calls _ hs

/-- A property of all calls, which the service's own answers have. -/
theorem Keeps.ask_answered {Q : ServiceCall → Prop} {entry : Except PyExc α → ServiceCall}
    {service : σ → Except PyExc α × σ} (h : ∀ w, Q (entry (service w).1)) :
    Keeps (fun s => ∀ call ∈ s.calls, Q call) (StepUtils.ask entry service) := by
  intro s all
  have made : ∀ call ∈ (StepUtils.ask entry service s).2.calls, Q call := by
    intro call mem
    rcases List.mem_append.mp mem with old | new
    · exact all call old
    · exact List.mem_singleton.mp new ▸ h s.world
  rcases ended : StepUtils.ask entry service s with ⟨answer | answer, s'⟩
  · rw [ended] at made
    exact made
  · rw [ended] at made
    exact made

/-- A property of all calls, which each answer has to have. -/
theorem Keeps.ask_all {Q : ServiceCall → Prop} {entry : Except PyExc α → ServiceCall}
    (h : ∀ answer, Q (entry answer)) (service : σ → Except PyExc α × σ) :
    Keeps (fun s => ∀ call ∈ s.calls, Q call) (StepUtils.ask entry service) :=
  Keeps.ask_answered (fun w => h (service w).1)

/-- No call is forgotten. -/
theorem Keeps.ask_mem (call : ServiceCall) (entry : Except PyExc α → ServiceCall)
    (service : σ → Except PyExc α × σ) :
    Keeps (fun s => call ∈ s.calls) (StepUtils.ask entry service) :=
  Keeps.ask_calls (C := fun calls => call ∈ calls)
    (fun _ _ mem => List.mem_append_left _ mem) service

/-- A property of the calls up to an answer, which nothing behind it breaks. -/
theorem calls_of_ask_bind {β : Type} {entry : Except PyExc α → ServiceCall}
    {service : σ → Except PyExc α × σ} {k : α → Executing σ β} {s : Working σ}
    {C : List ServiceCall → Prop} (asked : C (s.calls ++ [entry (service s.world).1]))
    (keeps : ∀ a, Keeps (fun s' => C s'.calls) (k a)) :
    C ((StepUtils.ask entry service >>= k) s).2.calls := by
  rcases answered : service s.world with ⟨exc | a, w⟩
  · rw [Computation.bind_of_error (ask_of_error answered)]
    rw [answered] at asked
    exact asked
  · rw [Computation.bind_of_ok (ask_of_ok answered)]
    rw [answered] at asked
    exact (keeps a).after asked

/-- A service that answers was called. -/
theorem Triple.ask (entry : Except PyExc α → ServiceCall) (service : σ → Except PyExc α × σ) :
    Triple (fun _ => True) (StepUtils.ask entry service)
      (fun a s => entry (.ok a) ∈ s.calls) (fun _ _ => True) := by
  intro s _
  unfold StepUtils.ask
  rcases service s.world with ⟨answer | answer, w⟩
  · exact trivial
  · exact List.mem_append_right _ (List.mem_singleton.mpr rfl)

theorem Triple.withContext {P : Working σ → Prop} {Q : α → Working σ → Prop}
    {R : PyExc → Working σ → Prop} {k : ExecutionContext σ → Executing σ α}
    (h : ∀ c, Triple P (k c) Q R) : Triple P (StepUtils.withContext k) Q R :=
  fun s hs => h s.context s hs

theorem Triple.requiring {P : Working σ → Prop} {Q : StepExecutionResult → Working σ → Prop}
    {R : PyExc → Working σ → Prop} {τ : Type u} {service : ExecutionContext σ → Option τ}
    {name : String} {body : τ → Executing σ StepExecutionResult}
    (missing : ∀ s, P s → Q (failedResult "MissingDependency" s!"{name} is not configured") s)
    (h : ∀ found, Triple P (body found) Q R) : Triple P (StepUtils.requiring service name body) Q R := by
  intro s hs
  unfold StepUtils.requiring
  cases service s.context with
  | none => exact missing s hs
  | some found => exact h found s hs

theorem Keeps.withContext {k : ExecutionContext σ → Executing σ α} (h : ∀ c, Keeps I (k c)) :
    Keeps I (StepUtils.withContext k) :=
  Triple.withContext h

theorem Keeps.requiring {τ : Type u} {service : ExecutionContext σ → Option τ} {name : String}
    {body : τ → Executing σ StepExecutionResult} (h : ∀ found, Keeps I (body found)) :
    Keeps I (StepUtils.requiring service name body) :=
  Triple.requiring (fun _ hs => hs) h

theorem Returns.withContext {Q : α → Prop} {k : ExecutionContext σ → Executing σ α}
    (h : ∀ c, Returns Q (k c)) : Returns Q (StepUtils.withContext k) :=
  Triple.withContext h

theorem Returns.requiring {τ : Type u} {Q : StepExecutionResult → Prop}
    {service : ExecutionContext σ → Option τ} {name : String}
    {body : τ → Executing σ StepExecutionResult}
    (missing : Q (failedResult "MissingDependency" s!"{name} is not configured"))
    (h : ∀ found, Returns Q (body found)) : Returns Q (StepUtils.requiring service name body) :=
  Triple.requiring (fun _ _ => missing) h

/-- Persisting a text makes persist calls and no others. -/
theorem persistText_calls {C : List ServiceCall → Prop}
    (h : ∀ calls call answer, C calls → C (calls ++ [.persistArtifactBytes call answer]))
    (kind name text : String) (mimeType : Option String) :
    Keeps (fun s : Working σ => C s.calls) (persistText kind name text mimeType) := by
  refine Keeps.withContext (fun context => ?_)
  cases context.artifactManager with
  | none => exact Keeps.pure none
  | some manager =>
    refine Keeps.bind (Keeps.ask_calls (fun calls answer => h calls _ answer) _) (fun record => ?_)
    exact Keeps.bind (Keeps.modify (fun _ hs => hs)) (fun _ => Keeps.pure _)

end Rules

end SthBoring.Execution.StepUtils
