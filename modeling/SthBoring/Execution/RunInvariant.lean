/- Module: SthBoring/Execution/RunInvariant
   source: sdk_test_agent/execution/execution_engine.py
   digest: What one turn of the engine's loop can do, and what holds at every turn of a run. -/

import Mathlib.Data.List.Forall2
import SthBoring.Execution.Engine
import SthBoring.Lib.DependencyTrace

set_option autoImplicit false
set_option relaxedAutoImplicit false

namespace SthBoring.Execution.RunInvariant

universe u

open SthBoring.Lib.Loop (Flow loop loop_rule)
open SthBoring.Lib.OrderedDict (PyDict)
open SthBoring.Lib.PyValue (PyExc)
open SthBoring.Lib.DependencyTrace (Event lastOutcome Ready Faithful faithful_nil
  lastOutcome_append_singleton)
open SthBoring.Plan.Models (PlanStep ExecutionPlan ReplanRequest StepFailurePolicy)
open SthBoring.Execution.Models
open SthBoring.Execution.Engine

variable {σ : Type u}

section Persisting

/-- An exception that leaves `_persist_text`: any but a TypeError of the keyword call. -/
def Refused (entry : PersistEntry) : Prop :=
  ∃ exc, entry.2 = .error exc ∧ (entry.1.positional = true ∨ exc.isInstance "TypeError" = false)

/-- Two contexts that differ in their artifact references at most. -/
def RefsOnly (before after : ExecutionContext σ) : Prop :=
  ∃ refs, after = { before with artifactRefs := refs }

theorem RefsOnly.refl (context : ExecutionContext σ) : RefsOnly context context :=
  ⟨context.artifactRefs, rfl⟩

theorem RefsOnly.trans {a b c : ExecutionContext σ} (hab : RefsOnly a b) (hbc : RefsOnly b c) :
    RefsOnly a c := by
  obtain ⟨refs, rfl⟩ := hab
  obtain ⟨refs', rfl⟩ := hbc
  exact ⟨refs', rfl⟩

theorem RefsOnly.stepOutputs {a b : ExecutionContext σ} (h : RefsOnly a b) :
    b.stepOutputs = a.stepOutputs := by
  obtain ⟨refs, rfl⟩ := h
  rfl

theorem refsOnly_noteRef (context : ExecutionContext σ) (name ref : String) :
    RefsOnly context (noteRef context name ref) :=
  ⟨_, rfl⟩

/-- What persisting a text does: it touches the references only, and it goes through exactly
when none of its calls is refused. -/
structure PersistSpec (context : ExecutionContext σ) (saved : Persisted σ) : Prop where
  refsOnly : RefsOnly context saved.context
  ok_iff : (∃ ref, saved.outcome = .ok ref) ↔ ∀ entry ∈ saved.calls, ¬ Refused entry

/-- What persisting a text can do. A call that a TypeError turned away is made again. -/
inductive TextPersisted (context : ExecutionContext σ) (call : PersistCall) (w : σ) :
    Persisted σ → Prop where
  | unmanaged (absent : context.artifactManager = none) :
      TextPersisted context call w ⟨.ok none, context, w, []⟩
  | saved {manager : ArtifactManager σ} {record : PersistedRecord} {w₁ : σ}
      (managed : context.artifactManager = some manager)
      (answer : manager.persistArtifactBytes call w = (.ok record, w₁)) :
      TextPersisted context call w
        ⟨.ok (some record.ref), noteRef context call.name record.ref, w₁, [(call, .ok record)]⟩
  | refused {manager : ArtifactManager σ} {exc : PyExc} {w₁ : σ}
      (managed : context.artifactManager = some manager)
      (answer : manager.persistArtifactBytes call w = (.error exc, w₁))
      (other : exc.isInstance "TypeError" = false) :
      TextPersisted context call w ⟨.error exc, context, w₁, [(call, .error exc)]⟩
  | savedAgain {manager : ArtifactManager σ} {exc : PyExc} {record : PersistedRecord} {w₁ w₂ : σ}
      (managed : context.artifactManager = some manager)
      (answer : manager.persistArtifactBytes call w = (.error exc, w₁))
      (typeError : exc.isInstance "TypeError" = true)
      (again : manager.persistArtifactBytes (PersistCall.byPosition call) w₁ = (.ok record, w₂)) :
      TextPersisted context call w
        ⟨.ok (some record.ref), noteRef context call.name record.ref, w₂,
          [(call, .error exc), (PersistCall.byPosition call, .ok record)]⟩
  | refusedAgain {manager : ArtifactManager σ} {exc exc' : PyExc} {w₁ w₂ : σ}
      (managed : context.artifactManager = some manager)
      (answer : manager.persistArtifactBytes call w = (.error exc, w₁))
      (typeError : exc.isInstance "TypeError" = true)
      (again : manager.persistArtifactBytes (PersistCall.byPosition call) w₁ = (.error exc', w₂)) :
      TextPersisted context call w
        ⟨.error exc', context, w₂,
          [(call, .error exc), (PersistCall.byPosition call, .error exc')]⟩

theorem textPersisted (context : ExecutionContext σ) (kind name text mimeType : String) (w : σ) :
    TextPersisted context (persistCall context kind name text mimeType) w
      (persistText context kind name text mimeType w) := by
  unfold persistText
  cases managed : context.artifactManager with
  | none => exact .unmanaged managed
  | some manager =>
    dsimp only
    rcases answer : manager.persistArtifactBytes (persistCall context kind name text mimeType) w with
      ⟨exc | record, w₁⟩
    · dsimp only
      by_cases typeError : exc.isInstance "TypeError" = true
      · rw [if_pos typeError]
        rcases again : manager.persistArtifactBytes
          (PersistCall.byPosition (persistCall context kind name text mimeType)) w₁ with
          ⟨exc' | record, w₂⟩
        · exact .refusedAgain managed answer typeError again
        · exact .savedAgain managed answer typeError again
      · rw [if_neg typeError]
        exact .refused managed answer (Bool.eq_false_of_not_eq_true typeError)
    · exact .saved managed answer

theorem TextPersisted.spec {context : ExecutionContext σ} {call : PersistCall} {w : σ}
    {persisted : Persisted σ} (made : TextPersisted context call w persisted)
    (keyword : call.positional = false) : PersistSpec context persisted := by
  cases made with
  | unmanaged => exact ⟨.refl context, by simp⟩
  | saved => exact ⟨refsOnly_noteRef context _ _, by simp [Refused]⟩
  | refused managed answer other => exact ⟨.refl context, by simp [Refused, other]⟩
  | savedAgain managed answer typeError again =>
    exact ⟨refsOnly_noteRef context _ _, by simp [Refused, keyword, typeError]⟩
  | refusedAgain => exact ⟨.refl context, by simp [Refused, PersistCall.byPosition]⟩

theorem persistText_spec (context : ExecutionContext σ) (kind name text mimeType : String)
    (w : σ) : PersistSpec context (persistText context kind name text mimeType w) :=
  (textPersisted context kind name text mimeType w).spec rfl

theorem persistOptional_spec (context : ExecutionContext σ) (kind name : String)
    (text : Option String) (w : σ) :
    PersistSpec context (persistOptional context kind name text w) := by
  cases text with
  | none => exact ⟨.refl context, by simp [persistOptional]⟩
  | some t => exact persistText_spec context kind name t "text/plain" w

/-- The kind, the name and the content of a text to persist. -/
abbrev StepText := String × String × Option String

/-- The outcome of persisting texts, with a place in the list for each. -/
structure PersistedTexts (σ : Type u) where
  outcome : Except PyExc (List (Option String))
  context : ExecutionContext σ
  world : σ
  calls : List PersistEntry

/-- Texts persisted one after the other, up to the first that is refused. -/
def persistTexts : List StepText → ExecutionContext σ → σ → PersistedTexts σ
  | [], context, w => ⟨.ok [], context, w, []⟩
  | (kind, name, text) :: texts, context, w =>
    let first := persistOptional context kind name text w
    match first.outcome with
    | .error exc => ⟨.error exc, first.context, first.world, first.calls⟩
    | .ok ref =>
      let rest := persistTexts texts first.context first.world
      ⟨rest.outcome.map (ref :: ·), rest.context, rest.world, first.calls ++ rest.calls⟩

section Texts

variable {context : ExecutionContext σ} {kind name : String} {text : Option String} {w : σ}

theorem persistTexts_cons_error {exc : PyExc}
    (raised : (persistOptional context kind name text w).outcome = .error exc)
    (texts : List StepText) :
    persistTexts ((kind, name, text) :: texts) context w =
      ⟨.error exc, (persistOptional context kind name text w).context,
        (persistOptional context kind name text w).world,
        (persistOptional context kind name text w).calls⟩ := by
  rw [persistTexts]
  dsimp only
  rw [raised]

theorem persistTexts_cons_ok {ref : Option String}
    (saved : (persistOptional context kind name text w).outcome = .ok ref)
    (texts : List StepText) :
    persistTexts ((kind, name, text) :: texts) context w =
      let rest := persistTexts texts (persistOptional context kind name text w).context
        (persistOptional context kind name text w).world
      ⟨rest.outcome.map (ref :: ·), rest.context, rest.world,
        (persistOptional context kind name text w).calls ++ rest.calls⟩ := by
  rw [persistTexts]
  dsimp only
  rw [saved]

end Texts

theorem persistTexts_refsOnly (texts : List StepText) (context : ExecutionContext σ) (w : σ) :
    RefsOnly context (persistTexts texts context w).context := by
  induction texts generalizing context w with
  | nil => exact .refl context
  | cons text texts ih =>
    obtain ⟨kind, name, text⟩ := text
    have first := (persistOptional_spec context kind name text w).refsOnly
    cases saved : (persistOptional context kind name text w).outcome with
    | error exc =>
      rw [persistTexts_cons_error saved]
      exact first
    | ok ref =>
      rw [persistTexts_cons_ok saved]
      exact first.trans (ih _ _)

theorem persistTexts_ok_iff (texts : List StepText) (context : ExecutionContext σ) (w : σ) :
    (∃ refs, (persistTexts texts context w).outcome = .ok refs) ↔
      ∀ entry ∈ (persistTexts texts context w).calls, ¬ Refused entry := by
  induction texts generalizing context w with
  | nil => simp [persistTexts]
  | cons text texts ih =>
    obtain ⟨kind, name, text⟩ := text
    have first := (persistOptional_spec context kind name text w).ok_iff
    cases saved : (persistOptional context kind name text w).outcome with
    | error exc =>
      rw [saved] at first
      rw [persistTexts_cons_error saved, ← first]
      simp
    | ok ref =>
      rw [persistTexts_cons_ok saved]
      dsimp only
      rw [List.forall_mem_append, and_iff_right (first.mp ⟨ref, saved⟩), ← ih]
      cases (persistTexts texts _ _).outcome <;> simp [Except.map]

/-- The texts of a step. -/
def textsOf (stepRun : ExecutionStepRun) (result : StepExecutionResult) : List StepText :=
  [("exec.stdout", s!"{stepRun.stepId}.stdout.txt", result.stdout),
   ("exec.stderr", s!"{stepRun.stepId}.stderr.txt", result.stderr),
   ("exec.log", s!"{stepRun.stepId}.log.txt", result.logText)]

/-- A step run and its result, with the references of the texts of the step. -/
def withRefs (copied : ExecutionStepRun) (result : StepExecutionResult)
    (refs : List (Option String)) : ExecutionStepRun × StepExecutionResult :=
  ({ copied with
      stdoutRef := refs.getD 0 none, stderrRef := refs.getD 1 none, logRef := refs.getD 2 none
      artifactRefs := copied.artifactRefs ++ keptRefs refs },
    { result with artifactRefs := result.artifactRefs ++ keptRefs refs })

/-- What `_finish_step_run` keeps of the result and of the step run it is given. -/
structure FinishSpec (stepRun : ExecutionStepRun) (result : StepExecutionResult)
    (finished : ExecutionStepRun × StepExecutionResult) : Prop where
  stepId : finished.1.stepId = stepRun.stepId
  stepKind : finished.1.stepKind = stepRun.stepKind
  runStatus : finished.1.status = result.status
  runOutputs : finished.1.outputs = result.outputs
  status : finished.2.status = result.status
  outputs : finished.2.outputs = result.outputs
  errorType : finished.2.errorType = result.errorType
  errorMessage : finished.2.errorMessage = result.errorMessage

variable (engine : ExecutionEngine σ) (stepRun : ExecutionStepRun)
  (result : StepExecutionResult) (context : ExecutionContext σ) (w : σ)

theorem finishStepRun_eq :
    finishStepRun engine stepRun result context w =
      let texts := persistTexts (textsOf stepRun result) context (engine.timeFunc w).2
      ⟨texts.outcome.map (withRefs (copyResult stepRun result (engine.timeFunc w).1) result),
        texts.context, texts.world, texts.calls⟩ := by
  unfold finishStepRun textsOf
  dsimp only
  split
  · next raised => rw [persistTexts_cons_error raised]; rfl
  · next one =>
    rw [persistTexts_cons_ok one]
    split
    · next raised => rw [persistTexts_cons_error raised]; rfl
    · next two =>
      rw [persistTexts_cons_ok two]
      split
      · next raised =>
        rw [persistTexts_cons_error raised]
        simp [Except.map]
      · next three =>
        rw [persistTexts_cons_ok three]
        simp [Except.map, persistTexts, withRefs]

theorem finishStepRun_outcome {finished : ExecutionStepRun × StepExecutionResult}
    (h : (finishStepRun engine stepRun result context w).outcome = .ok finished) :
    ∃ refs, (persistTexts (textsOf stepRun result) context (engine.timeFunc w).2).outcome = .ok refs ∧
      finished = withRefs (copyResult stepRun result (engine.timeFunc w).1) result refs := by
  rw [finishStepRun_eq] at h
  dsimp only at h
  cases texts : (persistTexts (textsOf stepRun result) context (engine.timeFunc w).2).outcome with
  | error exc => rw [texts] at h; cases h
  | ok refs =>
    rw [texts] at h
    cases h
    exact ⟨refs, rfl, rfl⟩

theorem finishStepRun_refsOnly :
    RefsOnly context (finishStepRun engine stepRun result context w).context := by
  rw [finishStepRun_eq]
  exact persistTexts_refsOnly _ _ _

theorem finishStepRun_spec {finished : ExecutionStepRun × StepExecutionResult}
    (h : (finishStepRun engine stepRun result context w).outcome = .ok finished) :
    FinishSpec stepRun result finished := by
  obtain ⟨refs, -, rfl⟩ := finishStepRun_outcome engine stepRun result context w h
  exact ⟨rfl, rfl, rfl, rfl, rfl, rfl, rfl, rfl⟩

theorem finishStepRun_ok_iff :
    (∃ finished, (finishStepRun engine stepRun result context w).outcome = .ok finished) ↔
      ∀ entry ∈ (finishStepRun engine stepRun result context w).calls, ¬ Refused entry := by
  rw [finishStepRun_eq]
  dsimp only
  rw [← persistTexts_ok_iff]
  cases (persistTexts _ _ _).outcome <;> simp [Except.map]

end Persisting

section Turn

variable (engine : ExecutionEngine σ) (plan : ExecutionPlan) (step : PlanStep) (st : RunState σ)

/-- The state after a success. -/
def succeededState (st : RunState σ) (step : PlanStep) (stepRun : ExecutionStepRun)
    (result : StepExecutionResult) : RunState σ :=
  let recorded := recordStep step st .succeeded stepRun result
  { recorded with
    context := { recorded.context with
      stepOutputs := recorded.context.stepOutputs.set step.stepId result.outputs } }

/-- The executor of the step was called and left with this status, and everything its result
carries was persisted. -/
structure Finishes (executor : StepExecutor σ) (stepRun : ExecutionStepRun)
    (result : StepExecutionResult) : Prop where
  met : dependenciesSatisfied step st.stepStatus = true
  known : engine.registry.get step.kind = .ok executor
  finished : (finishCall engine executor step st).outcome = .ok (stepRun, result)

/-- Everything one turn of the loop can do. -/
inductive Turn : Flow (RunState σ) (Halt σ) → Prop where
  | skipped (unmet : dependenciesSatisfied step st.stepStatus = false) :
      Turn (.next (skipStep engine step st))
  | unknown (met : dependenciesSatisfied step st.stepStatus = true) (exc : PyExc)
      (missing : engine.registry.get step.kind = .error exc) : Turn (.exit (.raised exc st))
  | raised (met : dependenciesSatisfied step st.stepStatus = true) (executor : StepExecutor σ)
      (known : engine.registry.get step.kind = .ok executor) (exc : PyExc)
      (refused : (finishCall engine executor step st).outcome = .error exc) :
      Turn (.exit (.raised exc (afterCall engine executor step st)))
  | succeeded (executor : StepExecutor σ) (stepRun : ExecutionStepRun)
      (result : StepExecutionResult) (call : Finishes engine step st executor stepRun result)
      (success : result.status = .succeeded) :
      Turn (.next (succeededState (afterCall engine executor step st) step stepRun result))
  | continued (executor : StepExecutor σ) (stepRun : ExecutionStepRun)
      (result : StepExecutionResult) (call : Finishes engine step st executor stepRun result)
      (failure : result.status ≠ .succeeded) (policy : step.onFailure = .continue') :
      Turn (.next (recordStep step (afterCall engine executor step st) result.status stepRun
        result))
  | waiting (executor : StepExecutor σ) (stepRun : ExecutionStepRun)
      (result : StepExecutionResult) (call : Finishes engine step st executor stepRun result)
      (failure : result.status ≠ .succeeded) (policy : step.onFailure = .requestReplan)
      (request : ReplanRequest) (w : σ)
      (later : w = (engine.timeFunc (afterCall engine executor step st).world).2) :
      Turn (.exit (.stopped .waitingReplan
        s!"Execution waiting for replan after step {step.stepId}." (some request)
        { recordStep step (afterCall engine executor step st) .waitingReplan stepRun result with
          world := w }))
  | failed (executor : StepExecutor σ) (stepRun : ExecutionStepRun)
      (result : StepExecutionResult) (call : Finishes engine step st executor stepRun result)
      (failure : result.status ≠ .succeeded) (policy : step.onFailure ≠ .continue')
      (policy' : step.onFailure ≠ .requestReplan) (summary : String) :
      Turn (.exit (.stopped .failed summary none
        (recordStep step (afterCall engine executor step st) result.status stepRun result)))

theorem runStep_turn : Turn engine step st (runStep engine plan step st) := by
  unfold runStep
  by_cases met : dependenciesSatisfied step st.stepStatus = true
  · rw [if_pos met]
    cases known : engine.registry.get step.kind with
    | error exc => exact .unknown met exc known
    | ok executor =>
      dsimp only [callExecutor]
      cases finished : (finishCall engine executor step st).outcome with
      | error exc => exact .raised met executor known exc finished
      | ok pair =>
        obtain ⟨stepRun, result⟩ := pair
        have call : Finishes engine step st executor stepRun result := ⟨met, known, finished⟩
        dsimp only [settleStep]
        by_cases success : result.status = .succeeded
        · rw [if_pos success, success]
          exact .succeeded executor stepRun result call success
        · rw [if_neg success]
          by_cases cont : step.onFailure = .continue'
          · rw [if_pos cont]
            exact .continued executor stepRun result call success cont
          · rw [if_neg cont]
            by_cases replan : step.onFailure = .requestReplan
            · rw [if_pos replan]
              exact .waiting executor stepRun result call success replan _ _ rfl
            · rw [if_neg replan]
              exact .failed executor stepRun result call success cont replan _
  · rw [if_neg met]
    exact .skipped (Bool.not_eq_true _ ▸ met)

end Turn

section Run

variable (engine : ExecutionEngine σ) (plan : ExecutionPlan) (context : ExecutionContext σ)
  (w : σ)

/-- How `run` goes on once the loop was left early. -/
def leave : Halt σ → RunEnd σ
  | .stopped status summary replan st => conclude engine status summary replan st
  | .raised exc st => .raised exc st

/-- The invariant rule of the engine: an invariant of the loop holds when the loop completes,
and held before the turn that left it otherwise. -/
theorem run_rule (I : List PlanStep → RunState σ → Prop)
    (start : I [] (initialState engine plan context w))
    (turn : ∀ done step rest st st', plan.steps = done ++ step :: rest → I done st →
      Turn engine step st (.next st') → I (done ++ [step]) st') :
    (∃ st, I plan.steps st ∧ run engine plan context w =
      conclude engine .succeeded (succeededSummary st) none st) ∨
    (∃ done step rest st halt, plan.steps = done ++ step :: rest ∧ I done st ∧
      Turn engine step st (.exit halt) ∧ run engine plan context w = leave engine halt) := by
  have rule := loop_rule (runStep engine plan) I plan.steps (initialState engine plan context w)
    start (by
      intro done step rest st st' split inv next
      exact turn done step rest st st' split inv (next ▸ runStep_turn engine plan step st))
  unfold run
  cases hl : loop (runStep engine plan) plan.steps (initialState engine plan context w) with
  | next st =>
    rw [hl] at rule
    exact .inl ⟨st, rule, rfl⟩
  | exit halt =>
    rw [hl] at rule
    obtain ⟨done, step, rest, st, split, inv, left⟩ := rule
    refine .inr ⟨done, step, rest, st, halt, split, inv, ?_, ?_⟩
    · exact left ▸ runStep_turn engine plan step st
    · cases halt <;> rfl

end Run

section Trail

theorem exists_of_forall₂_left {α β : Type*} {R : α → β → Prop} {as : List α} {bs : List β}
    (h : List.Forall₂ R as bs) {a : α} (ha : a ∈ as) : ∃ b ∈ bs, R a b := by
  induction h with
  | nil => cases ha
  | cons first _ ih =>
    rcases List.mem_cons.mp ha with rfl | ha
    · exact ⟨_, List.mem_cons_self, first⟩
    · obtain ⟨b, hb, hr⟩ := ih ha
      exact ⟨b, List.mem_cons_of_mem _ hb, hr⟩

theorem exists_of_forall₂_right {α β : Type*} {R : α → β → Prop} {as : List α} {bs : List β}
    (h : List.Forall₂ R as bs) {b : β} (hb : b ∈ bs) : ∃ a ∈ as, R a b :=
  exists_of_forall₂_left (R := flip R) h.flip hb

/-- The event as the dependency vocabulary has it. -/
def view : StepEvent σ → Event PlanStep
  | .skipped step => .skipped step
  | .called step _ result => .called step (decide (result.status = .succeeded))

theorem view_item (e : StepEvent σ) : (view e).item = e.step := by
  cases e <;> rfl

theorem map_view_item (t : List (StepEvent σ)) :
    (t.map view).map Event.item = t.map StepEvent.step := by
  rw [List.map_map]
  exact List.map_congr_left (fun e _ => view_item e)

/-- The status a called step is left with: asking for a replan overwrites a failure. -/
def finalStatus (step : PlanStep) (result : StepExecutionResult) : ExecutionStepStatus :=
  if result.status ≠ .succeeded ∧ step.onFailure = .requestReplan then .waitingReplan
  else result.status

theorem finalStatus_succeeded_iff (step : PlanStep) (result : StepExecutionResult) :
    finalStatus step result = .succeeded ↔ result.status = .succeeded := by
  unfold finalStatus
  split
  · rename_i replan
    exact ⟨fun h => (by cases h), fun h => absurd h replan.1⟩
  · exact Iff.rfl

/-- The step run tells what happened to its step. -/
def Recorded : StepEvent σ → ExecutionStepRun → Prop
  | .skipped step, stepRun =>
    stepRun.stepId = step.stepId ∧ stepRun.stepKind = step.kind ∧ stepRun.status = .skipped
  | .called step _ result, stepRun =>
    stepRun.stepId = step.stepId ∧ stepRun.stepKind = step.kind ∧
      stepRun.status = finalStatus step result ∧ stepRun.outputs = result.outputs

theorem Recorded.stepId {e : StepEvent σ} {stepRun : ExecutionStepRun}
    (h : Recorded e stepRun) : stepRun.stepId = e.step.stepId := by
  cases e with
  | skipped step => exact h.1
  | called step context result => exact h.1

/-- The run goes on after this event. -/
def GoesOn : StepEvent σ → Prop
  | .skipped _ => True
  | .called step _ result => result.status = .succeeded ∨ step.onFailure = .continue'

/-- The event is a call under this id whose result was a success. -/
def SucceededUnder (id : String) : StepEvent σ → Prop
  | .skipped _ => False
  | .called step _ result => step.stepId = id ∧ result.status = .succeeded

/-- The result of a called step is what the executor registered for its kind gave. -/
def FromRegistry (engine : ExecutionEngine σ) : StepEvent σ → Prop
  | .skipped _ => True
  | .called step context result => ∃ executor w, engine.registry.get step.kind = .ok executor ∧
      result = Executed.result (executor.execute step context w)

/-- What holds of the loop's variables once the steps `done` are behind it. -/
structure Trail (engine : ExecutionEngine σ) (done : List PlanStep) (st : RunState σ) : Prop where
  steps : st.trace.map StepEvent.step = done
  faithful : Faithful PlanStep.stepId PlanStep.dependsOn (st.trace.map view)
  status : ∀ k, st.stepStatus.get k = some .succeeded ↔
    lastOutcome PlanStep.stepId (st.trace.map view) k = some true
  goesOn : ∀ e ∈ st.trace, GoesOn e
  registered : ∀ e ∈ st.trace, FromRegistry engine e
  recorded : List.Forall₂ Recorded st.trace st.run.stepRuns
  clean : ∀ entry ∈ st.persists, ¬ Refused entry

variable {engine : ExecutionEngine σ} {step : PlanStep} {done : List PlanStep}
  {st : RunState σ}

theorem trail_start (plan : ExecutionPlan) (context : ExecutionContext σ) (w : σ) :
    Trail engine [] (initialState engine plan context w) where
  steps := rfl
  faithful := faithful_nil PlanStep.stepId PlanStep.dependsOn
  status k := by simp [initialState, lastOutcome]
  goesOn := by simp [initialState]
  registered := by simp [initialState]
  recorded := .nil
  clean := by simp [initialState]

/-- The engine's dependency check is readiness in the trace. -/
theorem Trail.satisfied_iff (trail : Trail engine done st) :
    dependenciesSatisfied step st.stepStatus = true ↔
      Ready PlanStep.stepId PlanStep.dependsOn (st.trace.map view) step := by
  simp only [dependenciesSatisfied, List.all_eq_true, decide_eq_true_eq, Ready]
  exact forall₂_congr (fun dep _ => trail.status dep)

/-- A called step's event, as `afterCall` appends it. -/
def callEvent (engine : ExecutionEngine σ) (executor : StepExecutor σ) (step : PlanStep)
    (st : RunState σ) : StepEvent σ :=
  .called step st.context (Executed.result (executeStep engine executor step st))

theorem Trail.faithful_call (trail : Trail engine done st)
    (met : dependenciesSatisfied step st.stepStatus = true) (executor : StepExecutor σ) :
    Faithful PlanStep.stepId PlanStep.dependsOn
      ((st.trace ++ [callEvent engine executor step st]).map view) := by
  rw [List.map_append]
  refine trail.faithful.append_singleton _ _ ?_
  exact ⟨fun _ => trail.satisfied_iff.mp met, fun _ => rfl⟩

theorem Trail.registered_call (trail : Trail engine done st) {executor : StepExecutor σ}
    (known : engine.registry.get step.kind = .ok executor) :
    ∀ e ∈ st.trace ++ [callEvent engine executor step st], FromRegistry engine e := by
  intro e he
  rcases List.mem_append.mp he with he | he
  · exact trail.registered e he
  · rw [List.mem_singleton.mp he]
    exact ⟨executor, _, known, rfl⟩

variable {executor : StepExecutor σ} {stepRun : ExecutionStepRun} {result : StepExecutionResult}

/-- The step run and the result the engine holds once a call is finished. -/
theorem Finishes.spec (call : Finishes engine step st executor stepRun result) :
    FinishSpec (startStepRun engine step st.run st.world).1
      (Executed.result (executeStep engine executor step st)) (stepRun, result) :=
  finishStepRun_spec engine _ _ _ _ call.finished

theorem Finishes.recorded (call : Finishes engine step st executor stepRun result)
    {status : ExecutionStepStatus} (hs : status = finalStatus step result) :
    Recorded (callEvent engine executor step st) { stepRun with status := status } := by
  have spec := call.spec
  have same : result.status = (Executed.result (executeStep engine executor step st)).status :=
    spec.status
  refine ⟨spec.stepId, spec.stepKind, ?_, spec.runOutputs⟩
  rw [finalStatus, same] at hs
  exact hs

theorem Trail.steps_call (trail : Trail engine done st) (executor : StepExecutor σ) :
    (st.trace ++ [callEvent engine executor step st]).map StepEvent.step = done ++ [step] := by
  rw [List.map_append, trail.steps]
  rfl

theorem Trail.recorded_call (trail : Trail engine done st)
    (call : Finishes engine step st executor stepRun result) {status : ExecutionStepStatus}
    (hs : status = finalStatus step result) :
    List.Forall₂ Recorded (st.trace ++ [callEvent engine executor step st])
      (st.run.stepRuns ++ [{ stepRun with status := status }]) :=
  List.rel_append trail.recorded (.cons (call.recorded hs) .nil)

theorem Trail.clean_call (trail : Trail engine done st)
    (call : Finishes engine step st executor stepRun result) :
    ∀ entry ∈ (afterCall engine executor step st).persists, ¬ Refused entry := by
  intro entry he
  rcases List.mem_append.mp he with he | he
  · exact trail.clean entry he
  · exact (finishStepRun_ok_iff engine _ _ _ _).mp ⟨_, call.finished⟩ entry he

theorem Trail.status_turn (trail : Trail engine done st) {e : StepEvent σ}
    (he : e.step = step) {status : ExecutionStepStatus}
    (hs : status = .succeeded ↔ (view e).succeeded = true) (k : String) :
    (st.stepStatus.set step.stepId status).get k = some .succeeded ↔
      lastOutcome PlanStep.stepId ((st.trace ++ [e]).map view) k = some true := by
  rw [List.map_append, List.map_singleton, lastOutcome_append_singleton, view_item, he,
    PyDict.get_set]
  by_cases hk : step.stepId = k
  · rw [if_pos hk, if_pos hk, Option.some.injEq, Option.some.injEq, hs]
  · rw [if_neg hk, if_neg hk]
    exact trail.status k

theorem Trail.forall_turn {P : StepEvent σ → Prop} {t : List (StepEvent σ)} {e : StepEvent σ}
    (old : ∀ e ∈ t, P e) (new : P e) : ∀ e' ∈ t ++ [e], P e' := by
  intro e' he'
  rcases List.mem_append.mp he' with he' | he'
  · exact old e' he'
  · exact List.mem_singleton.mp he' ▸ new

private theorem Trail.next_call (trail : Trail engine done st)
    (call : Finishes engine step st executor stepRun result) {status : ExecutionStepStatus}
    (hs : status = result.status)
    (goes : result.status = .succeeded ∨ step.onFailure = .continue') :
    Trail engine (done ++ [step])
      (recordStep step (afterCall engine executor step st) status stepRun result) where
  steps := trail.steps_call executor
  faithful := trail.faithful_call call.met executor
  status := by
    refine trail.status_turn (e := callEvent engine executor step st) rfl ?_
    have same := call.spec.status
    simp only [callEvent, view, Event.succeeded, decide_eq_true_eq, ← same, hs]
  goesOn := Trail.forall_turn trail.goesOn (by
    have same := call.spec.status
    simp only [GoesOn, ← same]
    exact goes)
  registered := trail.registered_call call.known
  recorded := by
    refine trail.recorded_call call ?_
    rw [finalStatus, if_neg, hs]
    rintro ⟨failure, replan⟩
    rcases goes with success | cont
    · exact failure success
    · rw [cont] at replan
      cases replan
  clean := trail.clean_call call

theorem trail_turn {st' : RunState σ} (trail : Trail engine done st)
    (turn : Turn engine step st (.next st')) : Trail engine (done ++ [step]) st' := by
  cases turn with
  | skipped unmet =>
    refine ⟨?_, ?_, ?_, Trail.forall_turn trail.goesOn trivial,
      Trail.forall_turn trail.registered trivial, ?_, trail.clean⟩
    · change (st.trace ++ [StepEvent.skipped step]).map StepEvent.step = _
      rw [List.map_append, trail.steps]
      rfl
    · change Faithful _ _ ((st.trace ++ [StepEvent.skipped step]).map view)
      rw [List.map_append]
      refine trail.faithful.append_singleton _ _ ⟨?_, fun ready => ?_⟩
      · intro called
        cases called
      · have met := trail.satisfied_iff.mpr ready
        rw [view_item] at met
        cases met.symm.trans unmet
    · exact trail.status_turn (e := .skipped step) rfl (by simp [view, Event.succeeded])
    · exact List.rel_append trail.recorded (.cons ⟨rfl, rfl, rfl⟩ .nil)
  | succeeded executor stepRun result call success =>
    have next := trail.next_call call success.symm (.inl success)
    exact ⟨next.steps, next.faithful, next.status, next.goesOn, next.registered, next.recorded,
      next.clean⟩
  | continued executor stepRun result call failure policy =>
    exact trail.next_call call rfl (.inr policy)

end Trail

section Outline

/-- The shape of a run's trace, however the run ends. -/
structure Outline (engine : ExecutionEngine σ) (plan : ExecutionPlan) (t : List (StepEvent σ)) :
    Prop where
  steps : t.map StepEvent.step <+: plan.steps
  faithful : Faithful PlanStep.stepId PlanStep.dependsOn (t.map view)
  goesOn : ∀ before e after, t = before ++ e :: after → after ≠ [] → GoesOn e
  registered : ∀ e ∈ t, FromRegistry engine e

theorem conclude_trace (engine : ExecutionEngine σ) (status : ExecutionRunStatus)
    (summary : String) (replan : Option ReplanRequest) (st : RunState σ) :
    (conclude engine status summary replan st).state.trace = st.trace := by
  simp only [conclude]
  split <;> rfl

/-- Whatever the engine itself persisted was taken, and its summary could be written down. -/
structure Preserved (engine : ExecutionEngine σ) (st : RunState σ) : Prop where
  clean : ∀ entry ∈ st.persists, ¬ Refused entry
  dumped : ∃ text, engine.dumpSummary st.run st.stepResults = .ok text

/-- What a run hands back when it returns. -/
structure Concluded (status : ExecutionRunStatus) (replan : Option ReplanRequest)
    (st : RunState σ) (result : ExecutionRunResult) (st' : RunState σ) : Prop where
  stepRuns : result.run.stepRuns = st.run.stepRuns
  runStatus : result.run.status = status
  status : result.status = status
  stepResults : result.stepResults = st.stepResults
  replan : result.replanRequest = replan
  trace : st'.trace = st.trace
  stepOutputs : st'.context.stepOutputs = st.context.stepOutputs

section Conclude

variable {engine : ExecutionEngine σ} {status : ExecutionRunStatus} {summary : String}
  {replan : Option ReplanRequest} {st st' : RunState σ}

private theorem finishArtifactRecording_refsOnly (run : ExecutionRun)
    (stepResults : PyDict String StepExecutionResult) (context : ExecutionContext σ) (w : σ) :
    RefsOnly context (finishArtifactRecording engine run stepResults context w).context := by
  unfold finishArtifactRecording
  split
  · exact .refl context
  · exact (persistText_spec context _ _ _ _ w).refsOnly

private theorem finishArtifactRecording_ok_iff (engine : ExecutionEngine σ) (run : ExecutionRun)
    (stepResults : PyDict String StepExecutionResult) (context : ExecutionContext σ) (w : σ) :
    (∃ ref, (finishArtifactRecording engine run stepResults context w).outcome = .ok ref) ↔
      (∀ entry ∈ (finishArtifactRecording engine run stepResults context w).calls,
        ¬ Refused entry) ∧ ∃ text, engine.dumpSummary run stepResults = .ok text := by
  unfold finishArtifactRecording
  cases dumped : engine.dumpSummary run stepResults with
  | error exc => simp
  | ok payload =>
    simp only [Except.ok.injEq, exists_eq', and_true]
    exact (persistText_spec context _ _ _ _ w).ok_iff

theorem concluded_of_returned {result : ExecutionRunResult}
    (h : conclude engine status summary replan st = .returned result st') :
    Concluded status replan st result st' := by
  simp only [conclude] at h
  split at h
  · cases h
  · cases h
    exact ⟨rfl, rfl, rfl, rfl, rfl, rfl, (finishArtifactRecording_refsOnly _ _ _ _).stepOutputs⟩

/-- When nothing was refused so far, the closing lines return exactly when nothing is refused
at all and the summary can be written down. -/
theorem conclude_returned_iff (engine : ExecutionEngine σ) (status : ExecutionRunStatus)
    (summary : String) (replan : Option ReplanRequest)
    (before : ∀ entry ∈ st.persists, ¬ Refused entry) :
    (∃ result st', conclude engine status summary replan st = .returned result st') ↔
      Preserved engine (conclude engine status summary replan st).state := by
  have saved := finishArtifactRecording_ok_iff engine
    { st.run with status := status, finishedAt := some (engine.timeFunc st.world).1
                  resultSummary := some summary } st.stepResults st.context
    (engine.timeFunc st.world).2
  simp only [conclude]
  split
  · rename_i exc raised
    constructor
    · rintro ⟨result, st', returned⟩
      cases returned
    · rintro ⟨clean, dumped⟩
      obtain ⟨ref, ok⟩ := saved.mpr
        ⟨fun entry he => clean entry (List.mem_append_right _ he), dumped⟩
      cases raised.symm.trans ok
  · rename_i ref ok
    obtain ⟨clean, dumped⟩ := saved.mp ⟨ref, ok⟩
    refine ⟨fun _ => ⟨fun entry he => ?_, dumped⟩, fun _ => ⟨_, _, rfl⟩⟩
    rcases List.mem_append.mp he with he | he
    · exact before entry he
    · exact clean entry he

end Conclude

variable {engine : ExecutionEngine σ} {plan : ExecutionPlan} {step : PlanStep}
  {done rest : List PlanStep} {st : RunState σ}

private theorem Trail.outline (trail : Trail engine done st) (split : plan.steps = done ++ rest) :
    Outline engine plan st.trace where
  steps := ⟨rest, by rw [trail.steps, split]⟩
  faithful := trail.faithful
  goesOn before e after ht _ := trail.goesOn e (by simp [ht])
  registered := trail.registered

private theorem Trail.outline_call (trail : Trail engine done st)
    (split : plan.steps = done ++ step :: rest)
    (met : dependenciesSatisfied step st.stepStatus = true) {executor : StepExecutor σ}
    (known : engine.registry.get step.kind = .ok executor) :
    Outline engine plan (afterCall engine executor step st).trace where
  steps := by
    refine ⟨rest, ?_⟩
    change (st.trace ++ [callEvent engine executor step st]).map StepEvent.step ++ rest = _
    rw [trail.steps_call, split, List.append_assoc]
    rfl
  faithful := trail.faithful_call met executor
  goesOn before e after ht more := by
    refine trail.goesOn e ?_
    change st.trace ++ [callEvent engine executor step st] = before ++ e :: after at ht
    obtain ⟨front, last, rfl⟩ := List.eq_nil_or_concat after |>.resolve_left more
    rw [List.concat_eq_append, ← List.cons_append, ← List.append_assoc] at ht
    have same := List.append_inj_left' ht rfl
    simp [same]
  registered := trail.registered_call known

/-- Every run has this outline, whether it returns or an exception leaves it. -/
theorem run_outline (engine : ExecutionEngine σ) (plan : ExecutionPlan)
    (context : ExecutionContext σ) (w : σ) :
    Outline engine plan (run engine plan context w).state.trace := by
  rcases run_rule engine plan context w (Trail engine) (trail_start plan context w)
    (fun done step rest st st' _ trail turn => trail_turn trail turn) with
    ⟨st, trail, ended⟩ | ⟨done, step, rest, st, halt, split, trail, turn, ended⟩
  · rw [ended, conclude_trace]
    exact trail.outline (List.append_nil plan.steps).symm
  · rw [ended]
    cases turn with
    | unknown met exc missing => exact trail.outline split
    | raised met executor known exc refused => exact trail.outline_call split met known
    | waiting executor stepRun result call failure policy request w' later =>
      dsimp only [leave]
      rw [conclude_trace]
      exact trail.outline_call split call.met call.known
    | failed executor stepRun result call failure policy policy' summary =>
      dsimp only [leave]
      rw [conclude_trace]
      exact trail.outline_call split call.met call.known

end Outline

end SthBoring.Execution.RunInvariant
