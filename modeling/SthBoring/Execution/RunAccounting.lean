/- Module: SthBoring/Execution/RunAccounting
   source: sdk_test_agent/execution/execution_engine.py
   digest: The five records of a run tell the same story. -/

import SthBoring.Execution.RunInvariant

set_option autoImplicit false
set_option relaxedAutoImplicit false

namespace SthBoring.Execution.RunAccounting

universe u

open SthBoring.Lib.OrderedDict (PyDict)
open SthBoring.Lib.PyValue (Fields PyExc)
open SthBoring.Plan.Models (PlanStep ExecutionPlan ReplanRequest StepFailurePolicy)
open SthBoring.Execution.Models
open SthBoring.Execution.Engine
open SthBoring.Execution.RunInvariant

variable {σ : Type u}

/-- No registered executor touches `context.step_outputs`. -/
def KeepsOutputs (engine : ExecutionEngine σ) : Prop :=
  ∀ kind executor, engine.registry.get kind = .ok executor → ∀ step context w,
    (executor.execute step context w).context.stepOutputs = context.stepOutputs

section Ledger

def isCalled : StepEvent σ → Bool
  | .skipped _ => false
  | .called _ _ _ => true

/-- The entry of `step_results` that a called step leaves. -/
def Kept : StepEvent σ → String × StepExecutionResult → Prop
  | .skipped _, _ => False
  | .called step _ result, entry =>
    entry.1 = step.stepId ∧ entry.2.status = finalStatus step result ∧
      entry.2.outputs = result.outputs ∧ entry.2.errorType = result.errorType ∧
      entry.2.errorMessage = result.errorMessage

/-- What one event does to `context.step_outputs`. -/
def addOutputs (outputs : PyDict String Fields) : StepEvent σ → PyDict String Fields
  | .skipped _ => outputs
  | .called step _ result =>
    if result.status = .succeeded then outputs.set step.stepId result.outputs else outputs

/-- The outputs after a trace, over those the context came with. -/
def recordedOutputs (start : PyDict String Fields) (t : List (StepEvent σ)) :
    PyDict String Fields :=
  t.foldl addOutputs start

theorem recordedOutputs_append_singleton (start : PyDict String Fields)
    (t : List (StepEvent σ)) (e : StepEvent σ) :
    recordedOutputs start (t ++ [e]) = addOutputs (recordedOutputs start t) e := by
  rw [recordedOutputs, recordedOutputs, List.foldl_append]
  rfl

/-- The two dicts of a run agree with its trace. -/
structure Ledger (start : PyDict String Fields) (st : RunState σ) : Prop where
  results : List.Forall₂ Kept (st.trace.filter isCalled) st.stepResults.entries
  outputs : st.context.stepOutputs = recordedOutputs start st.trace

variable {engine : ExecutionEngine σ} {step : PlanStep} {st : RunState σ}
  {start : PyDict String Fields} {executor : StepExecutor σ} {stepRun : ExecutionStepRun}
  {result : StepExecutionResult}

theorem ledger_start (plan : ExecutionPlan) (context : ExecutionContext σ) (w : σ) :
    Ledger context.stepOutputs (initialState engine plan context w) :=
  ⟨.nil, rfl⟩

theorem Kept.key {e : StepEvent σ} {entry : String × StepExecutionResult}
    (kept : Kept e entry) : entry.1 = e.step.stepId := by
  cases e with
  | skipped step => exact absurd kept id
  | called step given result => exact kept.1

private theorem keys_of_kept {t : List (StepEvent σ)} {entries : List (String × StepExecutionResult)}
    (h : List.Forall₂ Kept t entries) :
    entries.map Prod.fst = t.map (fun e => e.step.stepId) := by
  induction h with
  | nil => rfl
  | cons kept _ ih => rw [List.map_cons, List.map_cons, ih, kept.key]

/-- The steps with a result are the called ones. -/
theorem Ledger.keys (ledger : Ledger start st) :
    st.stepResults.keys = (st.trace.filter isCalled).map (fun e => e.step.stepId) :=
  keys_of_kept ledger.results

theorem Ledger.fresh (ledger : Ledger start st)
    (new : step.stepId ∉ st.trace.map (fun e => e.step.stepId)) :
    step.stepId ∉ st.stepResults.keys := by
  rw [ledger.keys]
  intro mem
  obtain ⟨e, he, hk⟩ := List.mem_map.mp mem
  exact new (List.mem_map.mpr ⟨e, (List.mem_filter.mp he).1, hk⟩)

theorem Ledger.results_call (ledger : Ledger start st)
    (new : step.stepId ∉ st.trace.map (fun e => e.step.stepId))
    (call : Finishes engine step st executor stepRun result) {status : ExecutionStepStatus}
    (hs : status = finalStatus step result) :
    List.Forall₂ Kept ((st.trace ++ [callEvent engine executor step st]).filter isCalled)
      (st.stepResults.set step.stepId { result with status := status }).entries := by
  have spec := call.spec
  rw [PyDict.entries_set_of_notMem _ _ (ledger.fresh new), List.filter_append]
  refine List.rel_append ledger.results (.cons ?_ .nil)
  refine ⟨rfl, ?_, spec.outputs, spec.errorType, spec.errorMessage⟩
  have same : result.status = (Executed.result (executeStep engine executor step st)).status :=
    spec.status
  rw [finalStatus, same] at hs
  exact hs

/-- Calling an executor and persisting its texts leaves the outputs as they were. -/
theorem Ledger.outputs_afterCall (keeps : KeepsOutputs engine) (ledger : Ledger start st)
    (known : engine.registry.get step.kind = .ok executor) :
    (afterCall engine executor step st).context.stepOutputs = recordedOutputs start st.trace := by
  have refs := finishStepRun_refsOnly engine (startStepRun engine step st.run st.world).1
    (Executed.result (executeStep engine executor step st))
    (executeStep engine executor step st).context (executeStep engine executor step st).world
  calc (afterCall engine executor step st).context.stepOutputs
      = (executeStep engine executor step st).context.stepOutputs := refs.stepOutputs
    _ = st.context.stepOutputs := keeps step.kind executor known _ _ _
    _ = recordedOutputs start st.trace := ledger.outputs

theorem addOutputs_call (call : Finishes engine step st executor stepRun result)
    (outputs : PyDict String Fields) :
    addOutputs outputs (callEvent engine executor step st) =
      if result.status = .succeeded then outputs.set step.stepId result.outputs else outputs := by
  have spec := call.spec
  have hs : result.status = (Executed.result (executeStep engine executor step st)).status :=
    spec.status
  have ho : result.outputs = (Executed.result (executeStep engine executor step st)).outputs :=
    spec.outputs
  rw [hs, ho]
  rfl

/-- A call without success leaves its result and no outputs. -/
theorem Ledger.failure (keeps : KeepsOutputs engine) (ledger : Ledger start st)
    (new : step.stepId ∉ st.trace.map (fun e => e.step.stepId))
    (call : Finishes engine step st executor stepRun result)
    (failure : result.status ≠ .succeeded) {status : ExecutionStepStatus}
    (hs : status = finalStatus step result) :
    Ledger start (recordStep step (afterCall engine executor step st) status stepRun result) where
  results := ledger.results_call new call hs
  outputs := by
    have kept := ledger.outputs_afterCall keeps call.known
    change _ = recordedOutputs start (st.trace ++ [callEvent engine executor step st])
    rw [recordedOutputs_append_singleton, addOutputs_call call, if_neg failure]
    exact kept

theorem ledger_turn {st' : RunState σ} (keeps : KeepsOutputs engine) (ledger : Ledger start st)
    (new : step.stepId ∉ st.trace.map (fun e => e.step.stepId))
    (turn : Turn engine step st (.next st')) : Ledger start st' := by
  cases turn with
  | skipped unmet =>
    refine ⟨?_, ?_⟩
    · change List.Forall₂ Kept ((st.trace ++ [StepEvent.skipped step]).filter isCalled)
        st.stepResults.entries
      rw [List.filter_append]
      simpa [isCalled] using ledger.results
    · change _ = recordedOutputs start (st.trace ++ [StepEvent.skipped step])
      rw [recordedOutputs_append_singleton]
      exact ledger.outputs
  | succeeded executor stepRun result call success =>
    have hs : ExecutionStepStatus.succeeded = finalStatus step result := by
      rw [finalStatus, if_neg (fun h => h.1 success), success]
    refine ⟨ledger.results_call new call hs, ?_⟩
    have kept := ledger.outputs_afterCall keeps call.known
    change ((afterCall engine executor step st).context.stepOutputs).set step.stepId
      result.outputs = recordedOutputs start (st.trace ++ [callEvent engine executor step st])
    rw [recordedOutputs_append_singleton, addOutputs_call call, if_pos success, kept]
  | continued executor stepRun result call failure policy =>
    refine ledger.failure keeps new call failure ?_
    rw [finalStatus, if_neg]
    rintro ⟨_, replan⟩
    cases policy.symm.trans replan

end Ledger

section Outputs

theorem get_recordedOutputs_of_none {start : PyDict String Fields} {t : List (StepEvent σ)}
    {id : String} (none : ∀ e ∈ t, ¬ SucceededUnder id e) :
    (recordedOutputs start t).get id = start.get id := by
  induction t using List.reverseRecOn with
  | nil => rfl
  | append_singleton t e ih =>
    have before := ih (fun e' he' => none e' (List.mem_append_left [e] he'))
    have here := none e (by simp)
    rw [recordedOutputs_append_singleton]
    cases e with
    | skipped step => exact before
    | called step given result =>
      simp only [addOutputs]
      by_cases success : result.status = .succeeded
      · have other : step.stepId ≠ id := fun h => here ⟨h, success⟩
        rw [if_pos success, PyDict.get_set_of_ne _ _ other, before]
      · rw [if_neg success, before]

/-- With distinct ids nothing overwrites the outputs of a success. -/
theorem get_recordedOutputs_of_called {start : PyDict String Fields} {t : List (StepEvent σ)}
    (distinct : (t.map (fun e => e.step.stepId)).Nodup) {step : PlanStep}
    {given : ExecutionContext σ} {result : StepExecutionResult}
    (mem : .called step given result ∈ t) (success : result.status = .succeeded) :
    (recordedOutputs start t).get step.stepId = some result.outputs := by
  induction t using List.reverseRecOn with
  | nil => cases mem
  | append_singleton t e ih =>
    rw [List.map_append, List.map_singleton, List.nodup_append] at distinct
    rw [recordedOutputs_append_singleton]
    rcases List.mem_append.mp mem with old | last
    · have before := ih distinct.1 old
      have other : e.step.stepId ≠ step.stepId := by
        intro same
        exact distinct.2.2 step.stepId (List.mem_map.mpr ⟨_, old, rfl⟩) e.step.stepId
          (List.mem_singleton.mpr rfl) same.symm
      cases e with
      | skipped step' => exact before
      | called step' given' result' =>
        simp only [addOutputs]
        split
        · exact (PyDict.get_set_of_ne _ _ other).trans before
        · exact before
    · rw [← List.mem_singleton.mp last]
      simp only [addOutputs]
      rw [if_pos success, PyDict.get_set_self]

end Outputs

section Accounting

/-- The last step run belongs to a step of the plan whose executor ran without success, under
such a policy. -/
def LastFailed (plan : ExecutionPlan) (result : ExecutionRunResult)
    (policy : StepFailurePolicy → Prop) : Prop :=
  ∃ stepRun step, result.run.stepRuns.getLast? = some stepRun ∧ step ∈ plan.steps ∧
    step.stepId = stepRun.stepId ∧ step.stepId ∈ result.stepResults.keys ∧
    stepRun.status ≠ .succeeded ∧ policy step.onFailure

/-- The last executor call was one without success, under such a policy. -/
def EndsFailed (t : List (StepEvent σ)) (policy : StepFailurePolicy → Prop) : Prop :=
  ∃ before step given res, t = before ++ [.called step given res] ∧ res.status ≠ .succeeded ∧
    policy step.onFailure

/-- How the records of a returned run agree. The state holds the trace of the executor calls
and the context the caller is left with. -/
structure RunAccounts (plan : ExecutionPlan) (context : ExecutionContext σ)
    (result : ExecutionRunResult) (st : RunState σ) : Prop where
  inPlanOrder : result.run.stepRuns.map ExecutionStepRun.stepId <+:
    plan.steps.map PlanStep.stepId
  runStatus : result.run.status = result.status
  terminal : result.status = .succeeded ∨ result.status = .failed ∨ result.status = .waitingReplan
  whole : result.status = .succeeded →
    result.run.stepRuns.map ExecutionStepRun.stepId = plan.steps.map PlanStep.stepId
  failed_iff : result.status = .failed ↔
    LastFailed plan result (fun p => p ≠ .continue' ∧ p ≠ .requestReplan)
  waiting_iff : result.status = .waitingReplan ↔
    LastFailed plan result (fun p => p = .requestReplan)
  replan_iff : result.replanRequest.isSome = true ↔ result.status = .waitingReplan
  ran_iff : ∀ id, id ∈ result.stepResults.keys ↔
    ∃ step given res, .called step given res ∈ st.trace ∧ step.stepId = id
  resultStatus : ∀ stepRun ∈ result.run.stepRuns, ∀ res,
    result.stepResults.get stepRun.stepId = some res → res.status = stepRun.status
  outputs : ∀ stepRun ∈ result.run.stepRuns, stepRun.status = .succeeded →
    st.context.stepOutputs.get stepRun.stepId = some stepRun.outputs
  otherOutputs : ∀ id,
    (∀ stepRun ∈ result.run.stepRuns, stepRun.stepId = id → stepRun.status ≠ .succeeded) →
    st.context.stepOutputs.get id = context.stepOutputs.get id

/-- The records as the loop leaves them, whichever way it is left. -/
structure Settled (plan : ExecutionPlan) (start : PyDict String Fields) (st : RunState σ) :
    Prop where
  steps : st.trace.map StepEvent.step <+: plan.steps
  recorded : List.Forall₂ Recorded st.trace st.run.stepRuns
  ledger : Ledger start st

variable {plan : ExecutionPlan} {start : PyDict String Fields} {st : RunState σ}

theorem Settled.inPlanOrder (settled : Settled plan start st) :
    st.run.stepRuns.map ExecutionStepRun.stepId = st.trace.map (fun e => e.step.stepId) := by
  have recorded := settled.recorded
  generalize st.trace = t at recorded
  generalize st.run.stepRuns = stepRuns at recorded
  induction recorded with
  | nil => rfl
  | cons here _ ih => rw [List.map_cons, List.map_cons, ih, here.stepId]

theorem Settled.ids (settled : Settled plan start st) :
    st.trace.map (fun e => e.step.stepId) <+: plan.steps.map PlanStep.stepId := by
  have ids := settled.steps.map PlanStep.stepId
  rwa [List.map_map] at ids

theorem Settled.distinct (settled : Settled plan start st)
    (distinct : (plan.steps.map PlanStep.stepId).Nodup) :
    (st.trace.map (fun e => e.step.stepId)).Nodup :=
  distinct.sublist settled.ids.sublist

theorem Settled.ran_iff (settled : Settled plan start st) (id : String) :
    id ∈ st.stepResults.keys ↔
      ∃ step given res, .called step given res ∈ st.trace ∧ step.stepId = id := by
  rw [settled.ledger.keys, List.mem_map]
  constructor
  · rintro ⟨e, he, hid⟩
    obtain ⟨mem, called⟩ := List.mem_filter.mp he
    cases e with
    | skipped step => cases called
    | called step given res => exact ⟨step, given, res, mem, hid⟩
  · rintro ⟨step, given, res, mem, hid⟩
    exact ⟨_, List.mem_filter.mpr ⟨mem, rfl⟩, hid⟩

/-- With distinct ids, a step run under the id of a called step is the record of that call. -/
theorem Settled.event_of_ran (settled : Settled plan start st)
    (distinct : (plan.steps.map PlanStep.stepId).Nodup) {e : StepEvent σ} (he : e ∈ st.trace)
    (ran : e.step.stepId ∈ st.stepResults.keys) :
    ∃ step given res, e = .called step given res := by
  obtain ⟨step, given, res, mem, hid⟩ := (settled.ran_iff _).mp ran
  have same := List.inj_on_of_nodup_map (settled.distinct distinct) mem he hid
  exact ⟨step, given, res, same.symm⟩

theorem Settled.last (settled : Settled plan start st) {before : List (StepEvent σ)}
    {e : StepEvent σ} (ht : st.trace = before ++ [e]) :
    ∃ stepRun, st.run.stepRuns.getLast? = some stepRun ∧ Recorded e stepRun := by
  have reversed := List.forall₂_reverse_iff.mpr settled.recorded
  rw [ht, List.reverse_append, List.reverse_singleton, List.singleton_append,
    List.forall₂_cons_left_iff] at reversed
  obtain ⟨stepRun, rest, here, _, hr⟩ := reversed
  refine ⟨stepRun, ?_, here⟩
  rw [List.getLast?_eq_head?_reverse, hr]
  rfl

theorem Settled.event_of_last (settled : Settled plan start st) {stepRun : ExecutionStepRun}
    (hl : st.run.stepRuns.getLast? = some stepRun) :
    ∃ before e, st.trace = before ++ [e] ∧ Recorded e stepRun := by
  rcases List.eq_nil_or_concat st.trace with ht | ⟨before, e, ht⟩
  · have none := settled.recorded
    rw [ht, List.forall₂_nil_left_iff] at none
    rw [none] at hl
    cases hl
  · rw [List.concat_eq_append] at ht
    obtain ⟨stepRun', hl', here⟩ := settled.last ht
    obtain rfl : stepRun' = stepRun := Option.some.inj (hl'.symm.trans hl)
    exact ⟨before, e, ht, here⟩

/-- The last step run failed under a policy exactly when the trace ends in such a call. -/
theorem Settled.lastFailed_iff (settled : Settled plan start st)
    (distinct : (plan.steps.map PlanStep.stepId).Nodup) {result : ExecutionRunResult}
    (hruns : result.run.stepRuns = st.run.stepRuns)
    (hresults : result.stepResults = st.stepResults) (policy : StepFailurePolicy → Prop) :
    LastFailed plan result policy ↔ EndsFailed st.trace policy := by
  unfold LastFailed EndsFailed
  rw [hruns, hresults]
  constructor
  · rintro ⟨stepRun, step, hl, inPlan, hid, ran, failure, hp⟩
    obtain ⟨before, e, ht, here⟩ := settled.event_of_last hl
    have he : e ∈ st.trace := by simp [ht]
    have sameId : e.step.stepId = step.stepId := here.stepId ▸ hid.symm
    obtain ⟨step', given, res, rfl⟩ := settled.event_of_ran distinct he (sameId ▸ ran)
    have inPlan' : step' ∈ plan.steps :=
      settled.steps.subset (List.mem_map.mpr ⟨_, he, rfl⟩)
    obtain rfl : step' = step := List.inj_on_of_nodup_map distinct inPlan' inPlan sameId
    refine ⟨before, step', given, res, ht, fun success => failure ?_, hp⟩
    rw [here.2.2.1, finalStatus_succeeded_iff]
    exact success
  · rintro ⟨before, step, given, res, ht, failure, hp⟩
    have he : StepEvent.called step given res ∈ st.trace := by simp [ht]
    obtain ⟨stepRun, hl, here⟩ := settled.last ht
    refine ⟨stepRun, step, hl, ?_, here.1.symm, ?_, fun success => failure ?_, hp⟩
    · exact settled.steps.subset (List.mem_map.mpr ⟨_, he, rfl⟩)
    · exact (settled.ran_iff _).mpr ⟨step, given, res, he, rfl⟩
    · rw [here.2.2.1, finalStatus_succeeded_iff] at success
      exact success

theorem Settled.resultStatus (settled : Settled plan start st)
    (distinct : (plan.steps.map PlanStep.stepId).Nodup) {stepRun : ExecutionStepRun}
    (hr : stepRun ∈ st.run.stepRuns) {res : StepExecutionResult}
    (hres : st.stepResults.get stepRun.stepId = some res) : res.status = stepRun.status := by
  obtain ⟨e, he, here⟩ := exists_of_forall₂_right settled.recorded hr
  obtain ⟨e', he', kept⟩ := exists_of_forall₂_right settled.ledger.results
    (SthBoring.Lib.OrderedDict.mem_of_assocGet hres)
  have sameId : e'.step.stepId = e.step.stepId := kept.key.symm.trans here.stepId
  obtain rfl := List.inj_on_of_nodup_map (settled.distinct distinct)
    (List.mem_filter.mp he').1 he sameId
  cases e' with
  | skipped step => exact absurd kept id
  | called step given result => exact kept.2.1.trans here.2.2.1.symm

theorem Settled.outputs (settled : Settled plan start st)
    (distinct : (plan.steps.map PlanStep.stepId).Nodup) {stepRun : ExecutionStepRun}
    (hr : stepRun ∈ st.run.stepRuns) (success : stepRun.status = .succeeded) :
    st.context.stepOutputs.get stepRun.stepId = some stepRun.outputs := by
  obtain ⟨e, he, here⟩ := exists_of_forall₂_right settled.recorded hr
  cases e with
  | skipped step => cases here.2.2.symm.trans success
  | called step given result =>
    have ok := (finalStatus_succeeded_iff step result).mp (here.2.2.1 ▸ success)
    rw [settled.ledger.outputs, here.1, here.2.2.2]
    exact get_recordedOutputs_of_called (settled.distinct distinct) he ok

theorem Settled.otherOutputs (settled : Settled plan start st) {id : String}
    (none : ∀ stepRun ∈ st.run.stepRuns, stepRun.stepId = id → stepRun.status ≠ .succeeded) :
    st.context.stepOutputs.get id = start.get id := by
  rw [settled.ledger.outputs]
  refine get_recordedOutputs_of_none (fun e he under => ?_)
  obtain ⟨stepRun, hr, here⟩ := exists_of_forall₂_left settled.recorded he
  cases e with
  | skipped step => exact under
  | called step given result =>
    refine none stepRun hr (here.1.trans under.1) ?_
    rw [here.2.2.1, finalStatus_succeeded_iff]
    exact under.2

/-- What is left to show about a returned run once its records are settled: how its status
goes with the end of its trace. -/
theorem Settled.accounts {context : ExecutionContext σ} {status : ExecutionRunStatus}
    {replan : Option ReplanRequest} {result : ExecutionRunResult} {st' : RunState σ}
    (settled : Settled plan context.stepOutputs st)
    (distinct : (plan.steps.map PlanStep.stepId).Nodup)
    (concluded : Concluded status replan st result st')
    (terminal : status = .succeeded ∨ status = .failed ∨ status = .waitingReplan)
    (whole : status = .succeeded → st.trace.map StepEvent.step = plan.steps)
    (failed_iff : status = .failed ↔
      EndsFailed st.trace (fun p => p ≠ .continue' ∧ p ≠ .requestReplan))
    (waiting_iff : status = .waitingReplan ↔ EndsFailed st.trace (fun p => p = .requestReplan))
    (asked : replan.isSome = true ↔ status = .waitingReplan) :
    RunAccounts plan context result st' where
  inPlanOrder := by
    rw [concluded.stepRuns, settled.inPlanOrder]
    exact settled.ids
  runStatus := concluded.runStatus.trans concluded.status.symm
  terminal := concluded.status ▸ terminal
  whole success := by
    have steps := whole (concluded.status.symm.trans success)
    rw [concluded.stepRuns, settled.inPlanOrder, ← steps, List.map_map]
    rfl
  failed_iff := by
    rw [concluded.status, settled.lastFailed_iff distinct concluded.stepRuns concluded.stepResults]
    exact failed_iff
  waiting_iff := by
    rw [concluded.status, settled.lastFailed_iff distinct concluded.stepRuns concluded.stepResults]
    exact waiting_iff
  replan_iff := by
    rw [concluded.replan, concluded.status]
    exact asked
  ran_iff id := by
    rw [concluded.stepResults, concluded.trace]
    exact settled.ran_iff id
  resultStatus stepRun hr res hres := by
    rw [concluded.stepRuns] at hr
    rw [concluded.stepResults] at hres
    exact settled.resultStatus distinct hr hres
  outputs stepRun hr success := by
    rw [concluded.stepRuns] at hr
    rw [concluded.stepOutputs]
    exact settled.outputs distinct hr success
  otherOutputs id none := by
    rw [concluded.stepRuns] at none
    rw [concluded.stepOutputs]
    exact settled.otherOutputs none

/-- A step to come has an id that the trace has not. -/
theorem new_id {plan : ExecutionPlan} {done rest : List PlanStep} {step : PlanStep} {t : List (StepEvent σ)}
    (distinct : (plan.steps.map PlanStep.stepId).Nodup)
    (split : plan.steps = done ++ step :: rest) (ht : t.map StepEvent.step = done) :
    step.stepId ∉ t.map (fun e => e.step.stepId) := by
  rw [split, List.map_append, List.map_cons, List.nodup_append] at distinct
  have ids : t.map (fun e => e.step.stepId) = done.map PlanStep.stepId := by
    rw [← ht, List.map_map]
    rfl
  rw [ids]
  intro mem
  exact distinct.2.2 step.stepId mem step.stepId List.mem_cons_self rfl

/-- Every step of a completed loop succeeded, was skipped, or was one to continue after. -/
private theorem not_endsFailed {engine : ExecutionEngine σ} {done : List PlanStep}
    (trail : Trail engine done st) (policy : StepFailurePolicy → Prop)
    (other : ¬ policy .continue') : ¬ EndsFailed st.trace policy := by
  rintro ⟨before, step, given, res, ht, failure, hp⟩
  have goes := trail.goesOn (.called step given res) (by simp [ht])
  rw [goes.resolve_left failure] at hp
  exact other hp

private theorem endsFailed_call_iff {engine : ExecutionEngine σ} {step : PlanStep}
    {executor : StepExecutor σ} {stepRun : ExecutionStepRun} {result : StepExecutionResult}
    (call : Finishes engine step st executor stepRun result)
    (failure : result.status ≠ .succeeded) (policy : StepFailurePolicy → Prop) :
    EndsFailed (st.trace ++ [callEvent engine executor step st]) policy ↔
      policy step.onFailure := by
  have same : result.status = (Executed.result (executeStep engine executor step st)).status :=
    call.spec.status
  constructor
  · rintro ⟨before, step', given, res, ht, _, hp⟩
    have last := List.append_inj_right' ht rfl
    simp only [callEvent, List.cons.injEq, StepEvent.called.injEq] at last
    exact last.1.1 ▸ hp
  · intro hp
    exact ⟨st.trace, step, st.context, _, rfl, same ▸ failure, hp⟩

theorem fakeEngine_keepsOutputs (kinds : List (String × ExecutionStepStatus)) :
    KeepsOutputs (fakeEngine (kinds.map (fun k => fakeExecutor (σ := σ) k.1 k.2))) := by
  intro kind executor known step context w
  obtain ⟨k, _, rfl⟩ := List.mem_map.mp (StepExecutorRegistry.mem_of_get_ofExecutors known)
  rfl

end Accounting

end SthBoring.Execution.RunAccounting
