/- Module: SthBoring/Plan/PlanRecall
   source: sdk_test_agent/plan/plan_memory.py, planners/fast_planner.py
   digest: The fast planner recalls the best of the plans that were saved, with its steps. -/

import SthBoring.Plan.PlanMemory

set_option autoImplicit false
set_option relaxedAutoImplicit false

namespace SthBoring.Plan.PlanRecall

open SthBoring.Lib.BestFirst
open SthBoring.Lib.Dataclasses
open SthBoring.Lib.JsonValue (IsJson)
open SthBoring.Lib.PyValue
open SthBoring.Lib.UrlParse (Interpreter asciiInterpreter)
open SthBoring.Plan.Models
open SthBoring.Plan.PlanMemory
open SthBoring.Plan.PlanObjects
open SthBoring.AgentLoop.CarriedObjects (StepJson plain_stepObj)
open SthBoring.AgentLoop.LoopModels (PlanContextBase PlannerInput)

variable {S : Type}

section Spec

/-- The share of the elements of two sets that they have in common, 0 for two empty sets. -/
def jaccard (s t : Finset String) : ℚ := ((s ∩ t).card : ℚ) / (s ∪ t).card

/-- A store that all of these calls were made on. -/
def saved (saves : List (SaveCall S)) : InMemoryPlanMemoryStore S :=
  saves.foldl (fun store call => (store.saveSuccessfulPlan call).2) {}

/-- The plans of a task type, with the positions of their calls. -/
def rivals (saves : List (SaveCall S)) (taskType : String) : List (SaveCall S × ℕ) :=
  saves.zipIdx.filter fun rival => rival.1.taskType == taskType

variable (py : Interpreter) (query : String)

/-- What plans are compared by. -/
def merit [Zero S] (call : SaveCall S) : ℚ ×ₗ S :=
  toLex (jaccard (words py query) (words py call.goal), call.successScore.getD 0)

/-- What the search shows of a plan. -/
def found (call : SaveCall S) : RetrievedPlanMemory S :=
  { savedItem call with similarity := jaccard (words py query) (words py call.goal) }

/-- The draft that recalls a plan. -/
def recalled (shown : ℚ → String) (context : PlanContextBase) (call : SaveCall S) :
    ExecutionPlanDraft where
  taskId := context.taskId
  taskType := context.taskType
  goal := query
  plannerName := "fast_planner"
  plannerVersion := "0.1.0"
  planSummary := s!"Recalled plan from {memoryId call}: {call.goal}"
  steps := call.plan.steps
  metadata := [("memory_id", .str (memoryId call)),
    ("similarity", .float
      ⟨(found py query call).similarity, shown (found py query call).similarity⟩)]

end Spec

section Saves

theorem items_saved (saves : List (SaveCall S)) : (saved saves).items = saves.map savedItem := by
  induction saves using List.reverseRecOn with
  | nil => rfl
  | append_singleton saves call ih =>
    rw [saved, List.foldl_append, List.map_append, ← ih]
    rfl

theorem map_fst_rivals (saves : List (SaveCall S)) (taskType : String) :
    (rivals saves taskType).map Prod.fst = saves.filter fun call => call.taskType == taskType := by
  conv_rhs => rw [← List.zipIdx_map_fst 0 saves, List.filter_map]
  rfl

theorem numbered_rivals (saves : List (SaveCall S)) (taskType : String) :
    (rivals saves taskType).Pairwise fun a b => a.2 < b.2 :=
  (numbered_zipIdx saves 0).sublist List.filter_sublist

theorem mem_rivals {saves : List (SaveCall S)} {taskType : String} {rival : SaveCall S × ℕ}
    (mem : rival ∈ rivals saves taskType) : rival.1 ∈ saves := by
  obtain ⟨inside, -⟩ := List.mem_filter.mp mem
  rw [← List.zipIdx_map_fst 0 saves]
  exact List.mem_map_of_mem inside

theorem rivals_eq_nil_iff {saves : List (SaveCall S)} {taskType : String} :
    rivals saves taskType = [] ↔ ∀ call ∈ saves, call.taskType ≠ taskType := by
  rw [← List.map_eq_nil_iff (f := Prod.fst), map_fst_rivals, List.filter_eq_nil_iff]
  exact forall₂_congr fun call _ => by rw [beq_iff_eq]

end Saves

section Search

variable [LinearOrder S] [Zero S] {py : Interpreter} {query : String}

/-- The cases of the source come to one quotient. -/
theorem similarity_eq (s t : Finset String) : similarity s t = jaccard s t := by
  unfold similarity jaccard
  by_cases empty : s ∪ t = ∅
  · obtain ⟨rfl, rfl⟩ := Finset.union_eq_empty.mp empty
    simp
  · have some : s ≠ ∅ ∨ t ≠ ∅ := by
      by_contra both
      rw [not_or, not_not, not_not] at both
      exact empty (Finset.union_eq_empty.mpr both)
    have card : 1 ≤ (s ∪ t).card := Finset.card_pos.mpr (Finset.nonempty_iff_ne_empty.mpr empty)
    rw [if_pos some, max_eq_left card]

/-- The search shows the best plans of the task type. -/
theorem searchSimilarPlans_saved (saves : List (SaveCall S)) (taskType : String) {limit : ℤ}
    (some : 0 ≤ limit) :
    (saved saves).searchSimilarPlans py taskType query limit =
      ((bestFirst (fun rival => merit py query rival.1) (rivals saves taskType)).take
        limit.toNat).map fun rival => found py query rival.1 := by
  have scored : ((saved saves).items.filter fun item => item.taskType == taskType).map
      (fun item => { item with similarity := similarity (words py query) (words py item.planSummary) })
        = (rivals saves taskType).map fun rival => found py query rival.1 := by
    calc ((saved saves).items.filter fun item => item.taskType == taskType).map
          (fun item =>
            { item with similarity := similarity (words py query) (words py item.planSummary) })
        = (saves.filter fun call => call.taskType == taskType).map (found py query) := by
          rw [items_saved, List.filter_map, List.map_map]
          refine List.map_congr_left fun call _ => ?_
          simp only [Function.comp_apply, similarity_eq]
          rfl
      _ = (rivals saves taskType).map fun rival => found py query rival.1 := by
          rw [← map_fst_rivals, List.map_map]
          rfl
  unfold InMemoryPlanMemoryStore.searchSimilarPlans
  dsimp only
  rw [scored, sliceUpTo, if_pos some, bestFirst_map, List.map_take]
  rfl

end Search

section Steps

/-- The steps of the plan stay JSON: their inputs and their metadata hold no instances. -/
def PlanJson (plan : ExecutionPlan) : Prop := ∀ step ∈ plan.steps, StepJson step

/-- A step comes back from what `asdict` makes of it. -/
theorem stepOf_plain {step : PlanStep} (json : StepJson step) :
    stepOf (plain (stepObj step)) = .ok (stepObj step) := by
  obtain ⟨attributes, own, named, dumped⟩ := plain_stepObj json
  rw [dumped, own]
  exact DataClass.construct_eq (c := planStep) (by decide) named

theorem mapM_stepOf {steps : List PlanStep} (json : ∀ step ∈ steps, StepJson step) :
    (plainList (steps.map stepObj)).mapM stepOf = .ok (steps.map stepObj) := by
  induction steps with
  | nil => rfl
  | cons step steps ih =>
    obtain ⟨first, rest⟩ := List.forall_mem_cons.mp json
    rw [List.map_cons, plainList, List.mapM_cons, stepOf_plain first, ih rest]
    rfl

theorem steps_asdict (plan : ExecutionPlan) :
    ((asdict (planObj plan)).get "steps").getD (.list []) =
      .list (plainList (plan.steps.map stepObj)) := rfl

end Steps

section Recall

variable [LinearOrder S] [Zero S] {py : Interpreter} {shown : ℚ → String}

/-- The planner over a store that these calls were made on. -/
def plannerOf (saves : List (SaveCall S)) : FastPlanner S := { memoryStore := saved saves }

theorem retrieve_saved (saves : List (SaveCall S)) {context : PlanContextBase} {goal : String}
    (asked : context.goal = some goal) :
    (plannerOf saves).retrieve py context =
      .ok (((bestFirst (fun rival => merit py goal rival.1) (rivals saves context.taskType)).take
        5).map fun rival => found py goal rival.1) := by
  rw [FastPlanner.retrieve, asked]
  exact congrArg Except.ok (searchSimilarPlans_saved saves context.taskType (by decide))

/-- Where nothing is found there is no draft. -/
theorem plan_of_none {saves : List (SaveCall S)} {input : PlannerInput} {goal : String}
    (asked : input.baseContext.goal = some goal)
    (none : rivals saves input.baseContext.taskType = []) :
    (plannerOf saves).plan py shown input = .ok Option.none := by
  rw [FastPlanner.plan, retrieve_saved saves asked, none]
  rfl

theorem plan_of_best {saves : List (SaveCall S)} {input : PlannerInput} {goal : String}
    (json : ∀ call ∈ saves, PlanJson call.plan) (asked : input.baseContext.goal = some goal)
    {best : SaveCall S × ℕ} {others : List (SaveCall S × ℕ)}
    (sorted : bestFirst (fun rival => merit py goal rival.1)
      (rivals saves input.baseContext.taskType) = best :: others) :
    (plannerOf saves).plan py shown input =
      .ok (some (draftObj (recalled py goal shown input.baseContext best.1))) := by
  have perm : (best :: others).Perm (rivals saves input.baseContext.taskType) := by
    rw [← sorted]
    exact perm_bestFirst _ _
  have first : best ∈ rivals saves input.baseContext.taskType := perm.subset List.mem_cons_self
  have entries : (((found py goal best.1).planJson.get "steps").getD (.list [])).iter =
      .ok (plainList (best.1.plan.steps.map stepObj)) :=
    congrArg Value.iter (steps_asdict best.1.plan)
  have steps := mapM_stepOf (json best.1 (mem_rivals first))
  unfold FastPlanner.plan
  simp only [retrieve_saved saves asked, sorted, List.take_succ_cons, List.map_cons, entries, steps,
    asked, bind, Except.bind]
  rfl

/-- What the planner makes of the plans that were saved: a draft with the steps of the best one of
the task type, and the best ones in a search. -/
structure RecallsBest (py : Interpreter) (shown : ℚ → String) (saves : List (SaveCall S))
    (input : PlannerInput) (goal : String) : Prop where
  none_iff : (plannerOf saves).plan py shown input = .ok none ↔
    ∀ call ∈ saves, call.taskType ≠ input.baseContext.taskType
  best : (∃ call ∈ saves, call.taskType = input.baseContext.taskType) →
    ∃ best ∈ rivals saves input.baseContext.taskType,
      (∀ rival ∈ rivals saves input.baseContext.taskType, rival ≠ best →
        Better (merit py goal) best rival) ∧
      (plannerOf saves).plan py shown input =
        .ok (some (draftObj (recalled py goal shown input.baseContext best.1)))
  search : ∀ taskType query limit, 0 ≤ limit → ∃ picked,
    Best (merit py query) limit.toNat (rivals saves taskType) picked ∧ picked.Nodup ∧
      (saved saves).searchSimilarPlans py taskType query limit =
        picked.map fun rival => found py query rival.1

/-- The first of the sorted plans is better than the others. -/
theorem exists_best (py : Interpreter) (goal : String) {saves : List (SaveCall S)}
    {taskType : String} (some : rivals saves taskType ≠ []) :
    ∃ best others, bestFirst (fun rival => merit py goal rival.1) (rivals saves taskType) =
        best :: others ∧ best ∈ rivals saves taskType ∧
      ∀ rival ∈ rivals saves taskType, rival ≠ best → Better (merit py goal) best rival := by
  have perm := perm_bestFirst (fun rival => merit py goal rival.1) (rivals saves taskType)
  have ordered := pairwise_bestFirst (merit py goal) (numbered_rivals saves taskType)
  cases sorted : bestFirst (fun rival => merit py goal rival.1) (rivals saves taskType) with
  | nil =>
    rw [sorted] at perm
    exact absurd perm.symm.eq_nil some
  | cons best others =>
    rw [sorted] at perm ordered
    refine ⟨best, others, rfl, perm.subset List.mem_cons_self, ?_⟩
    intro rival mem other
    have behind := (List.mem_cons.mp (perm.symm.subset mem)).resolve_left other
    exact (List.pairwise_cons.mp ordered).1 rival behind

/-- The fast planner recalls the best plan of the task type, and the search finds the best ones. -/
theorem recallsBest {saves : List (SaveCall S)} (json : ∀ call ∈ saves, PlanJson call.plan)
    (input : PlannerInput) {goal : String} (asked : input.baseContext.goal = some goal)
    (py : Interpreter) (shown : ℚ → String) : RecallsBest py shown saves input goal := by
  constructor
  · constructor
    · intro answered
      rw [← rivals_eq_nil_iff]
      by_contra some
      obtain ⟨best, others, sorted, -⟩ := exists_best py goal some
      rw [plan_of_best json asked sorted] at answered
      cases answered
    · intro none
      exact plan_of_none asked (rivals_eq_nil_iff.mpr none)
  · rintro ⟨call, mem, same⟩
    have some : rivals saves input.baseContext.taskType ≠ [] := by
      intro none
      exact rivals_eq_nil_iff.mp none call mem same
    obtain ⟨best, others, sorted, among, better⟩ := exists_best py goal some
    exact ⟨best, among, better, plan_of_best json asked sorted⟩
  · intro taskType query limit least
    have best := best_take (merit py query) (numbered_rivals saves taskType) limit.toNat
    exact ⟨_, best, best.nodup, searchSimilarPlans_saved saves taskType least⟩

/-- Two plans of one task type, saved one after the other. -/
def demoSaves : List (SaveCall ℚ) :=
  let step : PlanStep := { stepId := "s1", title := "Build", kind := "run_command", intent := "mvn" }
  let plan : ExecutionPlan :=
    { planId := "p1", taskId := "t1", taskType := "java", goal := "Build the demo",
      plannerKind := .demo, plannerName := "demo_java_planner", plannerVersion := "0.1.0",
      status := .validated, steps := [step] }
  [{ uuidHex := "0123456789abcdef0123456789abcdef", taskId := "t1", taskType := "java",
     goal := "Build the demo", plan := plan, successScore := some (95 / 100) },
    { uuidHex := "fedcba9876543210fedcba9876543210", taskId := "t2", taskType := "java",
      goal := "Test the demo", plan := { plan with planId := "p2", steps := [] } }]

theorem recallsBest_demo :
    RecallsBest asciiInterpreter (fun _ => "1.0") demoSaves ⟨⟨"t3", "java", some "build", []⟩, none⟩
      "build" := by
  refine recallsBest ?_ _ rfl asciiInterpreter _
  intro call mem step inside
  have plain : StepJson { stepId := "s1", title := "Build", kind := "run_command", intent := "mvn" } :=
    ⟨⟨List.nodup_nil, trivial⟩, ⟨List.nodup_nil, trivial⟩⟩
  rcases List.mem_pair.mp mem with rfl | rfl
  · obtain rfl := List.mem_singleton.mp inside
    exact plain
  · cases inside

end Recall

end SthBoring.Plan.PlanRecall
