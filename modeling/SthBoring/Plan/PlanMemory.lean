/- Module: SthBoring/Plan/PlanMemory
   source: sdk_test_agent/plan/plan_memory.py, plan_context.py, planners/fast_planner.py
   digest: Plans that were saved, the search among them, and the draft that recalls the best one. -/

import Mathlib.Data.Finset.Card
import Mathlib.Data.Finset.Lattice.Basic
import Mathlib.Data.Prod.Lex
import Mathlib.Algebra.Order.Ring.Rat
import SthBoring.Lib.BestFirst
import SthBoring.Lib.UrlParse
import SthBoring.AgentLoop.CarriedObjects
import SthBoring.AgentLoop.LoopModels

set_option autoImplicit false
set_option relaxedAutoImplicit false

namespace SthBoring.Plan.PlanMemory

open SthBoring.Lib.BestFirst
open SthBoring.Lib.Dataclasses
open SthBoring.Lib.PyValue
open SthBoring.Lib.UrlParse (Interpreter asciiInterpreter)
open SthBoring.Capability.Panel (optionalText)
open SthBoring.Plan.Models
open SthBoring.Plan.PlanObjects
open SthBoring.AgentLoop.LoopModels (PlanContextBase PlannerInput)

-- Scores are floats but NaN, which no order has a place for.
variable {S : Type} [LinearOrder S] [Zero S]

section Store

/-- `similarity` is exact here. -/
structure RetrievedPlanMemory (S : Type) where
  memoryId : String
  taskType : String
  similarity : ℚ
  planSummary : String
  planJson : Fields
  successScore : Option S := none
  sourceTaskId : Option String := none
  metadata : Fields := []

/-- The arguments of `save_successful_plan`, and what `uuid4` draws in it. -/
structure SaveCall (S : Type) where
  uuidHex : String
  taskId : String
  taskType : String
  goal : String
  plan : ExecutionPlan
  successScore : Option S := none
  metadata : Option Fields := none

structure InMemoryPlanMemoryStore (S : Type) where
  items : List (RetrievedPlanMemory S) := []

/-- `asdict` of an instance. -/
def asdict : Value → Fields
  | .obj _ attributes => plainFields attributes
  | _ => []

def memoryId (call : SaveCall S) : String := "memory_" ++ String.ofList (call.uuidHex.toList.take 16)

/-- The item that a call appends. -/
def savedItem (call : SaveCall S) : RetrievedPlanMemory S where
  memoryId := memoryId call
  taskType := call.taskType
  similarity := 1
  planSummary := call.goal
  planJson := asdict (planObj call.plan)
  successScore := call.successScore
  sourceTaskId := some call.taskId
  metadata := call.metadata.getD []

def InMemoryPlanMemoryStore.saveSuccessfulPlan (store : InMemoryPlanMemoryStore S)
    (call : SaveCall S) : String × InMemoryPlanMemoryStore S :=
  (memoryId call, { items := store.items ++ [savedItem call] })

variable (py : Interpreter)

/-- `set(text.lower().split())`. -/
def words (text : String) : Finset String :=
  ((((py.lower text).toList.splitOnP isSpace).filter fun word => !word.isEmpty).map
    String.ofList).toFinset

/-- The similarity of two sets of words. -/
def similarity (qWords words : Finset String) : ℚ :=
  if qWords ≠ ∅ ∨ words ≠ ∅ then
    ((qWords ∩ words).card : ℚ) / (max (qWords ∪ words).card 1 : ℕ)
  else 0

example : similarity (words asciiInterpreter "Build the App")
    (words asciiInterpreter "build app fast") = 1 / 2 := by decide +kernel

/-- `(x.similarity, x.success_score or 0.0)`. -/
def rank (item : RetrievedPlanMemory S) : ℚ ×ₗ S :=
  toLex (item.similarity, item.successScore.getD 0)

def InMemoryPlanMemoryStore.searchSimilarPlans (store : InMemoryPlanMemoryStore S)
    (taskType queryText : String) (limit : ℤ) : List (RetrievedPlanMemory S) :=
  let qWords := words py queryText
  let scored := (store.items.filter fun item => item.taskType == taskType).map fun item =>
    { item with similarity := similarity qWords (words py item.planSummary) }
  sliceUpTo limit (bestFirst rank scored)

end Store

section Planner

structure FastPlanner (S : Type) where
  name : String := "fast_planner"
  version : String := "0.1.0"
  memoryStore : InMemoryPlanMemoryStore S

variable (py : Interpreter) (planner : FastPlanner S)

/-- The loop may plan without a goal. -/
def FastPlanner.retrieve (context : PlanContextBase) : Except PyExc (List (RetrievedPlanMemory S)) :=
  match context.goal with
  | some goal => .ok (planner.memoryStore.searchSimilarPlans py context.taskType goal 5)
  | none => .error (attributeError "'NoneType' object has no attribute 'lower'")

/-- `PlanStep(**step)`. -/
def stepOf : Value → Except PyExc Value
  | .dict step => planStep.construct step
  | step => .error (typeError s!"PlanStep() argument after ** must be a mapping, not {step.typeName}")

/-- `plan`, with the text that `repr` gives to a similarity. -/
def FastPlanner.plan (shown : ℚ → String) (plannerInput : PlannerInput) :
    Except PyExc (Option Value) := do
  let context := plannerInput.baseContext
  let memories ← planner.retrieve py context
  match memories with
  | [] => .ok none
  | memory :: _ => do
    let entries ← ((memory.planJson.get "steps").getD (.list [])).iter
    let steps ← entries.mapM stepOf
    let draft ← executionPlanDraft.construct
      [("task_id", .str context.taskId), ("task_type", .str context.taskType),
        ("goal", optionalText context.goal), ("planner_name", .str planner.name),
        ("planner_version", .str planner.version),
        ("plan_summary", .str s!"Recalled plan from {memory.memoryId}: {memory.planSummary}"),
        ("steps", .list steps),
        ("metadata", .dict [("memory_id", .str memory.memoryId),
          ("similarity", .float ⟨memory.similarity, shown memory.similarity⟩)])]
    .ok (some draft)

end Planner

end SthBoring.Plan.PlanMemory
