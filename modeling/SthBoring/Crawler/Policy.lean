/- Module: SthBoring/Crawler/Policy
   source: agent_crawler/policy/*.py
   digest: Which plan a request gets, and which plan follows a failed attempt. -/

import SthBoring.Crawler.Models
import SthBoring.Lib.UrlParse

set_option autoImplicit false
set_option relaxedAutoImplicit false

namespace SthBoring.Crawler.Policy

open SthBoring.Crawler.Models
open SthBoring.Lib.OrderedDict (PyDict)
open SthBoring.Lib.PyValue (PyExc joinWith)
open SthBoring.Lib.UrlParse (Interpreter netloc)

structure DomainPolicy where
  domain : String
  preferBrowser : Bool := false
  requiresAuth : Bool := false
  adapterName : Option String := none
  preferProfile : Bool := false
  allowLlmGate : Bool := false
  allowLlmRender : Bool := false
  resultCacheTtlS : ℤ := 600
  httpCacheTtlS : ℤ := 3600

structure DomainPolicyRegistry where
  defaultPolicy : DomainPolicy := { domain := "*" }
  policies : PyDict String DomainPolicy := PyDict.empty

def DomainPolicyRegistry.register (py : Interpreter) (registry : DomainPolicyRegistry)
    (policy : DomainPolicy) : DomainPolicyRegistry :=
  { registry with policies := registry.policies.set (py.lower policy.domain) policy }

/-- The wildcards over the parts of a host, longest first. -/
def wildcards (host : String) : List String :=
  let parts := (host.toList.splitOn '.').map String.ofList
  (List.range (parts.length - 1)).tail.map (fun idx => "*." ++ joinWith "." (parts.drop idx))

/-- The policy of a host: its own, that of the longest wildcard over it, or the default. -/
def DomainPolicyRegistry.policyFor (registry : DomainPolicyRegistry) (host : String) :
    DomainPolicy :=
  match registry.policies.get host with
  | some policy => policy
  | none => ((wildcards host).findSome? registry.policies.get).getD registry.defaultPolicy

def DomainPolicyRegistry.resolve (py : Interpreter) (registry : DomainPolicyRegistry)
    (url : String) : Except PyExc DomainPolicy := do
  let host ← netloc py url
  return registry.policyFor (py.lower host)

/-- A name that is neither `None` nor empty. -/
def named (name : Option String) : Bool := name.any (· ≠ "")

def chooseTransport (request : CrawlRequest) (policy : DomainPolicy) : TransportKind :=
  if request.transportHint = .browser ∨ (request.transportHint = .auto ∧ policy.preferBrowser) then
    .browser
  else .http

/-- The extractor, and the adapter name that goes with it. -/
def chooseExtractor (request : CrawlRequest) (policy : DomainPolicy) :
    ExtractKind × Option String :=
  if request.extractHint = .adapter ∨
      (request.extractHint = .auto ∧ named policy.adapterName) then (.adapter, policy.adapterName)
  else if request.extractHint = .intelligent then (.intelligent, policy.adapterName)
  else if request.extractHint = .universal then (.universal, none)
  else (.universal, policy.adapterName)

def planFor (request : CrawlRequest) (policy : DomainPolicy) : CrawlPlan where
  transport := chooseTransport request policy
  extractKind := (chooseExtractor request policy).1
  adapterName := (chooseExtractor request policy).2
  preferProfile := policy.preferProfile || policy.requiresAuth
  resultCacheTtlS := policy.resultCacheTtlS
  httpCacheTtlS := policy.httpCacheTtlS
  allowLlmGate := policy.allowLlmGate
  allowLlmRender := policy.allowLlmRender

/-- `PolicyEngine.build_plan`. -/
def buildPlan (py : Interpreter) (registry : DomainPolicyRegistry) (request : CrawlRequest) :
    Except PyExc CrawlPlan := do
  let policy ← registry.resolve py request.url
  return planFor request policy

/-- `PolicyEngine.update_plan_on_failure`. -/
def updatePlanOnFailure (plan : CrawlPlan) : CrawlPlan :=
  if plan.transport = .http ∧ plan.extractKind = .universal ∧ named plan.adapterName then
    { plan with extractKind := .adapter }
  else if plan.transport = .http then
    { plan with transport := .browser, extractKind := .universal }
  else if plan.transport = .browser ∧ named plan.adapterName ∧ plan.extractKind ≠ .adapter then
    { plan with extractKind := .adapter }
  else if plan.extractKind ≠ .intelligent then { plan with extractKind := .intelligent }
  else plan

/-- The plan that follows a failed attempt, `CrawlerRunner._fallback` without its record. -/
def nextPlan (plan : CrawlPlan) : CrawlPlan :=
  if updatePlanOnFailure plan = plan then { plan with extractKind := .intelligent }
  else updatePlanOnFailure plan

/-- Two plans that differ at most in the transport and the extractor. -/
def SameTerms (p q : CrawlPlan) : Prop :=
  q = { p with transport := q.transport, extractKind := q.extractKind }

theorem SameTerms.refl (p : CrawlPlan) : SameTerms p p := rfl

theorem SameTerms.trans {p q r : CrawlPlan} (h : SameTerms p q) (h' : SameTerms q r) :
    SameTerms p r := by
  rw [SameTerms] at h h' ⊢
  rw [h', h]

theorem sameTerms_updatePlanOnFailure (plan : CrawlPlan) :
    SameTerms plan (updatePlanOnFailure plan) := by
  unfold updatePlanOnFailure
  split_ifs <;> rfl

theorem sameTerms_nextPlan (plan : CrawlPlan) : SameTerms plan (nextPlan plan) := by
  unfold nextPlan
  split_ifs with unchanged
  · rfl
  · exact sameTerms_updatePlanOnFailure plan

end SthBoring.Crawler.Policy
