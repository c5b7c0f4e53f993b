/- Module: SthBoring/Crawler/DomainLookup
   source: agent_crawler/policy/*.py
   digest: Whose policy a URL gets: that of its host name, or that of all its network location. -/

import SthBoring.Crawler.Policy
import SthBoring.Lib.HostName
import SthBoring.Lib.KeyedDict
import SthBoring.Lib.LongestSuffix
import SthBoring.Lib.Segments

set_option autoImplicit false
set_option relaxedAutoImplicit false

namespace SthBoring.Crawler.DomainLookup

open SthBoring.Crawler.Policy
open SthBoring.Lib.LongestSuffix
open SthBoring.Lib.OrderedDict (PyDict)
open SthBoring.Lib.PyValue (joinWith)
open SthBoring.Lib.Segments (plain_of_mem_splitOn)
open SthBoring.Lib.UrlParse

section Specification

/-- The policy that was last registered for a name. -/
def registered (py : Interpreter) (policies : List DomainPolicy) (name : String) :
    Option DomainPolicy :=
  (policies.filter fun policy => decide (py.lower policy.domain = name)).getLast?

def labels (host : String) : List String := (host.toList.splitOn '.').map String.ofList

def wildcardOf (suffix : List String) : String := "*." ++ joinWith "." suffix

/-- The policy of a host name: its own, that of the longest wildcard of at least two of its labels,
or the default. -/
inductive MostSpecific (found : String → Option DomainPolicy) (defaultPolicy : DomainPolicy)
    (host : String) : DomainPolicy → Prop
  | own {policy : DomainPolicy} (known : found host = some policy) :
    MostSpecific found defaultPolicy host policy
  | wildcard {policy : DomainPolicy} (unknown : found host = none)
    (longest : LongestMatch 2 (found ∘ wildcardOf) (labels host) policy) :
    MostSpecific found defaultPolicy host policy
  | default (unknown : found host = none)
    (uncovered : ∀ suffix, ProperSuffix 2 (labels host) suffix → found (wildcardOf suffix) = none) :
    MostSpecific found defaultPolicy host defaultPolicy

/-- A registry with these policies. -/
def registryOf (py : Interpreter) (defaultPolicy : DomainPolicy) (policies : List DomainPolicy) :
    DomainPolicyRegistry :=
  policies.foldl (fun registry policy => registry.register py policy)
    { defaultPolicy := defaultPolicy }

variable (py : Interpreter)

/-- The URL gets the policy of its host name. -/
def ResolvesHost (defaultPolicy : DomainPolicy) (policies : List DomainPolicy) (url : String) :
    Prop :=
  ∃ host policy, hostname py url = .ok host ∧
    (registryOf py defaultPolicy policies).resolve py url = .ok policy ∧
    MostSpecific (registered py policies) defaultPolicy host policy

def SameHost (url url' : String) : Prop :=
  ∃ host, hostname py url = .ok host ∧ hostname py url' = .ok host

/-- Whatever is registered, the first URL gets the policy of its host name, and the second, if it
is another spelling with that host name, gets the same. -/
structure LooksUpHost (url url' : String) : Prop where
  resolves : ∀ defaultPolicy policies, ResolvesHost py defaultPolicy policies url
  same : SameHost py url url' → ∀ defaultPolicy policies,
    (registryOf py defaultPolicy policies).resolve py url' =
      (registryOf py defaultPolicy policies).resolve py url

/-- There is nothing but a host name in the location of the URL: no user information, no port, and
no brackets. -/
def NamesHostOnly (url : String) : Prop :=
  ∃ location, netloc py url = .ok location ∧ Bare location

end Specification

section Lookup

variable {py : Interpreter} {defaultPolicy : DomainPolicy} {policies : List DomainPolicy}

theorem registryOf_append (policy : DomainPolicy) :
    registryOf py defaultPolicy (policies ++ [policy]) =
      (registryOf py defaultPolicy policies).register py policy := by
  rw [registryOf, List.foldl_append]
  rfl

theorem policies_registryOf : (registryOf py defaultPolicy policies).policies =
    PyDict.comprehension (fun policy => py.lower policy.domain) policies := by
  induction policies using List.reverseRecOn with
  | nil => rfl
  | append_singleton policies policy ih =>
    rw [registryOf_append, DomainPolicyRegistry.register, ih, PyDict.comprehension,
      PyDict.comprehension, List.foldl_append]
    rfl

theorem defaultPolicy_registryOf :
    (registryOf py defaultPolicy policies).defaultPolicy = defaultPolicy := by
  induction policies using List.reverseRecOn with
  | nil => rfl
  | append_singleton policies policy ih =>
    rw [registryOf_append, DomainPolicyRegistry.register, ih]

theorem get_registryOf (name : String) :
    (registryOf py defaultPolicy policies).policies.get name = registered py policies name := by
  rw [policies_registryOf, registered]
  exact PyDict.get_comprehension_eq_getLast? _ policies name

theorem wildcards_eq (host : String) :
    wildcards host = (properSuffixes 2 (labels host)).map wildcardOf := by
  rw [properSuffixes, List.map_map]
  rfl

/-- What the registry has for a name is the most specific of its policies. -/
theorem mostSpecific_policyFor (registry : DomainPolicyRegistry) (host : String) :
    MostSpecific registry.policies.get registry.defaultPolicy host (registry.policyFor host) := by
  rw [DomainPolicyRegistry.policyFor]
  cases known : registry.policies.get host with
  | some policy => exact .own known
  | none =>
    rw [wildcards_eq, List.findSome?_map]
    cases found : (properSuffixes 2 (labels host)).findSome?
        (registry.policies.get ∘ wildcardOf) with
    | some policy => exact .wildcard known (longestMatch_of_findSome? (by decide) found)
    | none =>
      refine .default known fun suffix properSuffix => ?_
      have unknown : (registry.policies.get ∘ wildcardOf) suffix = none :=
        unknown_of_findSome? (by decide) found properSuffix
      exact unknown

theorem mostSpecific_registryOf (host : String) :
    MostSpecific (registered py policies) defaultPolicy host
      ((registryOf py defaultPolicy policies).policyFor host) := by
  have specific := mostSpecific_policyFor (registryOf py defaultPolicy policies) host
  rw [funext get_registryOf, defaultPolicy_registryOf] at specific
  exact specific

end Lookup

section Marks

variable {py : Interpreter} {defaultPolicy policy looked : DomainPolicy} {host url url' : String}
  {mark : Char} {suffix : List String}

theorem mem_joinWith {c : Char} {sep : String} {parts : List String}
    (mem : c ∈ (joinWith sep parts).toList) :
    c ∈ sep.toList ∨ ∃ part ∈ parts, c ∈ part.toList := by
  induction parts with
  | nil => cases mem
  | cons part parts ih =>
    cases parts with
    | nil => exact Or.inr ⟨part, List.mem_cons_self, mem⟩
    | cons next parts =>
      rw [joinWith, String.toList_append, String.toList_append, List.mem_append,
        List.mem_append] at mem
      rcases mem with (mem | mem) | mem
      · exact Or.inr ⟨part, List.mem_cons_self, mem⟩
      · exact Or.inl mem
      · rcases ih mem with inSep | ⟨other, inside, mem⟩
        · exact Or.inl inSep
        · exact Or.inr ⟨other, List.mem_cons_of_mem part inside, mem⟩

/-- A wildcard over a host name has no mark that the host name has not. -/
theorem notMem_wildcardOf (isMark : mark ∈ ['@', ':', ']'])
    (properSuffix : ProperSuffix 2 (labels host) suffix) (absent : mark ∉ host.toList) :
    mark ∉ (wildcardOf suffix).toList := by
  intro mem
  rw [wildcardOf, String.toList_append, List.mem_append] at mem
  have dots : ∀ m ∈ ['@', ':', ']'], m ∉ ".".toList ∧ m ∉ "*.".toList := by
    rw [List.forall_mem_cons, List.forall_mem_cons, List.forall_mem_singleton]
    decide
  have dot := dots mark isMark
  rcases mem with star | mem
  · exact dot.2 star
  · rcases mem_joinWith mem with sep | ⟨part, inside, mem⟩
    · exact dot.1 sep
    · obtain ⟨piece, split, rfl⟩ := List.mem_map.mp (properSuffix.isSuffix.subset inside)
      rw [String.toList_ofList] at mem
      exact absent ((plain_of_mem_splitOn split).2 mem)

theorem registered_singleton_of_mark {name : String}
    (marked : mark ∈ (py.lower policy.domain).toList) (absent : mark ∉ name.toList) : registered py [policy] name = none := by
  have other : py.lower policy.domain ≠ name := fun eq => absent (eq ▸ marked)
  simp [registered, other]

/-- A policy for a domain with a mark is not that of a host name without it. -/
theorem eq_default_of_mark (isMark : mark ∈ ['@', ':', ']'])
    (marked : mark ∈ (py.lower policy.domain).toList) (absent : mark ∉ host.toList)
    (specific : MostSpecific (registered py [policy]) defaultPolicy host looked) :
    looked = defaultPolicy := by
  cases specific with
  | own known =>
    rw [registered_singleton_of_mark marked absent] at known
    cases known
  | wildcard unknown longest =>
    obtain ⟨suffix, properSuffix, found, -⟩ := longest
    have none : registered py [policy] (wildcardOf suffix) = none :=
      registered_singleton_of_mark marked (notMem_wildcardOf isMark properSuffix absent)
    rw [Function.comp_apply, none] at found
    cases found
  | default => rfl

end Marks

section Locations

variable {py : Interpreter} {defaultPolicy : DomainPolicy} {policies : List DomainPolicy}
  {url url' location host : String}

theorem hostname_of_netloc (parsed : netloc py url = .ok location) :
    hostname py url = .ok (py.lower (String.ofList (hostPart location.toList))) := by
  rw [hostname, parsed]
  rfl

theorem netloc_of_hostname (named : hostname py url = .ok host) :
    ∃ location, netloc py url = .ok location ∧
      host = py.lower (String.ofList (hostPart location.toList)) := by
  rw [hostname] at named
  cases parsed : netloc py url with
  | error exc =>
    rw [parsed] at named
    cases named
  | ok location =>
    rw [parsed] at named
    exact ⟨location, rfl, (Except.ok.inj named).symm⟩

theorem resolve_of_netloc (registry : DomainPolicyRegistry)
    (parsed : netloc py url = .ok location) :
    registry.resolve py url = .ok (registry.policyFor (py.lower location)) := by
  rw [DomainPolicyRegistry.resolve, parsed]
  rfl

/-- Where there is nothing but a host name, it is looked up. -/
theorem hostname_of_bare (parsed : netloc py url = .ok location) (bare : Bare location) :
    hostname py url = .ok (py.lower location) := by
  rw [hostname_of_netloc parsed, hostPart_of_bare bare, String.ofList_toList]

theorem resolvesHost_of_namesHostOnly (only : NamesHostOnly py url) :
    ResolvesHost py defaultPolicy policies url := by
  obtain ⟨location, parsed, bare⟩ := only
  exact ⟨_, _, hostname_of_bare parsed bare, resolve_of_netloc _ parsed,
    mostSpecific_registryOf (py.lower location)⟩

theorem resolve_of_sameHost (only : NamesHostOnly py url) (only' : NamesHostOnly py url')
    (same : SameHost py url url') (registry : DomainPolicyRegistry) :
    registry.resolve py url' = registry.resolve py url := by
  obtain ⟨location, parsed, bare⟩ := only
  obtain ⟨location', parsed', bare'⟩ := only'
  obtain ⟨host, named, named'⟩ := same
  rw [hostname_of_bare parsed bare] at named
  rw [hostname_of_bare parsed' bare'] at named'
  have lowered : py.lower location' = py.lower location :=
    (Except.ok.inj named').trans (Except.ok.inj named).symm
  rw [resolve_of_netloc registry parsed', resolve_of_netloc registry parsed, lowered]

/-- A policy for all of a location, and one that is not it. -/
def policyOf (location : String) : DomainPolicy where
  domain := location
  requiresAuth := true

def anyDomain : DomainPolicy where
  domain := "*"

theorem policyOf_ne_anyDomain : policyOf location ≠ anyDomain := by
  intro same
  have auth : true = false := congrArg DomainPolicy.requiresAuth same
  cases auth

/-- The policy for all of its location is the one that a URL gets. -/
theorem resolve_policyOf (parsed : netloc py url = .ok location) :
    (registryOf py anyDomain [policyOf location]).resolve py url = .ok (policyOf location) := by
  have known : registered py [policyOf location] (py.lower location) =
      some (policyOf location) := by
    simp [registered, policyOf]
  rw [resolve_of_netloc _ parsed, DomainPolicyRegistry.policyFor, get_registryOf, known]

variable (marks : KeepsMarks py)
include marks

theorem marks_of_not_bare (parsed : netloc py url = .ok location) (more : ¬ Bare location)
    (named : hostname py url = .ok host) :
    ∃ mark ∈ ['@', ':', ']'], mark ∈ (py.lower (policyOf location).domain).toList ∧
      mark ∉ host.toList := by
  obtain ⟨mark, isMark, mem, outside⟩ := mark_of_not_bare parsed more
  refine ⟨mark, isMark, (marks location mark isMark).mpr mem, ?_⟩
  rw [hostname_of_netloc parsed] at named
  rw [← Except.ok.inj named, marks _ mark isMark, String.toList_ofList]
  exact outside

theorem namesHostOnly_of_resolvesHost
    (resolves : ∀ defaultPolicy policies, ResolvesHost py defaultPolicy policies url) :
    NamesHostOnly py url := by
  obtain ⟨host, -, named, -, -⟩ := resolves anyDomain []
  obtain ⟨location, parsed, -⟩ := netloc_of_hostname named
  refine ⟨location, parsed, ?_⟩
  by_contra more
  obtain ⟨host', policy, named', resolved, specific⟩ := resolves anyDomain [policyOf location]
  rw [resolve_policyOf parsed] at resolved
  obtain rfl := Except.ok.inj resolved
  obtain ⟨mark, isMark, marked, absent⟩ := marks_of_not_bare marks parsed more named'
  exact policyOf_ne_anyDomain (eq_default_of_mark isMark marked absent specific)

/-- A location with more than the host name is a spelling that has an answer of its own. -/
theorem namesHostOnly_of_same (only : NamesHostOnly py url) (sameHost : SameHost py url url')
    (same : ∀ defaultPolicy policies, (registryOf py defaultPolicy policies).resolve py url' =
      (registryOf py defaultPolicy policies).resolve py url) : NamesHostOnly py url' := by
  obtain ⟨location, parsed, bare⟩ := only
  obtain ⟨host, named, named'⟩ := sameHost
  obtain ⟨location', parsed', -⟩ := netloc_of_hostname named'
  refine ⟨location', parsed', ?_⟩
  by_contra more
  obtain ⟨mark, isMark, marked, absent⟩ := marks_of_not_bare marks parsed' more named'
  have specific : MostSpecific (registered py [policyOf location']) anyDomain host
      ((registryOf py anyDomain [policyOf location']).policyFor host) :=
    mostSpecific_registryOf host
  have answer := same anyDomain [policyOf location']
  rw [hostname_of_bare parsed bare] at named
  rw [resolve_policyOf parsed', resolve_of_netloc _ parsed, Except.ok.inj named] at answer
  rw [← Except.ok.inj answer] at specific
  exact policyOf_ne_anyDomain (eq_default_of_mark isMark marked absent specific)

/-- **Domain policies.** The policy that a URL gets is that of its host name, and that of another
spelling too, exactly when there is nothing but the host name in their locations. -/
theorem looksUpHost_iff : LooksUpHost py url url' ↔
    NamesHostOnly py url ∧ (SameHost py url url' → NamesHostOnly py url') := by
  constructor
  · intro looksUp
    have only := namesHostOnly_of_resolvesHost marks looksUp.resolves
    exact ⟨only, fun sameHost => namesHostOnly_of_same marks only sameHost (looksUp.same sameHost)⟩
  · rintro ⟨only, only'⟩
    refine ⟨fun _ _ => resolvesHost_of_namesHostOnly only, ?_⟩
    intro sameHost _ _
    exact resolve_of_sameHost only (only' sameHost) sameHost _

end Locations

section Sample

/-- Of the marks, none is a letter or becomes one. -/
theorem toLower_eq_iff {c mark : Char} (isMark : mark ∈ ['@', ':', ']']) :
    c.toLower = mark ↔ c = mark := by
  have apart : ∀ m ∈ ['@', ':', ']'], m.toNat < 97 ∧ (m.toNat < 65 ∨ 90 < m.toNat) := by
    rw [List.forall_mem_cons, List.forall_mem_cons, List.forall_mem_singleton]
    decide
  obtain ⟨small, noCapital⟩ := apart mark isMark
  by_cases capital : c.val ≥ 'A'.val ∧ c.val ≤ 'Z'.val
  · have bounds : 65 ≤ c.toNat ∧ c.toNat ≤ 90 :=
      ⟨UInt32.le_iff_toNat_le.mp capital.1, UInt32.le_iff_toNat_le.mp capital.2⟩
    have shifted : c.toLower.toNat = c.toNat + 32 := by
      delta Char.toLower
      rw [dif_pos capital]
      show (c.val + 32).toNat = c.val.toNat + 32
      rw [UInt32.toNat_add]
      have small : c.val.toNat ≤ 90 := bounds.2
      exact Nat.mod_eq_of_lt (show c.val.toNat + 32 < 2 ^ 32 by omega)
    constructor
    · rintro rfl
      omega
    · rintro rfl
      omega
  · delta Char.toLower
    rw [dif_neg capital]

theorem keepsMarks_asciiInterpreter : KeepsMarks asciiInterpreter := by
  intro text mark isMark
  show mark ∈ (String.ofList (text.toList.map Char.toLower)).toList ↔ mark ∈ text.toList
  rw [String.toList_ofList, List.mem_map]
  constructor
  · rintro ⟨c, mem, lowered⟩
    rw [toLower_eq_iff isMark] at lowered
    exact lowered ▸ mem
  · intro mem
    exact ⟨mark, mem, (toLower_eq_iff isMark).mpr rfl⟩

def plainUrl : String := "https://Shop.Example.com/cart"

def lowerUrl : String := "https://shop.example.com/cart"

def portUrl : String := "https://shop.example.com:443/cart"

instance (location : String) : Decidable (Bare location) :=
  inferInstanceAs (Decidable (_ ∧ _))

theorem namesHostOnly_plainUrl : NamesHostOnly asciiInterpreter plainUrl :=
  ⟨"Shop.Example.com", by rfl, by decide⟩

theorem namesHostOnly_lowerUrl : NamesHostOnly asciiInterpreter lowerUrl :=
  ⟨"shop.example.com", by rfl, by decide⟩

theorem letter_case_ignored : LooksUpHost asciiInterpreter plainUrl lowerUrl :=
  (looksUpHost_iff keepsMarks_asciiInterpreter).mpr
    ⟨namesHostOnly_plainUrl, fun _ => namesHostOnly_lowerUrl⟩

/-- A shop that asks for a login. -/
def shopPolicy : DomainPolicy where
  domain := "shop.example.com"
  requiresAuth := true

def asksLogin (url : String) : Option Bool :=
  ((registryOf asciiInterpreter anyDomain [shopPolicy]).resolve asciiInterpreter
    url).toOption.map DomainPolicy.requiresAuth

theorem port_hides_policy : SameHost asciiInterpreter lowerUrl portUrl ∧
    asksLogin lowerUrl = some true ∧ asksLogin portUrl = some false ∧
    ¬ LooksUpHost asciiInterpreter lowerUrl portUrl := by
  have sameHost : SameHost asciiInterpreter lowerUrl portUrl :=
    ⟨"shop.example.com", by rfl, by rfl⟩
  have asked : asksLogin lowerUrl = some true := by decide +kernel
  have hidden : asksLogin portUrl = some false := by decide +kernel
  refine ⟨sameHost, asked, hidden, fun looksUp => ?_⟩
  have same : asksLogin portUrl = asksLogin lowerUrl := by
    rw [asksLogin, asksLogin, looksUp.same sameHost]
  rw [asked, hidden] at same
  cases same

end Sample

end SthBoring.Crawler.DomainLookup
