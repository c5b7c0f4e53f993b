/- Module: SthBoring/Crawler/CacheKeys
   source: agent_crawler/fetch/result_cache.py
   digest: Which requests the keys of the result cache keep apart. -/

import SthBoring.Crawler.Caching
import SthBoring.Lib.Segments

set_option autoImplicit false
set_option relaxedAutoImplicit false

namespace SthBoring.Crawler.CacheKeys

open SthBoring.Crawler.Caching (makeKey)
open SthBoring.Crawler.Models
open SthBoring.Lib.PyValue (joinWith)
open SthBoring.Lib.Segments

/-- Two requests with their plans that a cache may answer alike. -/
structure Agree (r : CrawlRequest) (p : CrawlPlan) (r' : CrawlRequest) (p' : CrawlPlan) : Prop where
  url : r.url = r'.url
  query : r.query.getD "" = r'.query.getD ""
  authProfileId : r.authProfileId = r'.authProfileId
  transport : p.transport = p'.transport
  extractKind : p.extractKind = p'.extractKind
  adapterName : p.adapterName.getD "" = p'.adapterName.getD ""

abbrev parts (s : String) : List (List Char) := segments '|' s

/-- Between two separators the name holds a transport and an extractor, as a key has them. -/
def Shifts (name : String) : Prop :=
  ∃ (transport : TransportKind) (kind : ExtractKind) (before after : List (List Char)),
    after ≠ [] ∧ parts name = before ++ transport.value.toList :: kind.value.toList :: after

/-- The key can be read in one way only: no separator in the texts of the request, and none in the
name of the adapter that would let the key be read further on. -/
structure Unambiguous (r : CrawlRequest) (p : CrawlPlan) : Prop where
  url : '|' ∉ r.url.toList
  query : '|' ∉ (r.query.getD "").toList
  authProfileId : '|' ∉ r.authProfileId.toList
  adapterName : ¬ Shifts (p.adapterName.getD "")

section Key

/-- The segments of a key, by field. -/
def keyParts (url query auth : List (List Char)) (transport : TransportKind) (kind : ExtractKind)
    (adapter : List (List Char)) : List (List Char) :=
  url ++ (query ++ (auth ++ transport.value.toList :: kind.value.toList :: adapter))

theorem parts_join (s t : String) : parts (s ++ "|" ++ t) = parts s ++ parts t := by
  apply segments_join
  rw [String.toList_append, String.toList_append, List.append_assoc]
  rfl

theorem parts_transport (transport : TransportKind) :
    parts transport.value = [transport.value.toList] := by
  apply segments_of_notMem
  cases transport <;> decide

theorem parts_kind (kind : ExtractKind) : parts kind.value = [kind.value.toList] := by
  apply segments_of_notMem
  cases kind <;> decide

theorem parts_makeKey (r : CrawlRequest) (p : CrawlPlan) :
    parts (makeKey r p) = keyParts (parts r.url) (parts (r.query.getD ""))
      (parts r.authProfileId) p.transport p.extractKind (parts (p.adapterName.getD "")) := by
  simp only [makeKey, joinWith, parts_join, parts_transport, parts_kind, keyParts,
    List.singleton_append]

theorem transport_ne_kind (transport : TransportKind) (kind : ExtractKind) :
    transport.value.toList ≠ kind.value.toList := by
  cases transport <;> cases kind <;> decide

theorem transport_injective {t t' : TransportKind} (h : t.value.toList = t'.value.toList) :
    t = t' := by
  cases t <;> cases t' <;> first | rfl | exact absurd h (by decide)

theorem kind_injective {e e' : ExtractKind} (h : e.value.toList = e'.value.toList) : e = e' := by
  cases e <;> cases e' <;> first | rfl | exact absurd h (by decide)

/-- What a second key has in front of its transport, when the first has one segment for each of
its texts: the same three segments, or these and more. -/
theorem keyParts_cases {url query auth : List Char} {t t' : TransportKind} {e e' : ExtractKind}
    {adapter front adapter' : List (List Char)} (long : 3 ≤ front.length)
    (h : [url, query, auth] ++ t.value.toList :: e.value.toList :: adapter =
      front ++ t'.value.toList :: e'.value.toList :: adapter') :
    (front = [url, query, auth] ∧ t' = t ∧ e' = e ∧ adapter' = adapter) ∨
      ∃ before, adapter = before ++ t'.value.toList :: e'.value.toList :: adapter' := by
  have shape : ∃ more, front = [url, query, auth] ++ more ∧
      t.value.toList :: e.value.toList :: adapter =
        more ++ t'.value.toList :: e'.value.toList :: adapter' := by
    rcases List.append_eq_append_iff.mp h with ⟨more, split, rest⟩ | ⟨more, split, rest⟩
    · exact ⟨more, split, rest⟩
    · have nothing : more = [] := by
        have lengths := congrArg List.length split
        simp only [List.length_append, List.length_cons, List.length_nil] at lengths
        exact List.length_eq_zero_iff.mp (by omega)
      subst nothing
      rw [List.append_nil] at split
      exact ⟨[], by simpa using split.symm, by simpa using rest.symm⟩
  obtain ⟨more, rfl, rest⟩ := shape
  rcases more with _ | ⟨x, _ | ⟨y, more⟩⟩
  · obtain ⟨sameTransport, rest⟩ := List.cons.inj rest
    obtain ⟨sameKind, sameAdapter⟩ := List.cons.inj rest
    exact Or.inl ⟨List.append_nil _, (transport_injective sameTransport).symm,
      (kind_injective sameKind).symm, sameAdapter.symm⟩
  · -- the transport of the second key stands where the first has its extractor
    obtain ⟨-, rest⟩ := List.cons.inj rest
    exact absurd (List.cons.inj rest).1.symm (transport_ne_kind t' e)
  · obtain ⟨-, rest⟩ := List.cons.inj rest
    exact Or.inr ⟨more, (List.cons.inj rest).2⟩

end Key

section Separation

variable {r r' : CrawlRequest} {p p' : CrawlPlan}

theorem key_eq_iff : makeKey r p = makeKey r' p' ↔
    keyParts (parts r.url) (parts (r.query.getD "")) (parts r.authProfileId) p.transport
        p.extractKind (parts (p.adapterName.getD "")) =
      keyParts (parts r'.url) (parts (r'.query.getD "")) (parts r'.authProfileId) p'.transport
        p'.extractKind (parts (p'.adapterName.getD "")) := by
  rw [← parts_makeKey, ← parts_makeKey]
  exact ⟨congrArg parts, segments_injective⟩

theorem parts_ne_nil (s : String) : parts s ≠ [] := segments_ne_nil s

theorem agree_of_unambiguous (plain : Unambiguous r p) (same : makeKey r p = makeKey r' p') :
    Agree r p r' p' := by
  have key := key_eq_iff.mp same
  have url : parts r.url = [r.url.toList] := segments_of_notMem plain.url
  have query : parts (r.query.getD "") = [(r.query.getD "").toList] :=
    segments_of_notMem plain.query
  have auth : parts r.authProfileId = [r.authProfileId.toList] :=
    segments_of_notMem plain.authProfileId
  obtain ⟨u, us, url'⟩ := List.exists_cons_of_ne_nil (parts_ne_nil r'.url)
  obtain ⟨q, qs, query'⟩ := List.exists_cons_of_ne_nil (parts_ne_nil (r'.query.getD ""))
  obtain ⟨a, as, auth'⟩ := List.exists_cons_of_ne_nil (parts_ne_nil r'.authProfileId)
  rw [url, query, auth, url', query', auth', keyParts, keyParts, ← List.append_assoc (q :: qs),
    ← List.append_assoc (u :: us)] at key
  have long : 3 ≤ (u :: us ++ (q :: qs ++ a :: as)).length := by
    simp only [List.length_append, List.length_cons]
    omega
  rcases keyParts_cases long key with ⟨front, transport, kind, adapter⟩ | ⟨before, shifted⟩
  · have lengths := congrArg List.length front
    simp only [List.length_append, List.length_cons, List.length_nil] at lengths
    obtain rfl : us = [] := List.length_eq_zero_iff.mp (by omega)
    obtain rfl : qs = [] := List.length_eq_zero_iff.mp (by omega)
    obtain rfl : as = [] := List.length_eq_zero_iff.mp (by omega)
    simp only [List.cons_append, List.nil_append, List.cons.injEq, and_true] at front
    obtain ⟨sameUrl, sameQuery, sameAuth⟩ := front
    exact
      { url := segments_injective (url.trans (sameUrl ▸ url'.symm))
        query := segments_injective (query.trans (sameQuery ▸ query'.symm))
        authProfileId := segments_injective (auth.trans (sameAuth ▸ auth'.symm))
        transport := transport.symm
        extractKind := kind.symm
        adapterName := segments_injective adapter.symm }
  · exact absurd ⟨p'.transport, p'.extractKind, before, _, parts_ne_nil _, shifted⟩
      plain.adapterName

/-- The segments of some text. -/
def OfText (ls : List (List Char)) : Prop := ls ≠ [] ∧ ∀ l ∈ ls, '|' ∉ l

theorem ofText_parts (s : String) : OfText (parts s) :=
  ⟨parts_ne_nil s, fun _ => notMem_of_mem_segments⟩

theorem OfText.text {ls : List (List Char)} (h : OfText ls) : ∃ s, parts s = ls :=
  ⟨ofSegments '|' ls, segments_ofSegments h.1 h.2⟩

theorem OfText.split {before after : List (List Char)} (h : OfText (before ++ after)) :
    (before ≠ [] → OfText before) ∧ (after ≠ [] → OfText after) :=
  ⟨fun nonempty => ⟨nonempty, fun l hl => h.2 l (List.mem_append_left after hl)⟩,
    fun nonempty => ⟨nonempty, fun l hl => h.2 l (List.mem_append_right before hl)⟩⟩

theorem OfText.append {ls ks : List (List Char)} (h : OfText ls) (h' : OfText ks) :
    OfText (ls ++ ks) := by
  refine ⟨List.append_ne_nil_of_left_ne_nil h.1 ks, fun l hl => ?_⟩
  rcases List.mem_append.mp hl with left | right
  · exact h.2 l left
  · exact h'.2 l right

/-- A text with a separator in it falls into two texts. -/
theorem two_texts {s : String} (h : '|' ∈ s.toList) :
    ∃ first rest, OfText [first] ∧ OfText rest ∧ parts s = [first] ++ rest := by
  obtain ⟨first, second, rest, split⟩ := two_segments_of_mem h
  have texts : OfText ([first] ++ second :: rest) := by
    have all := ofText_parts s
    rw [parts, split] at all
    exact all
  exact ⟨first, second :: rest, texts.split.1 (List.cons_ne_nil _ _),
    texts.split.2 (List.cons_ne_nil _ _), split⟩

/-- Where a request is kept apart from all others, its key cannot be read in another way. -/
theorem reading_unique (separates : ∀ r' p', makeKey r p = makeKey r' p' → Agree r p r' p')
    {url query auth adapter : List (List Char)} {t : TransportKind} {e : ExtractKind}
    (urls : OfText url) (queries : OfText query) (auths : OfText auth) (adapters : OfText adapter)
    (same : keyParts (parts r.url) (parts (r.query.getD "")) (parts r.authProfileId) p.transport
      p.extractKind (parts (p.adapterName.getD "")) = keyParts url query auth t e adapter) :
    parts r.url = url ∧ parts (r.query.getD "") = query ∧ parts r.authProfileId = auth := by
  obtain ⟨url', rfl⟩ := urls.text
  obtain ⟨query', rfl⟩ := queries.text
  obtain ⟨auth', rfl⟩ := auths.text
  obtain ⟨adapter', rfl⟩ := adapters.text
  let other : CrawlRequest := { url := url', query := some query', authProfileId := auth' }
  let otherPlan : CrawlPlan := { transport := t, extractKind := e, adapterName := some adapter' }
  have agree : Agree r p other otherPlan := separates other otherPlan (key_eq_iff.mpr same)
  exact ⟨congrArg parts agree.url, congrArg parts agree.query, congrArg parts agree.authProfileId⟩

theorem unambiguous_of_separates
    (separates : ∀ r' p', makeKey r p = makeKey r' p' → Agree r p r' p') : Unambiguous r p where
  url inside := by
    obtain ⟨first, rest, front, back, split⟩ := two_texts inside
    have reading := reading_unique separates front (back.append (ofText_parts (r.query.getD "")))
      (ofText_parts r.authProfileId) (ofText_parts (p.adapterName.getD "")) (t := p.transport)
      (e := p.extractKind) (by
        rw [split]
        simp only [keyParts, List.append_assoc])
    have same := reading.1
    rw [split] at same
    exact back.1 (List.cons.inj same).2
  query inside := by
    obtain ⟨first, rest, front, back, split⟩ := two_texts inside
    have reading := reading_unique separates (ofText_parts r.url) front
      (back.append (ofText_parts r.authProfileId)) (ofText_parts (p.adapterName.getD ""))
      (t := p.transport) (e := p.extractKind) (by
        rw [split]
        simp only [keyParts, List.append_assoc])
    have same := reading.2.1
    rw [split] at same
    exact back.1 (List.cons.inj same).2
  authProfileId inside := by
    obtain ⟨first, rest, front, back, split⟩ := two_texts inside
    have reading := reading_unique separates (ofText_parts r.url)
      ((ofText_parts (r.query.getD "")).append front) back
      (ofText_parts (p.adapterName.getD "")) (t := p.transport) (e := p.extractKind) (by
        rw [split]
        simp only [keyParts, List.append_assoc])
    have lengths := congrArg List.length reading.2.2
    rw [split, List.length_append, List.length_singleton] at lengths
    omega
  adapterName := by
    rintro ⟨t, e, before, after, nonempty, split⟩
    have texts : OfText ((before ++ [t.value.toList, e.value.toList]) ++ after) := by
      have all := ofText_parts (p.adapterName.getD "")
      rw [split] at all
      simpa using all
    have back := texts.split.2 nonempty
    have middle : OfText (parts r.authProfileId ++
        (p.transport.value.toList :: p.extractKind.value.toList :: before)) := by
      refine (ofText_parts r.authProfileId).append ⟨List.cons_ne_nil _ _, fun l hl => ?_⟩
      rcases List.mem_cons.mp hl with rfl | hl
      · exact (parts_transport p.transport ▸ ofText_parts p.transport.value).2 _
          List.mem_cons_self
      · rcases List.mem_cons.mp hl with rfl | hl
        · exact (parts_kind p.extractKind ▸ ofText_parts p.extractKind.value).2 _
            List.mem_cons_self
        · exact texts.2 l (by simp [hl])
    have same := (reading_unique separates (ofText_parts r.url) (ofText_parts (r.query.getD ""))
      middle back (t := t) (e := e) (by
        rw [split]
        simp only [keyParts, List.append_assoc, List.cons_append])).2.2
    have lengths := congrArg List.length same
    rw [List.length_append, List.length_cons] at lengths
    omega

end Separation

/-- **Cache keys.** A request with its plan is kept apart from every other that it does not agree
with, exactly when its key can be read in one way only. -/
theorem key_separates_iff (r : CrawlRequest) (p : CrawlPlan) :
    (∀ r' p', makeKey r p = makeKey r' p' → Agree r p r' p') ↔ Unambiguous r p := by
  constructor
  · exact unambiguous_of_separates
  · intro plain r' p' same
    exact agree_of_unambiguous plain same

section Example

def plainPlan : CrawlPlan where
  transport := .http
  extractKind := .universal

/-- Two profiles for which one page is cached. -/
theorem one_key_for_two_profiles :
    ∃ r r' : CrawlRequest, makeKey r plainPlan = makeKey r' plainPlan ∧
      r.authProfileId ≠ r'.authProfileId ∧ ¬ Agree r plainPlan r' plainPlan := by
  refine ⟨{ url := "https://a.test/", query := some "q|alice", authProfileId := "bob" },
    { url := "https://a.test/", query := some "q", authProfileId := "alice|bob" }, ?_, ?_, ?_⟩
  · decide
  · decide
  · exact fun agree => absurd agree.authProfileId (by decide)

end Example

end SthBoring.Crawler.CacheKeys
