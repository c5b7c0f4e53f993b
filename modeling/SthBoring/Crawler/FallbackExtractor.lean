/- Module: SthBoring/Crawler/FallbackExtractor
   source: agent_crawler/extract/universal.py
   digest: The text, the title and the links that are read off the markup of a page. -/

import SthBoring.Crawler.Runner
import SthBoring.Lib.Nesting
import SthBoring.WebKit.CleanText

set_option autoImplicit false
set_option relaxedAutoImplicit false

namespace SthBoring.Crawler.FallbackExtractor

open SthBoring.Lib.Effect (Computation)
open SthBoring.Lib.Nesting
open SthBoring.Lib.PyValue (PyExc isSpace joinWith)
open SthBoring.Lib.UrlParse (Interpreter asciiInterpreter)
open SthBoring.Lib.WhiteSpace
open SthBoring.WebKit.Clean
open SthBoring.WebKit.CleanText

section Parser

/-- One call of a handler. -/
inductive Markup where
  | startTag (tag : String) (attrs : List (String × Option String))
  | endTag (tag : String)
  | data (data : String)

structure FallbackHtmlParser where
  baseUrl : String
  titleParts : List String := []
  textParts : List String := []
  links : List String := []
  skipDepth : ℕ := 0
  inTitle : Bool := false

/-- What is used of the standard library: the calls that `HTMLParser.feed` makes for a text, with
what it raises behind them, and `urljoin`. -/
structure Library where
  py : Interpreter
  tokenize : String → List Markup × Option PyExc
  urljoin : String → String → Except PyExc String

def skippedTags : List String := ["script", "style", "noscript", "svg", "canvas"]

def blockTags : List String := ["p", "div", "section", "article", "main", "h1", "h2", "h3", "li"]

/-- The `href` of an anchor, unless it leads nowhere else. -/
def hrefOf (py : Interpreter) (attrs : List (String × Option String)) : Option String :=
  -- `dict(attrs)` keeps the last of several
  let href := Lib.PyValue.strip ((attrs.reverse.lookup "href").join.getD "")
  if href = "" ∨ "#".toList.isPrefixOf href.toList ∨
      "javascript:".toList.isPrefixOf (py.lower href).toList then none
  else some href

/-- The links of a tag: one, or none. -/
def anchorLinks (py : Interpreter) (tag : String) (attrs : List (String × Option String)) :
    List String :=
  if tag = "a" then (hrefOf py attrs).toList else []

variable (lib : Library)

def handleStarttag (p : FallbackHtmlParser) (tag : String) (attrs : List (String × Option String)) :
    Except PyExc FallbackHtmlParser := do
  let tag := lib.py.lower tag
  if tag ∈ skippedTags then return { p with skipDepth := p.skipDepth + 1 }
  let joined ← (anchorLinks lib.py tag attrs).mapM (lib.urljoin p.baseUrl)
  return { p with
    inTitle := if tag = "title" then true else p.inTitle
    links := p.links ++ joined
    textParts := if tag ∈ blockTags ∨ tag = "br" then p.textParts ++ ["\n"] else p.textParts }

def handleEndtag (p : FallbackHtmlParser) (tag : String) : FallbackHtmlParser :=
  let tag := lib.py.lower tag
  if p.skipDepth ≠ 0 ∧ tag ∈ skippedTags then { p with skipDepth := p.skipDepth - 1 }
  else { p with
    inTitle := if tag = "title" then false else p.inTitle
    textParts := if tag ∈ blockTags then p.textParts ++ ["\n"] else p.textParts }

def handleData (p : FallbackHtmlParser) (data : String) : FallbackHtmlParser :=
  if p.skipDepth ≠ 0 then p
  else { p with
    titleParts := if p.inTitle then p.titleParts ++ [data] else p.titleParts
    textParts := p.textParts ++ [data] }

def handle (p : FallbackHtmlParser) : Markup → Except PyExc FallbackHtmlParser
  | .startTag tag attrs => handleStarttag lib p tag attrs
  | .endTag tag => return handleEndtag lib p tag
  | .data data => return handleData p data

/-- The calls of `feed`, one after the other. -/
def handleAll (url : String) (calls : List Markup) : Except PyExc FallbackHtmlParser :=
  calls.foldlM (handle lib) { baseUrl := url }

end Parser

section Document

/-- `re.sub(r"\\s+", " ", text)`, inside a run or not. -/
def collapseWhite (inRun : Bool) : List Char → List Char
  | [] => []
  | c :: cs =>
    if isSpace c then
      if inRun then collapseWhite true cs else ' ' :: collapseWhite true cs
    else c :: collapseWhite false cs

def titleOf (parts : List String) : Option String :=
  let title := strip chars (collapseWhite false (joinWith " " parts).toList)
  if title = [] then none else some (String.ofList title)

def textOf (parts : List String) : String :=
  String.ofList
    (strip chars (collapseNewlines 0 (collapseSpaces false (joinWith "" parts).toList)))

def FallbackHtmlParser.document (p : FallbackHtmlParser) (url : String) : Document where
  url := url
  title := titleOf p.titleParts
  text := textOf p.textParts
  links := p.links

/-- The end of `UniversalExtractor.extract`, where nothing better is at hand. -/
def extractFallback (lib : Library) (html url : String) : Except PyExc Document := do
  let parser ← handleAll lib url (lib.tokenize html).1
  match (lib.tokenize html).2 with
  | some exc => throw exc
  | none => return parser.document url

variable {σ : Type}

/-- An extractor of its own, and the one of `webkit` where `selectolax` is installed. -/
structure UniversalExtractor (σ : Type) where
  extractor : Option (String → String → Computation σ PyExc Document) := none
  selectolax : Option (String → String → Computation σ PyExc Document) := none

def UniversalExtractor.extract (self : UniversalExtractor σ) (lib : Library) (html url : String) :
    Computation σ PyExc Document :=
  match self.extractor, self.selectolax with
  | some extractor, _ => extractor html url
  | none, some htmlExtractor => htmlExtractor html url
  | none, none => Computation.lift (extractFallback lib html url)

end Document

section Calls

variable (py : Interpreter)

/-- The tags whose inside is skipped. -/
def skipping : Brackets Markup where
  opens
    | .startTag tag _ => py.lower tag ∈ skippedTags
    | _ => false
  closes
    | .endTag tag => py.lower tag ∈ skippedTags
    | _ => false
  apart := by
    intro call opening
    cases call with
    | startTag tag attrs => rfl
    | endTag tag => cases opening
    | data data => cases opening

/-- More of the tags that are skipped have been opened last than closed. -/
def hidden (before : List Markup) : Bool := (skipping py).unclosed before

/-- A title's start or its end. -/
def titleCall : Markup → Option Bool
  | .startTag tag _ => if py.lower tag = "title" then some true else none
  | .endTag tag => if py.lower tag = "title" then some false else none
  | .data _ => none

/-- The last that was said of a title is that it starts. -/
def titled (before : List Markup) : Bool := (before.filterMap (titleCall py)).getLast?.getD false

/-- What is gathered of each call in turn, by what was called before. -/
def gather {β : Type} (f : List Markup → Markup → List β) (before : List Markup) :
    List Markup → List β
  | [] => []
  | call :: calls => f before call ++ gather f (before ++ [call]) calls

/-- Data that is not hidden. -/
def shownAt (before : List Markup) : Markup → List String
  | .startTag _ _ => []
  | .endTag _ => []
  | .data data => if hidden py before then [] else [data]

def titleAt (before : List Markup) (call : Markup) : List String :=
  if titled py before then shownAt py before call else []

/-- Data that is not hidden, and the ends of blocks. -/
def textAt (before : List Markup) : Markup → List String
  | .startTag tag _ => if py.lower tag ∈ blockTags ∨ py.lower tag = "br" then ["\n"] else []
  | .endTag tag => if py.lower tag ∈ blockTags then ["\n"] else []
  | .data data => shownAt py before (.data data)

/-- The links of anchors, hidden or not. -/
def hrefs : Markup → List String
  | .startTag tag attrs => anchorLinks py (py.lower tag) attrs
  | .endTag _ => []
  | .data _ => []

end Calls

section Handled

variable {lib : Library} {py : Interpreter}

theorem hidden_iff {before : List Markup} :
    hidden py before = true ↔ (skipping py).depth before ≠ 0 :=
  unclosed_iff.trans Nat.pos_iff_ne_zero

theorem gather_append {β : Type} (f : List Markup → Markup → List β)
    (before calls calls' : List Markup) :
    gather f before (calls ++ calls') = gather f before calls ++ gather f (before ++ calls) calls' := by
  induction calls generalizing before with
  | nil => rw [List.nil_append, List.append_nil]; rfl
  | cons call calls ih =>
    rw [List.cons_append, gather, gather, ih, List.append_assoc, List.append_assoc,
      List.singleton_append]

theorem gather_concat {β : Type} (f : List Markup → Markup → List β) (calls : List Markup)
    (call : Markup) : gather f [] (calls ++ [call]) = gather f [] calls ++ f calls call := by
  rw [gather_append, List.nil_append, gather, gather, List.append_nil]

theorem titled_concat (calls : List Markup) (call : Markup) :
    titled py (calls ++ [call]) = (titleCall py call).getD (titled py calls) := by
  rw [titled, List.filterMap_append]
  cases said : titleCall py call <;> simp [titled, said]

theorem apart_of_skipped {tag : String} (skipped : tag ∈ skippedTags) :
    tag ∉ blockTags ∧ tag ≠ "br" ∧ tag ≠ "title" ∧ tag ≠ "a" := by
  revert tag
  decide

@[simp] theorem next_startTag (d : ℕ) (tag : String) (attrs : List (String × Option String)) :
    (skipping py).next d (.startTag tag attrs) =
      if py.lower tag ∈ skippedTags then d + 1 else d := by
  simp [Brackets.next, skipping]

@[simp] theorem next_endTag (d : ℕ) (tag : String) :
    (skipping py).next d (.endTag tag) = if py.lower tag ∈ skippedTags then d - 1 else d := by
  simp [Brackets.next, skipping]

@[simp] theorem next_data (d : ℕ) (data : String) : (skipping py).next d (.data data) = d := rfl

/-- What the parser holds behind some calls. -/
def parsed (py : Interpreter) (url : String) (calls : List Markup) (links : List String) :
    FallbackHtmlParser where
  baseUrl := url
  titleParts := gather (titleAt py) [] calls
  textParts := gather (textAt py) [] calls
  links := links
  skipDepth := (skipping py).depth calls
  inTitle := titled py calls

theorem parsed_concat (url : String) (calls : List Markup) (links : List String) (call : Markup) :
    parsed py url (calls ++ [call]) links =
      { baseUrl := url
        titleParts := gather (titleAt py) [] calls ++ titleAt py calls call
        textParts := gather (textAt py) [] calls ++ textAt py calls call
        links := links
        skipDepth := (skipping py).next ((skipping py).depth calls) call
        inTitle := (titleCall py call).getD (titled py calls) } := by
  rw [parsed, gather_concat, gather_concat, titled_concat, depth_concat]

theorem handleStarttag_parsed (url : String) (calls : List Markup) (links : List String)
    (tag : String) (attrs : List (String × Option String)) :
    handleStarttag lib (parsed lib.py url calls links) tag attrs =
      (fun more => parsed lib.py url (calls ++ [.startTag tag attrs]) (links ++ more)) <$>
        (hrefs lib.py (.startTag tag attrs)).mapM (lib.urljoin url) := by
  by_cases skipped : lib.py.lower tag ∈ skippedTags
  · obtain ⟨block, br, title, anchor⟩ := apart_of_skipped skipped
    rw [handleStarttag, if_pos skipped, hrefs, anchorLinks, if_neg anchor]
    simp only [parsed_concat]
    simp [parsed, titleAt, textAt, shownAt, titleCall, skipped, block, br, title]
  · rw [handleStarttag, if_neg skipped, hrefs, map_eq_pure_bind]
    congr 1
    funext more
    simp only [parsed_concat]
    simp only [parsed, titleAt, textAt, shownAt, titleCall, next_startTag,
      if_neg skipped, ite_self, List.append_nil]
    congr 2 <;> split <;> simp_all

theorem handleEndtag_parsed (url : String) (calls : List Markup) (links : List String)
    (tag : String) :
    handleEndtag lib (parsed lib.py url calls links) tag =
      parsed lib.py url (calls ++ [.endTag tag]) links := by
  rw [parsed_concat, handleEndtag]
  by_cases skipped : lib.py.lower tag ∈ skippedTags
  · obtain ⟨block, br, title, anchor⟩ := apart_of_skipped skipped
    by_cases shut : (skipping lib.py).depth calls = 0
    · simp [parsed, titleAt, textAt, shownAt, titleCall, skipped, block, title, shut]
    · simp [parsed, titleAt, textAt, shownAt, titleCall, skipped, block, title, shut]
  · simp only [skipped, and_false, if_false, parsed, titleAt, textAt, shownAt, titleCall, next_endTag]
    congr 1 <;> split <;> simp_all

theorem handleData_parsed (url : String) (calls : List Markup) (links : List String)
    (data : String) :
    handleData (parsed py url calls links) data =
      parsed py url (calls ++ [.data data]) links := by
  rw [parsed_concat, handleData]
  by_cases skip : (skipping py).depth calls = 0
  · have shown : hidden py calls = false := by
      rw [← Bool.not_eq_true, hidden_iff, not_not]
      exact skip
    simp only [parsed, skip, ne_eq, not_true_eq_false, if_false, titleAt, textAt, shownAt, shown,
      titleCall, next_data, Option.getD_none]
    congr 1
    split <;> simp_all
  · have shut := hidden_iff.mpr skip
    simp [parsed, skip, titleAt, textAt, shownAt, shut, titleCall]

/-- The parser is what its calls say: it may only fail to join a link. -/
theorem handleAll_eq (url : String) (calls : List Markup) :
    handleAll lib url calls =
      parsed lib.py url calls <$> (calls.flatMap (hrefs lib.py)).mapM (lib.urljoin url) := by
  induction calls using List.reverseRecOn with
  | nil => rfl
  | append_singleton calls call ih =>
    rw [handleAll] at ih
    rw [handleAll, List.foldlM_append, ih, List.flatMap_append, List.mapM_append,
      List.flatMap_singleton]
    cases joined : (calls.flatMap (hrefs lib.py)).mapM (lib.urljoin url) with
    | error exc => rfl
    | ok links =>
      have step : handle lib (parsed lib.py url calls links) call =
          (fun more => parsed lib.py url (calls ++ [call]) (links ++ more)) <$>
            (hrefs lib.py call).mapM (lib.urljoin url) := by
        cases call with
        | startTag tag attrs => exact handleStarttag_parsed url calls links tag attrs
        | endTag tag =>
          rw [handle, handleEndtag_parsed, hrefs, List.mapM_nil, map_pure, List.append_nil]
        | data data =>
          rw [handle, handleData_parsed, hrefs, List.mapM_nil, map_pure, List.append_nil]
      change handle lib (parsed lib.py url calls links) call >>= pure = _
      rw [bind_pure, step]
      cases (hrefs lib.py call).mapM (lib.urljoin url) <;> rfl

end Handled

section Texts

/-- A title as it should be: one space where there was white space. -/
structure OneSpaced (text : List Char) : Prop where
  trimmed : strip chars text = text
  spaced : text.IsChain Apart
  blanks : ∀ c ∈ text, isSpace c = true → c = ' '

/-- A text as it should be: at most one space in a row, and at most one empty line. -/
structure Spread (text : List Char) : Prop where
  trimmed : strip chars text = text
  spaced : text.IsChain Apart
  noTab : '\t' ∉ text
  spread : ¬ ['\n', '\n', '\n'] <:+: text

/-- No title where there is nothing but white space. -/
inductive TitleIs (visible : List Char) : Option String → Prop where
  | none (blank : visible = []) : TitleIs visible none
  | some {title : String} (shown : visible ≠ []) (oneSpaced : OneSpaced title.toList)
      (ink : ink chars title.toList = visible) : TitleIs visible (some title)

theorem ink_collapseWhite (inRun : Bool) (text : List Char) :
    ink chars (collapseWhite inRun text) = ink chars text := by
  fun_induction collapseWhite inRun text with
  | case1 => rfl
  | case2 c cs space ih => rw [ih, ink_cons_of_space (A := chars) space]
  | case3 inRun c cs space _ ih =>
    rw [ink_cons_of_space (A := chars) rfl, ih, ink_cons_of_space (A := chars) space]
  | case4 inRun c cs visible ih =>
    have other : chars.isSpace c = false := Bool.eq_false_iff.mpr visible
    rw [ink_cons_of_not_space other, ink_cons_of_not_space other, ih]

theorem isSpace_of_blank {c : Char} (blank : c = ' ' ∨ c = '\t') : chars.isSpace c = true := by
  rcases blank with rfl | rfl <;> rfl

theorem ink_collapseSpaces (inRun : Bool) (text : List Char) :
    ink chars (collapseSpaces inRun text) = ink chars text := by
  fun_induction collapseSpaces inRun text with
  | case1 => rfl
  | case2 c cs blank ih => rw [ih, ink_cons_of_space (isSpace_of_blank blank)]
  | case3 inRun c cs blank _ ih =>
    rw [ink_cons_of_space (A := chars) rfl, ih, ink_cons_of_space (isSpace_of_blank blank)]
  | case4 inRun c cs other ih =>
    change ink chars ([c] ++ collapseSpaces false cs) = ink chars ([c] ++ cs)
    rw [ink_append, ink_append, ih]

theorem ink_collapseNewlines (run : ℕ) (text : List Char) :
    ink chars (collapseNewlines run text) = ink chars text := by
  fun_induction collapseNewlines run text with
  | case1 => rfl
  | case2 run cs few ih =>
    rw [ink_cons_of_space (A := chars) rfl, ih, ink_cons_of_space (A := chars) rfl]
  | case3 run cs many ih => rw [ih, ink_cons_of_space (A := chars) rfl]
  | case4 run c cs other ih =>
    change ink chars ([c] ++ collapseNewlines 0 cs) = ink chars ([c] ++ cs)
    rw [ink_append, ink_append, ih]

theorem ink_joinWith {sep : String} (blank : ink chars sep.toList = []) (parts : List String) :
    ink chars (joinWith sep parts).toList = parts.flatMap (fun part => ink chars part.toList) := by
  fun_induction joinWith sep parts with
  | case1 => rfl
  | case2 part => rw [List.flatMap_singleton]
  | case3 part next parts ih =>
    rw [String.toList_append, String.toList_append, ink_append, ink_append, blank, List.append_nil, ih]
    rfl

/-- What does not hold a letter occurs on one side of it. -/
theorem infix_append_cons {α : Type} {s xs ys : List α} {c : α} (occurs : s <:+: xs ++ c :: ys)
    (other : c ∉ s) : s <:+: xs ∨ s <:+: ys := by
  obtain ⟨front, back, split⟩ := occurs
  rcases List.append_eq_append_iff.mp split with ⟨between, whole, -⟩ | ⟨between, whole, rest⟩
  · exact .inl ⟨front, between, by rw [← whole]⟩
  · cases between with
    | nil => exact .inl ⟨front, [], by rw [List.append_nil, whole, List.append_nil]⟩
    | cons d between =>
      obtain ⟨rfl, rfl⟩ := List.cons.inj rest
      rcases List.append_eq_append_iff.mp whole with ⟨inside, -, holds⟩ | ⟨inside, -, holds⟩
      · exact absurd (holds ▸ List.mem_append_right inside List.mem_cons_self) other
      · cases inside with
        | nil =>
          rw [List.nil_append] at holds
          exact absurd (holds ▸ List.mem_cons_self) other
        | cons d inside =>
          obtain ⟨rfl, rfl⟩ := List.cons.inj holds
          exact .inr ⟨inside, back, rfl⟩

/-- Behind a run of newlines, what is collapsed goes on with as many as complete two. -/
theorem spread_collapseNewlines {run : ℕ} (few : run ≤ 2) (text : List Char) :
    ¬ ['\n', '\n', '\n'] <:+: List.replicate run '\n' ++ collapseNewlines run text := by
  fun_induction collapseNewlines run text with
  | case1 run =>
    intro occurs
    have short := occurs.length_le
    simp only [List.append_nil, List.length_replicate, List.length_cons, List.length_nil] at short
    omega
  | case2 run cs _ ih =>
    rw [List.append_cons, ← List.replicate_succ']
    exact ih (by omega)
  | case3 run cs many ih => exact ih few
  | case4 run c cs other ih =>
    intro occurs
    rcases infix_append_cons occurs (by simpa using other) with before | behind
    · have short := before.length_le
      simp only [List.length_replicate, List.length_cons, List.length_nil] at short
      omega
    · exact ih (by omega) behind

theorem collapseNewlines_sublist (run : ℕ) (text : List Char) :
    (collapseNewlines run text).Sublist text := by
  fun_induction collapseNewlines run text with
  | case1 => exact List.Sublist.refl _
  | case2 run cs _ ih => exact ih.cons_cons _
  | case3 run cs _ ih => exact ih.cons _
  | case4 run c cs _ ih => exact ih.cons_cons _

theorem head_collapseNewlines (text : List Char) :
    (collapseNewlines 0 text).head? = text.head? := by
  cases text with
  | nil => rfl
  | cons c cs =>
    rw [collapseNewlines]
    split
    · rename_i newline
      rw [if_pos (by decide), newline]
      rfl
    · rfl

/-- A newline is no space, so leaving some out keeps the spaces apart. -/
theorem spaced_collapseNewlines {run : ℕ} {text : List Char} (spaced : text.IsChain Apart) :
    (collapseNewlines run text).IsChain Apart := by
  fun_induction collapseNewlines run text with
  | case1 => exact List.IsChain.nil
  | case2 run cs _ ih =>
    refine List.isChain_cons.mpr ⟨?_, ih (List.isChain_cons.mp spaced).2⟩
    rintro b - ⟨newline, -⟩
    cases newline
  | case3 run cs _ ih => exact ih (List.isChain_cons.mp spaced).2
  | case4 run c cs _ ih =>
    obtain ⟨beside, chain⟩ := List.isChain_cons.mp spaced
    refine List.isChain_cons.mpr ⟨?_, ih chain⟩
    rw [head_collapseNewlines]
    exact beside

theorem strip_strip (text : List Char) : strip chars (strip chars text) = strip chars text := by
  rcases strip_eq_nil_or_stripped (A := chars) text with none | stripped
  · rw [none]
    rfl
  · exact stripped.strip_eq

theorem spread_textOf (parts : List String) : Spread (textOf parts).toList := by
  rw [textOf, String.toList_ofList]
  set collapsed := collapseSpaces false (joinWith "" parts).toList
  have spaced : collapsed.IsChain Apart := (spaced_collapseSpaces false _).1
  have noTab : '\t' ∉ collapsed := by
    intro tab
    rcases mem_collapseSpaces tab with space | ⟨-, other⟩
    · cases space
    · exact other rfl
  have inside := strip_inside (A := chars) (collapseNewlines 0 collapsed)
  exact {
    trimmed := strip_strip _
    spaced := List.IsChain.infix (spaced_collapseNewlines spaced) inside
    noTab := fun tab => noTab ((collapseNewlines_sublist 0 _).subset (inside.subset tab))
    spread := fun occurs => spread_collapseNewlines (Nat.zero_le 2) _ (occurs.trans inside) }

theorem ink_textOf (parts : List String) :
    ink chars (textOf parts).toList = parts.flatMap (fun part => ink chars part.toList) := by
  rw [textOf, String.toList_ofList, ink_strip, ink_collapseNewlines, ink_collapseSpaces,
    ink_joinWith rfl]

/-- Within a run of white space, the space that stands for it has been written already. -/
theorem spaced_collapseWhite (inRun : Bool) (text : List Char) :
    (collapseWhite inRun text).IsChain Apart ∧
      (inRun = true → (collapseWhite inRun text).head? ≠ some ' ') := by
  fun_induction collapseWhite inRun text with
  | case1 => exact ⟨List.IsChain.nil, fun _ => nofun⟩
  | case2 c cs _ ih => exact ih
  | case3 inRun c cs _ outside ih =>
    obtain ⟨chain, next⟩ := ih
    refine ⟨List.isChain_cons.mpr ⟨?_, chain⟩, fun inside => absurd inside outside⟩
    rintro b hb ⟨-, rfl⟩
    exact next rfl hb
  | case4 inRun c cs visible ih =>
    refine ⟨List.isChain_cons.mpr ⟨?_, ih.1⟩, ?_⟩
    · rintro b - ⟨rfl, -⟩
      exact visible rfl
    · intro _ first
      obtain rfl := Option.some.inj first
      exact visible rfl

theorem blanks_collapseWhite {inRun : Bool} {text : List Char} {c : Char}
    (mem : c ∈ collapseWhite inRun text) (space : isSpace c = true) : c = ' ' := by
  fun_induction collapseWhite inRun text with
  | case1 => cases mem
  | case2 a cs _ ih => exact ih mem
  | case3 inRun a cs _ _ ih => exact (List.mem_cons.mp mem).elim id ih
  | case4 inRun a cs visible ih =>
    rcases List.mem_cons.mp mem with rfl | later
    · exact absurd space visible
    · exact ih later

theorem titleIs_titleOf (parts : List String) :
    TitleIs (parts.flatMap (fun part => ink chars part.toList)) (titleOf parts) := by
  set collapsed := collapseWhite false (joinWith " " parts).toList
  have same : ink chars (strip chars collapsed) =
      parts.flatMap (fun part => ink chars part.toList) := by
    rw [ink_strip, ink_collapseWhite, ink_joinWith rfl]
  rw [← same]
  by_cases none : strip chars collapsed = []
  · have absent : titleOf parts = Option.none := if_pos none
    rw [absent, none]
    exact .none rfl
  · have present : titleOf parts = some (String.ofList (strip chars collapsed)) := if_neg none
    have inside := strip_inside (A := chars) collapsed
    rw [present]
    refine .some (stripped_strip none).ink_ne_nil ?_ (by rw [String.toList_ofList])
    rw [String.toList_ofList]
    exact {
      trimmed := strip_strip _
      spaced := List.IsChain.infix (spaced_collapseWhite false _).1 inside
      blanks := fun c mem space => blanks_collapseWhite (inside.subset mem) space }

end Texts

section Results

variable {lib : Library}

/-- The data of some calls that is not hidden. -/
def shown (py : Interpreter) (calls : List Markup) : List String := gather (shownAt py) [] calls

/-- The data of some calls that is a title's. -/
def titles (py : Interpreter) (calls : List Markup) : List String := gather (titleAt py) [] calls

/-- A document of what some calls show. -/
structure Extracted (lib : Library) (url : String) (calls : List Markup) (doc : Document) : Prop where
  address : doc.url = url
  links : (calls.flatMap (hrefs lib.py)).mapM (lib.urljoin url) = .ok doc.links
  text : Spread doc.text.toList
  visible : ink chars doc.text.toList =
    (shown lib.py calls).flatMap (fun data => ink chars data.toList)
  title : TitleIs ((titles lib.py calls).flatMap (fun data => ink chars data.toList)) doc.title

/-- The ends of blocks are white space. -/
theorem ink_gather_textAt (before calls : List Markup) :
    (gather (textAt lib.py) before calls).flatMap (fun part => ink chars part.toList) =
      (gather (shownAt lib.py) before calls).flatMap (fun data => ink chars data.toList) := by
  induction calls generalizing before with
  | nil => rfl
  | cons call calls ih =>
    rw [gather, gather, List.flatMap_append, List.flatMap_append, ih]
    congr 1
    cases call with
    | startTag tag attrs =>
      rw [textAt]
      split <;> rfl
    | endTag tag =>
      rw [textAt]
      split <;> rfl
    | data data => rfl

theorem extracted_parsed {url : String} {calls : List Markup} {links : List String}
    (joined : (calls.flatMap (hrefs lib.py)).mapM (lib.urljoin url) = .ok links) :
    Extracted lib url calls ((parsed lib.py url calls links).document url) where
  address := rfl
  links := joined
  text := spread_textOf _
  visible := (ink_textOf _).trans (ink_gather_textAt [] calls)
  title := titleIs_titleOf _

/-- How an extraction ends: with the document of its calls, or with what the first link that does
not join raises, or with what the tokenizer raises behind them. -/
inductive Ends (lib : Library) (html url : String) : Except PyExc Document → Prop where
  | document {doc : Document} (read : (lib.tokenize html).2 = none)
      (extracted : Extracted lib url (lib.tokenize html).1 doc) : Ends lib html url (.ok doc)
  | link {exc : PyExc} (apart : ((lib.tokenize html).1.flatMap (hrefs lib.py)).mapM
      (lib.urljoin url) = .error exc) : Ends lib html url (.error exc)
  | unread {exc : PyExc} {links : List String} (raised : (lib.tokenize html).2 = some exc)
      (joined : ((lib.tokenize html).1.flatMap (hrefs lib.py)).mapM (lib.urljoin url) = .ok links) :
      Ends lib html url (.error exc)

theorem ends_extractFallback (lib : Library) (html url : String) :
    Ends lib html url (extractFallback lib html url) := by
  rw [extractFallback, handleAll_eq]
  cases joined : ((lib.tokenize html).1.flatMap (hrefs lib.py)).mapM (lib.urljoin url) with
  | error exc => exact .link joined
  | ok links =>
    cases raised : (lib.tokenize html).2 with
    | some exc => exact .unread raised joined
    | none => exact .document raised (extracted_parsed joined)

variable {σ : Type}

/-- Whatever the tokenizer calls, and however badly the tags match: the text is the data behind which
no skipped tag stands open, the title is what of it the last title tag was a start for, and nothing
but white space is changed. It raises only what joining a link or the tokenizer raises. -/
theorem extracts (lib : Library) (html url : String) (w : σ) : ∃ result,
    ({} : UniversalExtractor σ).extract lib html url w = (result, w) ∧ Ends lib html url result := by
  refine ⟨extractFallback lib html url, ?_, ends_extractFallback lib html url⟩
  change Computation.lift (extractFallback lib html url) w = _
  cases extractFallback lib html url <;> rfl

end Results

section Pages

/-- Markup whose tags match: data, tags that nothing closes, and elements. -/
inductive Page where
  | nil
  | text (data : String) (rest : Page)
  | lone (tag : String) (attrs : List (String × Option String)) (rest : Page)
  | element (tag : String) (attrs : List (String × Option String)) (inner rest : Page)

namespace Page

def calls : Page → List Markup
  | nil => []
  | text data rest => .data data :: rest.calls
  | lone tag attrs rest => .startTag tag attrs :: rest.calls
  | element tag attrs inner rest => .startTag tag attrs :: inner.calls ++ .endTag tag :: rest.calls

variable (py : Interpreter)

/-- What is skipped is closed, and a title holds no other. -/
def Matched (inTitle : Bool) : Page → Prop
  | nil => True
  | text _ rest => rest.Matched inTitle
  | lone tag _ rest => py.lower tag ∉ skippedTags ∧ py.lower tag ≠ "title" ∧ rest.Matched inTitle
  | element tag _ inner rest =>
    (py.lower tag = "title" → inTitle = false) ∧
      inner.Matched (inTitle || py.lower tag == "title") ∧ rest.Matched inTitle

/-- The data of a page, apart from what is inside the elements that are skipped. -/
def shown (hidden : Bool) : Page → List String
  | nil => []
  | text data rest => (if hidden then [] else [data]) ++ rest.shown hidden
  | lone _ _ rest => rest.shown hidden
  | element tag _ inner rest =>
    inner.shown (hidden || py.lower tag ∈ skippedTags) ++ rest.shown hidden

/-- The data of a page inside its titles, apart from what is inside the elements that are skipped. -/
def titles (hidden inTitle : Bool) : Page → List String
  | nil => []
  | text data rest =>
    (if inTitle then (if hidden then [] else [data]) else []) ++ rest.titles hidden inTitle
  | lone _ _ rest => rest.titles hidden inTitle
  | element tag _ inner rest =>
    inner.titles (hidden || py.lower tag ∈ skippedTags) (inTitle || py.lower tag == "title") ++
      rest.titles hidden inTitle

end Page

variable {py : Interpreter}

theorem level_element {inner : List Markup} (level : (skipping py).Level inner) (tag : String)
    (attrs : List (String × Option String)) :
    (skipping py).Level (.startTag tag attrs :: inner ++ [.endTag tag]) := by
  by_cases skipped : py.lower tag ∈ skippedTags
  · exact level.enclosed (decide_eq_true skipped) (decide_eq_true skipped)
  · exact ((level_plain (decide_eq_false skipped) rfl).append level).append
      (level_plain rfl (decide_eq_false skipped))

theorem level_calls {page : Page} {inTitle : Bool} (matched : page.Matched py inTitle) :
    (skipping py).Level page.calls := by
  induction page generalizing inTitle with
  | nil => exact level_nil
  | text data rest ih => exact (level_plain rfl rfl).append (ih matched)
  | lone tag attrs rest ih =>
    obtain ⟨plain, -, later⟩ := matched
    exact (level_plain (decide_eq_false plain) rfl).append (ih later)
  | element tag attrs inner rest ihInner ihRest =>
    obtain ⟨-, inside, later⟩ := matched
    have whole := (level_element (ihInner inside) tag attrs).append (ihRest later)
    rw [List.append_assoc] at whole
    exact whole

theorem hidden_eq (before : List Markup) :
    hidden py before = decide ((skipping py).depth before ≠ 0) := by
  rw [Bool.eq_iff_iff, hidden_iff, decide_eq_true_eq]

theorem hidden_append {before calls : List Markup} (level : (skipping py).Level calls) :
    hidden py (before ++ calls) = hidden py before := by
  rw [hidden_eq, hidden_eq, level.depth_append]

theorem hidden_startTag (before : List Markup) (tag : String)
    (attrs : List (String × Option String)) :
    hidden py (before ++ [.startTag tag attrs]) =
      (hidden py before || decide (py.lower tag ∈ skippedTags)) := by
  rw [hidden_eq, hidden_eq, depth_concat, next_startTag]
  by_cases skipped : py.lower tag ∈ skippedTags <;> simp [skipped]

theorem titled_startTag (before : List Markup) (tag : String)
    (attrs : List (String × Option String)) :
    titled py (before ++ [.startTag tag attrs]) = (titled py before || py.lower tag == "title") := by
  rw [titled_concat, titleCall]
  by_cases title : py.lower tag = "title" <;> simp [title]

/-- Behind an element, a title is open as before it. -/
theorem titled_element {inner : List Markup} {before : List Markup} {tag : String}
    (outermost : py.lower tag = "title" → titled py before = false)
    (attrs : List (String × Option String))
    (inside : titled py (before ++ [.startTag tag attrs] ++ inner) =
      titled py (before ++ [.startTag tag attrs])) :
    titled py (before ++ [.startTag tag attrs] ++ inner ++ [.endTag tag]) = titled py before := by
  rw [titled_concat, inside, titled_startTag, titleCall]
  by_cases title : py.lower tag = "title"
  · simp [title, outermost title]
  · simp [title]

/-- A page leaves no title open. -/
theorem titled_calls {page : Page} {before : List Markup}
    (matched : page.Matched py (titled py before)) :
    titled py (before ++ page.calls) = titled py before := by
  induction page generalizing before with
  | nil => rw [Page.calls, List.append_nil]
  | text data rest ih =>
    have same : titled py (before ++ [.data data]) = titled py before := titled_concat before _
    rw [Page.calls, List.append_cons, ih (same ▸ matched), same]
  | lone tag attrs rest ih =>
    obtain ⟨-, title, later⟩ := matched
    have same : titled py (before ++ [.startTag tag attrs]) = titled py before := by
      rw [titled_startTag, beq_eq_false_iff_ne.mpr title, Bool.or_false]
    rw [Page.calls, List.append_cons, ih (same ▸ later), same]
  | element tag attrs inner rest ihInner ihRest =>
    obtain ⟨outermost, inside, later⟩ := matched
    rw [← titled_startTag before tag attrs] at inside
    have same := titled_element outermost attrs (ihInner inside)
    have whole : before ++ (Page.element tag attrs inner rest).calls =
        before ++ [.startTag tag attrs] ++ inner.calls ++ [.endTag tag] ++ rest.calls := by
      simp [Page.calls]
    rw [whole, ihRest (same ▸ later), same]

theorem gather_element {β : Type} (f : List Markup → Markup → List β) (before : List Markup)
    (tag : String) (attrs : List (String × Option String)) (inner rest : Page) :
    gather f before (Page.element tag attrs inner rest).calls =
      f before (.startTag tag attrs) ++ (gather f (before ++ [.startTag tag attrs]) inner.calls ++
        (f (before ++ .startTag tag attrs :: inner.calls) (.endTag tag) ++
          gather f (before ++ [.startTag tag attrs] ++ inner.calls ++ [.endTag tag]) rest.calls)) := by
  rw [Page.calls, List.cons_append, gather, gather_append, gather, ← List.append_cons]

/-- Behind an element, data is hidden as before it. -/
theorem hidden_element {inner : Page} {inTitle : Bool} (matched : inner.Matched py inTitle)
    (before : List Markup) (tag : String) (attrs : List (String × Option String)) :
    hidden py (before ++ [.startTag tag attrs] ++ inner.calls ++ [.endTag tag]) =
      hidden py before := by
  have level := level_element (level_calls matched) tag attrs
  rw [List.append_assoc, List.append_assoc, ← List.append_assoc [_], List.singleton_append]
  exact hidden_append level

theorem gather_shownAt {page : Page} {inTitle : Bool} (matched : page.Matched py inTitle)
    (before : List Markup) :
    gather (shownAt py) before page.calls = page.shown py (hidden py before) := by
  induction page generalizing inTitle before with
  | nil => rfl
  | text data rest ih =>
    have same : hidden py (before ++ [.data data]) = hidden py before :=
      hidden_append (level_plain rfl rfl)
    rw [Page.calls, gather, ih matched, same]
    rfl
  | lone tag attrs rest ih =>
    obtain ⟨plain, -, later⟩ := matched
    have same : hidden py (before ++ [.startTag tag attrs]) = hidden py before :=
      hidden_append (level_plain (decide_eq_false plain) rfl)
    rw [Page.calls, gather, ih later, same]
    rfl
  | element tag attrs inner rest ihInner ihRest =>
    obtain ⟨-, inside, later⟩ := matched
    rw [gather_element, ihInner inside, ihRest later, hidden_startTag, hidden_element inside]
    rfl

theorem gather_titleAt {page : Page} {before : List Markup}
    (matched : page.Matched py (titled py before)) :
    gather (titleAt py) before page.calls = page.titles py (hidden py before) (titled py before) := by
  induction page generalizing before with
  | nil => rfl
  | text data rest ih =>
    have covering : hidden py (before ++ [.data data]) = hidden py before :=
      hidden_append (level_plain rfl rfl)
    have titling : titled py (before ++ [.data data]) = titled py before := titled_concat before _
    rw [Page.calls, gather, ih (titling ▸ matched), covering, titling]
    rfl
  | lone tag attrs rest ih =>
    obtain ⟨plain, title, later⟩ := matched
    have covering : hidden py (before ++ [.startTag tag attrs]) = hidden py before :=
      hidden_append (level_plain (decide_eq_false plain) rfl)
    have titling : titled py (before ++ [.startTag tag attrs]) = titled py before := by
      rw [titled_startTag, beq_eq_false_iff_ne.mpr title, Bool.or_false]
    rw [Page.calls, gather, ih (titling ▸ later), covering, titling, titleAt, shownAt, ite_self]
    rfl
  | element tag attrs inner rest ihInner ihRest =>
    obtain ⟨outermost, inside, later⟩ := matched
    rw [← titled_startTag before tag attrs] at inside
    have titling := titled_element outermost attrs (titled_calls inside)
    rw [gather_element, ihInner inside, ihRest (titling ▸ later), hidden_startTag,
      hidden_element inside, titling, titled_startTag, titleAt, titleAt, shownAt, shownAt, ite_self,
      ite_self]
    rfl

variable {σ : Type} {lib : Library}

/-- Of a page whose tags match, the text is the data outside the elements that are skipped, the
title is the data inside the titles, and the links are those of all anchors. -/
theorem extracts_page {html url : String} {page : Page} (matched : page.Matched lib.py false)
    (tokens : lib.tokenize html = (page.calls, none)) {links : List String}
    (joined : (page.calls.flatMap (hrefs lib.py)).mapM (lib.urljoin url) = .ok links) (w : σ) :
    ∃ doc, ({} : UniversalExtractor σ).extract lib html url w = (.ok doc, w) ∧
      doc.links = links ∧ Spread doc.text.toList ∧
      ink chars doc.text.toList =
        (page.shown lib.py false).flatMap (fun data => ink chars data.toList) ∧
      TitleIs ((page.titles lib.py false false).flatMap (fun data => ink chars data.toList))
        doc.title := by
  have extracted := extracted_parsed joined
  have ends : extractFallback lib html url = .ok ((parsed lib.py url page.calls links).document url) := by
    rw [extractFallback, tokens, handleAll_eq, joined]
    rfl
  refine ⟨(parsed lib.py url page.calls links).document url, ?_, rfl, extracted.text, ?_, ?_⟩
  · change Computation.lift (extractFallback lib html url) w = _
    rw [ends]
    rfl
  · rw [extracted.visible, shown, gather_shownAt matched]
    rfl
  · have title := extracted.title
    rw [titles, gather_titleAt matched] at title
    exact title

def samplePage : Page :=
  .element "title" [] (.text "Demo" .nil) <| .element "script" [] (.text "let hidden;" .nil) <|
    .element "p" [] (.text "Hi " (.element "a" [("href", some "/b")] (.text "there" .nil) .nil)) .nil

def sampleHtml : String :=
  "<title>Demo</title><script>let hidden;</script><p>Hi <a href=\"/b\">there</a></p>"

def sampleLibrary : Library where
  py := asciiInterpreter
  tokenize html := if html = sampleHtml then (samplePage.calls, none) else ([], none)
  urljoin base href := .ok (if href = "/b" then "https://example.org/b" else base)

theorem matched_samplePage : samplePage.Matched sampleLibrary.py false :=
  ⟨by decide, trivial, by decide, trivial, by decide, ⟨by decide, trivial, trivial⟩, trivial⟩

theorem extracts_page_sample : ∃ doc,
    ({} : UniversalExtractor Unit).extract sampleLibrary sampleHtml "https://example.org/a" () =
      (.ok doc, ()) ∧
      doc.links = ["https://example.org/b"] ∧ Spread doc.text.toList ∧
      ink chars doc.text.toList =
        (samplePage.shown asciiInterpreter false).flatMap (fun data => ink chars data.toList) ∧
      TitleIs ((samplePage.titles asciiInterpreter false false).flatMap
        (fun data => ink chars data.toList)) doc.title :=
  extracts_page matched_samplePage (if_pos rfl) rfl ()

end Pages

end SthBoring.Crawler.FallbackExtractor
