/- Module: SthBoring/Crawler/LoginDetection
   source: agent_crawler/fetch/auth_gate.py
   digest: Which pages look like login pages. -/

import SthBoring.Lib.Binary64
import SthBoring.Lib.TextPattern
import SthBoring.Lib.UrlParse

set_option autoImplicit false
set_option relaxedAutoImplicit false

namespace SthBoring.Crawler.LoginDetection

open SthBoring.Lib
open SthBoring.Lib.PyValue (isSpace joinWith quotation apostrophe)
open SthBoring.Lib.TextPattern (Pattern substitute occurrences behind occursIn)
open SthBoring.Lib.UrlParse (Interpreter asciiInterpreter unquote)

section Config

structure BrowserAuthConfig where
  interactiveLogin : Bool := false
  loginWaitTimeoutMs : ℤ := 180000
  loginPollIntervalMs : ℤ := 1000
  loginUrlKeywords : List String :=
    ["login", "signin", "sign-in", "auth", "sso", "oauth", "account"]
  loginHtmlKeywords : List String :=
    ["sign in", "log in", "login", "signin", "password", "username", "email", "登录", "密码", "账号"]
  successUrlPatterns : List String := []
  successSelectors : List String := []

structure AuthDetectionResult where
  loginRequired : Bool
  confidence : ℚ
  reason : String
  sourceUrl : String
  finalUrl : String
  redirectChain : List String
  matchedUrlKeywords : List String
  matchedHtmlKeywords : List String
  sourceUrlInFinalUrl : Bool
  hasRedirectHistory : Bool
  hasPasswordInput : Bool
  hasSourceUrlHintInHtml : Bool
  textDensityScore : ℚ

structure LoginWaitResult where
  success : Bool
  reason : String
  beforeUrl : String
  afterUrl : String
  beforeDensityScore : ℚ
  afterDensityScore : ℚ
  waitedMs : ℚ
  finalHtmlLen : ℕ

/-- `AuthGate`, with what the interpreter knows of letters and digits. -/
structure AuthGate where
  config : BrowserAuthConfig := {}
  py : Interpreter
  isAlnum : Char → Bool

end Config

section Patterns

/-- A block from its opening tag to the first closing one: `<script[\s\S]*?</script>`. -/
def block (name : String) : Pattern Char := fun cs =>
  let opening := '<' :: name.toList
  let closing := '<' :: '/' :: (name.toList ++ ['>'])
  match behind opening cs with
  | none => 0
  | some rest =>
    match rest.tails.findIdx? closing.isPrefixOf with
    | none => 0
    | some before => opening.length + before + closing.length

/-- `<[^>]+>`. -/
def tag : Pattern Char
  | '<' :: rest =>
    let inner := rest.takeWhile (· ≠ '>')
    if inner ≠ [] ∧ inner.length < rest.length then inner.length + 2 else 0
  | _ => 0

/-- `\s+`. -/
def spaces : Pattern Char := fun cs => (cs.takeWhile isSpace).length

/-- `\b` behind a letter: what follows goes on with no letter or digit, and no underscore. -/
def wordEnds (isAlnum : Char → Bool) : List Char → Bool
  | [] => true
  | c :: _ => !(isAlnum c || c == '_')

/-- The opening of a tag of that name: `<a\b`. -/
def openingTag (isAlnum : Char → Bool) (name : String) : Pattern Char := fun cs =>
  match behind ('<' :: name.toList) cs with
  | none => 0
  | some rest => if wordEnds isAlnum rest then name.length + 1 else 0

/-- What is left behind an optional quotation mark. -/
def unquoted : List Char → List Char
  | c :: cs => if c = quotation ∨ c = apostrophe then cs else c :: cs
  | [] => []

/-- `type\s*=\s*["']?password`. -/
def passwordType : Pattern Char := fun cs =>
  match behind "type".toList cs with
  | none => 0
  | some rest =>
    match rest.dropWhile isSpace with
    | '=' :: rest =>
      match behind "password".toList (unquoted (rest.dropWhile isSpace)) with
      | none => 0
      | some rest => cs.length - rest.length
    | _ => 0

/-- `<input\b[^>]*type\s*=\s*["']?password`, as a search. -/
def hasPasswordInput (isAlnum : Char → Bool) (cs : List Char) : Bool :=
  cs.tails.any fun here =>
    openingTag isAlnum "input" here ≠ 0 &&
      let rest := here.drop ("input".length + 1)
      (List.range ((rest.takeWhile (· ≠ '>')).length + 1)).any
        fun skipped => passwordType (rest.drop skipped) ≠ 0

end Patterns

namespace AuthGate

variable (gate : AuthGate)

/-- `unquote(s).lower()`. -/
def lowered (s : String) : String := gate.py.lower (unquote s)

/-- The words of a list that occur in a text. -/
def matched (words : List String) (text : String) : List String :=
  words.filter fun word => occursIn (gate.py.lower word).toList text.toList

def looksLikeLoginUrl (url : String) : Bool × List String :=
  let matched := gate.matched gate.config.loginUrlKeywords (gate.lowered url)
  (!matched.isEmpty, matched)

def looksLikeLoginHtml (html : String) : Bool × List String × Bool :=
  let lower := gate.lowered html
  let matched := gate.matched gate.config.loginHtmlKeywords lower
  (!matched.isEmpty, matched, hasPasswordInput gate.isAlnum lower.toList)

def successUrlMatches (url : String) : Bool :=
  gate.config.successUrlPatterns.any fun pattern =>
    occursIn (gate.py.lower pattern).toList (gate.lowered url).toList

end AuthGate

/-- `_contains_unquoted`. -/
def containsUnquoted (needle haystack : String) : Bool :=
  needle ≠ "" && haystack ≠ "" && occursIn (unquote needle).toList (unquote haystack).toList

section Density

/-- The nearest double to a fraction. -/
def double (numerator denominator : ℕ) : ℚ := Binary64.round (numerator / denominator)

def AuthGate.computeTextDensityScore (gate : AuthGate) (html : String) : ℚ :=
  let lower := (gate.py.lower html).toList
  let lower := substitute (block "script") ' ' 0 lower
  let lower := substitute (block "style") ' ' 0 lower
  let text := substitute spaces ' ' 0 (substitute tag ' ' 0 lower)
  let textLen := (PyValue.strip (String.ofList text)).length
  let htmlLen := max html.length 1
  let linkCount := occurrences (openingTag gate.isAlnum "a") 0 lower
  let inputCount := occurrences (openingTag gate.isAlnum "input") 0 lower
  let passwordCount := occurrences passwordType 0 lower
  let score := double textLen htmlLen
  let score := Binary64.round (score + min (double textLen 5000) (double 1 2))
  let score := Binary64.round (score - min (double linkCount 200) (double 1 5))
  let score := Binary64.round (score - min (double inputCount 100) (double 1 5))
  let score := Binary64.round
    (score - min (Binary64.round (passwordCount * double 3 10)) (double 3 5))
  max 0 (min score 1)

end Density

section Detect

/-- The signs of a login page in order: whether each is there, its weight, and its name. -/
def signs (redirects url password html sourceInUrl sourceInHtml : Bool) :
    List (Bool × ℚ × String) :=
  [(redirects, double 15 100, "redirect_history"),
   (url, double 25 100, "login_url_keyword"),
   (password, double 35 100, "password_input"),
   (html, double 15 100, "login_html_keyword"),
   (sourceInUrl, double 10 100, "source_url_in_final_url"),
   (sourceInHtml, double 10 100, "source_url_hint_in_html")]

/-- `AuthGate.detect`. -/
def AuthGate.detect (gate : AuthGate) (sourceUrl finalUrl html : String)
    (redirectChain : List String) : AuthDetectionResult :=
  let (urlMatch, matchedUrlKeywords) := gate.looksLikeLoginUrl finalUrl
  let (htmlMatch, matchedHtmlKeywords, password) := gate.looksLikeLoginHtml html
  let sourceUrlInFinalUrl := containsUnquoted sourceUrl finalUrl
  let sourceUrlHint := containsUnquoted sourceUrl (String.ofList (html.toList.take 200000))
  let present := (signs (!redirectChain.isEmpty) urlMatch password htmlMatch sourceUrlInFinalUrl
    sourceUrlHint).filter (fun sign => sign.1)
  let score := present.foldl (fun score sign => Binary64.round (score + sign.2.1)) 0
  let reasons := present.map (fun sign => sign.2.2)
  { loginRequired := double 45 100 ≤ min score 1
    confidence := min score 1
    reason := if reasons = [] then "no_auth_signals" else joinWith "," reasons
    sourceUrl := sourceUrl
    finalUrl := finalUrl
    redirectChain := redirectChain
    matchedUrlKeywords := matchedUrlKeywords
    matchedHtmlKeywords := matchedHtmlKeywords
    sourceUrlInFinalUrl := sourceUrlInFinalUrl
    hasRedirectHistory := !redirectChain.isEmpty
    hasPasswordInput := password
    hasSourceUrlHintInHtml := sourceUrlHint
    textDensityScore := gate.computeTextDensityScore html }

/-- The gate of an interpreter that knows ASCII. -/
def asciiGate : AuthGate where
  py := asciiInterpreter
  isAlnum := Char.isAlphanum

example : (asciiGate.detect "" "https://a.test/in" "<input type = password>" []).loginRequired =
    true := by
  decide +kernel

end Detect

end SthBoring.Crawler.LoginDetection
