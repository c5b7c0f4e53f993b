/- Module: SthBoring/Lib/UrlParse
   source: urllib.parse
   digest: The network location of a URL, and percent-decoding. -/

import SthBoring.Lib.PyValue

set_option autoImplicit false
set_option relaxedAutoImplicit false

namespace SthBoring.Lib.UrlParse

open SthBoring.Lib.PyValue (PyExc valueError)

/-- What the interpreter knows of Unicode text and of the numbers and addresses written in it. -/
structure Interpreter where
  /-- `s.lower()`. -/
  lower : String → String
  /-- `unicodedata.normalize("NFKC", s)`. -/
  nfkc : String → String
  /-- `float(s)` of a string, rounded. -/
  parseFloat : String → Option ℚ
  /-- Is a netloc in square brackets, user information and port aside, an IP address? -/
  bracketedHost : String → Bool

/-- An interpreter that knows the letters of ASCII, and no numbers. -/
def asciiInterpreter : Interpreter where
  lower s := String.ofList (s.toList.map Char.toLower)
  nfkc s := s
  parseFloat _ := none
  bracketedHost _ := true

section Parts

/-- The characters of a scheme. -/
def isSchemeChar (c : Char) : Bool :=
  c.isAlphanum || c == '+' || c == '-' || c == '.'

/-- What is left when the control characters and spaces in front, and the tabs and line ends
inside, are dropped. -/
def sanitize (url : List Char) : List Char :=
  (url.dropWhile (fun c => c.toNat ≤ 0x20)).filter (fun c => c ≠ '\t' && c ≠ '\r' && c ≠ '\n')

/-- The URL behind its scheme, if it has one. -/
def afterScheme (url : List Char) : List Char :=
  match url.span (· ≠ ':') with
  | (c :: scheme, _ :: rest) => if c.isAlpha && scheme.all isSchemeChar then rest else url
  | _ => url

def splitNetloc : List Char → List Char
  | '/' :: '/' :: rest => rest.takeWhile (fun c => c ≠ '/' && c ≠ '?' && c ≠ '#')
  | _ => []

/-- The characters `_checknetloc` leaves out before it normalizes. -/
def isNetlocMark (c : Char) : Bool := c == '@' || c == ':' || c == '#' || c == '?'

def netlocPasses (py : Interpreter) (netloc : List Char) : Bool :=
  let plain := String.ofList (netloc.filter (fun c => !isNetlocMark c))
  let normal := py.nfkc plain
  netloc.all (fun c => c.toNat < 0x80) || normal == plain ||
    !normal.toList.any (fun c => c == '/' || isNetlocMark c)

end Parts

/-- `urlparse(url).netloc`. -/
def netloc (py : Interpreter) (url : String) : Except PyExc String :=
  let netloc := splitNetloc (afterScheme (sanitize url.toList))
  if netloc.contains '[' ≠ netloc.contains ']' then .error (valueError "Invalid IPv6 URL")
  else if netloc.contains '[' && !py.bracketedHost (String.ofList netloc) then
    .error (valueError "Invalid IPv6 URL")
  else if netlocPasses py netloc then .ok (String.ofList netloc)
  else
    .error (valueError
      (s!"netloc {PyValue.reprStr (String.ofList netloc)}" ++
        " contains invalid characters under NFKC normalization"))

example : (netloc asciiInterpreter "https://a.test:8080/b?c").toOption = some "a.test:8080" := by
  decide +kernel

section Unquote

/-- A character in UTF-8 of which bytes are still to come: between which bounds the next one lies,
how many follow it, and the bits so far. -/
structure Pending where
  low : ℕ
  high : ℕ
  missing : ℕ
  bits : ℕ

/-- What stands for bytes that are no UTF-8. -/
def replacement : Char := Char.ofNat 0xfffd

def firstByte (b : ℕ) : List Char × Option Pending :=
  if b < 0x80 then ([Char.ofNat b], none)
  else if 0xc2 ≤ b ∧ b ≤ 0xdf then ([], some ⟨0x80, 0xbf, 0, b - 0xc0⟩)
  else if b = 0xe0 then ([], some ⟨0xa0, 0xbf, 1, 0⟩)
  else if b = 0xed then ([], some ⟨0x80, 0x9f, 1, 0xd⟩)
  else if 0xe1 ≤ b ∧ b ≤ 0xef then ([], some ⟨0x80, 0xbf, 1, b - 0xe0⟩)
  else if b = 0xf0 then ([], some ⟨0x90, 0xbf, 2, 0⟩)
  else if 0xf1 ≤ b ∧ b ≤ 0xf3 then ([], some ⟨0x80, 0xbf, 2, b - 0xf0⟩)
  else if b = 0xf4 then ([], some ⟨0x80, 0x8f, 2, 4⟩)
  else ([replacement], none)

/-- `bytes.decode("utf-8", errors="replace")`. -/
def decodeUtf8 : Option Pending → List ℕ → List Char
  | none, [] => []
  | some _, [] => [replacement]
  | none, b :: bs => (firstByte b).1 ++ decodeUtf8 (firstByte b).2 bs
  | some p, b :: bs =>
    if p.low ≤ b ∧ b ≤ p.high then
      match p.missing with
      | 0 => Char.ofNat (p.bits * 64 + b % 64) :: decodeUtf8 none bs
      | more + 1 => decodeUtf8 (some ⟨0x80, 0xbf, more, p.bits * 64 + b % 64⟩) bs
    -- the byte that does not fit starts anew
    else replacement :: (firstByte b).1 ++ decodeUtf8 (firstByte b).2 bs

def hexValue (c : Char) : Option ℕ :=
  if c.isDigit then some (c.toNat - '0'.toNat)
  else if 'a' ≤ c ∧ c ≤ 'f' then some (c.toNat - 'a'.toNat + 10)
  else if 'A' ≤ c ∧ c ≤ 'F' then some (c.toNat - 'A'.toNat + 10)
  else none

/-- `unquote_to_bytes` of a text in ASCII. -/
def unquoteToBytes : List Char → List ℕ
  | '%' :: a :: b :: rest =>
    match hexValue a, hexValue b with
    | some x, some y => (16 * x + y) :: unquoteToBytes rest
    | _, _ => '%'.toNat :: unquoteToBytes (a :: b :: rest)
  | c :: rest => c.toNat :: unquoteToBytes rest
  | [] => []

/-- The runs of ASCII are decoded one by one. -/
def unquoteRuns (run : List Char) : List Char → List Char
  | [] => decodeUtf8 none (unquoteToBytes run.reverse)
  | c :: cs =>
    if c.toNat < 0x80 then unquoteRuns (c :: run) cs
    else decodeUtf8 none (unquoteToBytes run.reverse) ++ c :: unquoteRuns [] cs

def unquote (text : String) : String :=
  if text.toList.contains '%' then String.ofList (unquoteRuns [] text.toList) else text

example : unquote "a%20b%e7%99%bb%zz%e7" = "a b登%zz" ++ String.singleton replacement := by
  decide +kernel

end Unquote

end SthBoring.Lib.UrlParse
