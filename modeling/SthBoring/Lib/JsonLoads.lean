/- Module: SthBoring/Lib/JsonLoads
   source: json.loads of the standard library
   digest: The value that a JSON text stands for, or the fault that is found in it. -/

import SthBoring.Lib.JsonValue

set_option autoImplicit false
set_option relaxedAutoImplicit false

namespace SthBoring.Lib.JsonLoads

open SthBoring.Lib.JsonValue (isDigit natOfDigits)
open SthBoring.Lib.OrderedDict (assocSet)
open SthBoring.Lib.PyValue (Value Fields PyExc PyFloat backslash quotation)

/-- A fault, and the text from the place on where it is found. -/
structure Fault where
  message : String
  rest : List Char

def isBlank (c : Char) : Bool := c == ' ' || c == '\t' || c == '\n' || c == '\r'

def skip (cs : List Char) : List Char := cs.dropWhile isBlank

section Strings

def hexDigit (c : Char) : Option ℕ :=
  if isDigit c then some (c.toNat - 0x30)
  else if 'a' ≤ c ∧ c ≤ 'f' then some (c.toNat - 0x57)
  else if 'A' ≤ c ∧ c ≤ 'F' then some (c.toNat - 0x37)
  else none

/-- Four digits in base sixteen. -/
def readUnit : List Char → Option (ℕ × List Char)
  | a :: b :: c :: d :: cs => do
    let a ← hexDigit a
    let b ← hexDigit b
    let c ← hexDigit c
    let d ← hexDigit d
    some (((a * 16 + b) * 16 + c) * 16 + d, cs)
  | _ => none

def isHigh (unit : ℕ) : Bool := 0xd800 ≤ unit && unit ≤ 0xdbff

def isLow (unit : ℕ) : Bool := 0xdc00 ≤ unit && unit ≤ 0xdfff

/-- The character of two units. -/
def paired (high low : ℕ) : Char := Char.ofNat (0x10000 + (high - 0xd800) * 0x400 + (low - 0xdc00))

/-- The second unit, where a text goes on with one. -/
def readLow : List Char → Except Fault (Option (ℕ × List Char))
  | c :: 'u' :: cs =>
    if c = backslash then
      match readUnit cs with
      | none => .error ⟨"Invalid \\uXXXX escape", 'u' :: cs⟩
      | some (low, rest) => .ok (if isLow low then some (low, rest) else none)
    else .ok none
  | _ => .ok none

/-- The character behind a backslash and a `u`. One half of a pair by itself is no character, and
is a fault here. -/
def readUnicode (cs : List Char) : Except Fault (Char × List Char) :=
  match readUnit cs with
  | none => .error ⟨"Invalid \\uXXXX escape", 'u' :: cs⟩
  | some (unit, rest) =>
    if isHigh unit then do
      match ← readLow rest with
      | some (low, rest) => .ok (paired unit low, rest)
      | none => .error ⟨"surrogates not allowed", 'u' :: cs⟩
    else if isLow unit then .error ⟨"surrogates not allowed", 'u' :: cs⟩
    else .ok (Char.ofNat unit, rest)

/-- `BACKSLASH`. -/
def simpleEscape (c : Char) : Option Char :=
  if c = quotation ∨ c = backslash ∨ c = '/' then some c
  else if c = 'b' then some (Char.ofNat 0x08)
  else if c = 't' then some (Char.ofNat 0x09)
  else if c = 'n' then some (Char.ofNat 0x0a)
  else if c = 'f' then some (Char.ofNat 0x0c)
  else if c = 'r' then some (Char.ofNat 0x0d)
  else none

/-- The character behind a backslash, in a string that starts at `start`. -/
def readEscape (start : List Char) : List Char → Except Fault (Char × List Char)
  | [] => .error ⟨"Unterminated string starting at", start⟩
  | c :: cs =>
    if c = 'u' then readUnicode cs
    else
      match simpleEscape c with
      | some d => .ok (d, cs)
      | none => .error ⟨"Invalid \\escape", backslash :: c :: cs⟩

/-- `scanstring`, behind the opening quotation mark. Every turn takes a character at least. -/
def scanString (start : List Char) : ℕ → List Char → Except Fault (List Char × List Char)
  | 0, _ => .error ⟨"Unterminated string starting at", start⟩
  | _ + 1, [] => .error ⟨"Unterminated string starting at", start⟩
  | turns + 1, c :: cs =>
    if c = quotation then .ok ([], cs)
    else if c = backslash then do
      let (d, rest) ← readEscape start cs
      let (ds, rest) ← scanString start turns rest
      .ok (d :: ds, rest)
    else if c.toNat < 0x20 then .error ⟨"Invalid control character at", c :: cs⟩
    else do
      let (ds, rest) ← scanString start turns cs
      .ok (c :: ds, rest)

end Strings

section Numbers

/-- A zero, or digits that do not start with one. -/
def scanNatural : List Char → Option (List Char × List Char)
  | [] => none
  | '0' :: cs => some (['0'], cs)
  | c :: cs =>
    if isDigit c then some (c :: cs.takeWhile isDigit, cs.dropWhile isDigit) else none

def scanInteger : List Char → Option (List Char × List Char)
  | '-' :: cs => (scanNatural cs).map fun (digits, rest) => ('-' :: digits, rest)
  | cs => scanNatural cs

/-- A point and the digits behind it, or nothing. -/
def scanFraction : List Char → List Char × List Char
  | '.' :: cs =>
    if cs.takeWhile isDigit = [] then ([], '.' :: cs)
    else ('.' :: cs.takeWhile isDigit, cs.dropWhile isDigit)
  | cs => ([], cs)

def splitSign : List Char → List Char × List Char
  | '-' :: cs => (['-'], cs)
  | '+' :: cs => (['+'], cs)
  | cs => ([], cs)

/-- An exponent, or nothing. -/
def scanExponent : List Char → List Char × List Char
  | [] => ([], [])
  | c :: cs =>
    let (sign, rest) := splitSign cs
    if (c = 'e' ∨ c = 'E') ∧ rest.takeWhile isDigit ≠ [] then
      (c :: (sign ++ rest.takeWhile isDigit), rest.dropWhile isDigit)
    else ([], c :: cs)

/-- `int(digits)`. -/
def intOf : List Char → ℤ
  | '-' :: digits => -(natOfDigits digits : ℤ)
  | digits => natOfDigits digits

/-- `_match_number`: whole numbers are integers, and `float` reads all others. -/
def scanNumber (float : String → PyFloat) (cs : List Char) : Option (Value × List Char) :=
  (scanInteger cs).map fun (whole, rest) =>
    let (fraction, rest) := scanFraction rest
    let (exponent, rest) := scanExponent rest
    if fraction = [] ∧ exponent = [] then (.int (intOf whole), rest)
    else (.float (float (String.ofList (whole ++ fraction ++ exponent))), rest)

end Numbers

section Values

/-- `dict(pairs)`. -/
def dictOfPairs (pairs : Fields) : Fields := pairs.foldl (fun d e => assocSet e.1 e.2 d) []

/-- What stands for itself, a number, or nothing. -/
def scanPlain (float : String → PyFloat) (cs : List Char) : Except Fault (Value × List Char) :=
  match cs with
  | 'n' :: 'u' :: 'l' :: 'l' :: rest => .ok (.null, rest)
  | 't' :: 'r' :: 'u' :: 'e' :: rest => .ok (.bool true, rest)
  | 'f' :: 'a' :: 'l' :: 's' :: 'e' :: rest => .ok (.bool false, rest)
  | 'N' :: 'a' :: 'N' :: rest => .ok (.float ⟨0, "nan"⟩, rest)
  | 'I' :: 'n' :: 'f' :: 'i' :: 'n' :: 'i' :: 't' :: 'y' :: rest => .ok (.float ⟨0, "inf"⟩, rest)
  | '-' :: 'I' :: 'n' :: 'f' :: 'i' :: 'n' :: 'i' :: 't' :: 'y' :: rest =>
    .ok (.float ⟨0, "-inf"⟩, rest)
  | cs =>
    match scanNumber float cs with
    | some read => .ok read
    | none => .error ⟨"Expecting value", cs⟩

variable (float : String → PyFloat)

mutual

/-- `scan_once`. Every turn takes a character at least. -/
def scanValue : ℕ → List Char → Except Fault (Value × List Char)
  | 0, cs => .error ⟨"Expecting value", cs⟩
  | _ + 1, [] => .error ⟨"Expecting value", []⟩
  | turns + 1, c :: cs =>
    if c = quotation then do
      let (s, rest) ← scanString (c :: cs) turns cs
      .ok (.str (String.ofList s), rest)
    else if c = '[' then
      match skip cs with
      | ']' :: rest => .ok (.list [], rest)
      | items => do
        let (xs, rest) ← scanItems turns items
        .ok (.list xs, rest)
    else if c = '{' then
      match skip cs with
      | '}' :: rest => .ok (.dict [], rest)
      | members => do
        let (es, rest) ← scanMembers turns members
        .ok (.dict (dictOfPairs es), rest)
    else scanPlain float (c :: cs)

/-- The items of a list, its end among them. -/
def scanItems : ℕ → List Char → Except Fault (List Value × List Char)
  | 0, cs => .error ⟨"Expecting value", cs⟩
  | turns + 1, cs => do
    let (x, rest) ← scanValue turns cs
    match skip rest with
    | ']' :: rest => .ok ([x], rest)
    | ',' :: rest => do
      let (xs, rest) ← scanItems turns (skip rest)
      .ok (x :: xs, rest)
    | rest => .error ⟨"Expecting ',' delimiter", rest⟩

/-- The members of an object, its end among them. -/
def scanMembers : ℕ → List Char → Except Fault (Fields × List Char)
  | 0, cs => .error ⟨"Expecting property name enclosed in double quotes", cs⟩
  | _ + 1, [] => .error ⟨"Expecting property name enclosed in double quotes", []⟩
  | turns + 1, c :: cs =>
    if c = quotation then do
      let (key, rest) ← scanString (c :: cs) turns cs
      match skip rest with
      | ':' :: rest => do
        let (v, rest) ← scanValue turns (skip rest)
        match skip rest with
        | '}' :: rest => .ok ([(String.ofList key, v)], rest)
        | ',' :: rest => do
          let (es, rest) ← scanMembers turns (skip rest)
          .ok ((String.ofList key, v) :: es, rest)
        | rest => .error ⟨"Expecting ',' delimiter", rest⟩
      | rest => .error ⟨"Expecting ':' delimiter", rest⟩
    else .error ⟨"Expecting property name enclosed in double quotes", c :: cs⟩

end

end Values

/-- `JSONDecodeError(msg, doc, pos)`. -/
def jsonDecodeError (doc : List Char) (fault : Fault) : PyExc :=
  let pos := doc.length - fault.rest.length
  let before := doc.take pos
  let line := before.count '\n' + 1
  let column := (before.reverse.takeWhile (· ≠ '\n')).length + 1
  ⟨"JSONDecodeError", ["ValueError", "Exception"],
    s!"{fault.message}: line {line} column {column} (char {pos})"⟩

/-- The text as a whole. -/
def decode (float : String → PyFloat) (doc : List Char) : Except Fault Value :=
  if doc.head? = some (Char.ofNat 0xfeff) then
    .error ⟨"Unexpected UTF-8 BOM (decode using utf-8-sig)", doc⟩
  else do
    let (v, rest) ← scanValue float (doc.length + 1) (skip doc)
    if skip rest = [] then .ok v else .error ⟨"Extra data", skip rest⟩

/-- `json.loads(s)`, with `float` for the numbers that are not whole. -/
def loads (float : String → PyFloat) (s : String) : Except PyExc Value :=
  (decode float s.toList).mapError (jsonDecodeError s.toList)

end SthBoring.Lib.JsonLoads
