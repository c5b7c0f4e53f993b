/- Module: SthBoring.Lib.TextPattern
   source: the re module
   digest: Searching a text for patterns, and putting a space for what they match. -/

import Mathlib.Data.List.Basic

set_option autoImplicit false
set_option relaxedAutoImplicit false

namespace SthBoring.Lib.TextPattern

variable {α : Type}

/-- A pattern as the length of what it matches at the front of a text, with zero for no match. -/
abbrev Pattern (α : Type) := List α → ℕ

/-- `re.sub(pattern, space, text)`, with so many characters of a match still to skip. -/
def substitute (pattern : Pattern α) (space : α) : ℕ → List α → List α
  | _, [] => []
  | skip + 1, _ :: cs => substitute pattern space skip cs
  | 0, c :: cs =>
    match pattern (c :: cs) with
    | 0 => c :: substitute pattern space 0 cs
    | rest + 1 => space :: substitute pattern space rest cs

/-- `len(re.findall(pattern, text))`, with so many characters of a match still to skip. -/
def occurrences (pattern : Pattern α) : ℕ → List α → ℕ
  | _, [] => 0
  | skip + 1, _ :: cs => occurrences pattern skip cs
  | 0, c :: cs =>
    match pattern (c :: cs) with
    | 0 => occurrences pattern 0 cs
    | rest + 1 => occurrences pattern rest cs + 1

/-- What follows a word at the front of a text. -/
def behind [DecidableEq α] (word text : List α) : Option (List α) :=
  if word.isPrefixOf text then some (text.drop word.length) else none

/-- `word in text`. -/
def occursIn [DecidableEq α] (word text : List α) : Bool := text.tails.any word.isPrefixOf

example : substitute (fun cs => (cs.takeWhile (· == ' ')).length) '_' 0 "a   b c".toList =
    "a_b_c".toList := by decide +kernel

end SthBoring.Lib.TextPattern
