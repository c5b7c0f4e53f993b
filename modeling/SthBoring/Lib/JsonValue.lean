/- Module: SthBoring/Lib/JsonValue
   source: the values of JSON, as the standard library reads and writes them
   digest: Which values JSON has a text for that reads back as the value. -/

import SthBoring.Lib.PyValue

set_option autoImplicit false
set_option relaxedAutoImplicit false

namespace SthBoring.Lib.JsonValue

open SthBoring.Lib.OrderedDict (assocGet assocGet_of_mem mem_of_assocGet)
open SthBoring.Lib.PyValue (Value Fields PyFloat)

def isDigit (c : Char) : Bool := '0' ≤ c && c ≤ '9'

/-- The number that a row of decimal digits stands for. -/
def natOfDigits (digits : List Char) : ℕ := digits.foldl (fun n c => 10 * n + (c.toNat - 48)) 0

/-- The exponent of a float literal, if there is one. -/
def readExponent : List Char → Option ℤ
  | [] => some 0
  | 'e' :: '-' :: digits => if digits.all isDigit then some (-(natOfDigits digits : ℤ)) else none
  | 'e' :: '+' :: digits => if digits.all isDigit then some (natOfDigits digits) else none
  | 'e' :: digits => if digits.all isDigit then some (natOfDigits digits) else none
  | _ => none

/-- A float literal without its sign. -/
def readMagnitude (cs : List Char) : Option ℚ :=
  let whole := cs.takeWhile isDigit
  let rest := cs.dropWhile isDigit
  let fraction := match rest with | '.' :: ds => ds.takeWhile isDigit | _ => []
  let rest := match rest with | '.' :: ds => ds.dropWhile isDigit | ds => ds
  (readExponent rest).map fun exponent =>
    (natOfDigits (whole ++ fraction) : ℚ) / 10 ^ fraction.length * (10 : ℚ) ^ exponent

/-- `float(s)` on what `repr` writes for a finite float. -/
def readFloat (s : String) : Option ℚ :=
  match s.toList with
  | '-' :: cs => (readMagnitude cs).map fun q => -q
  | cs => readMagnitude cs

/-- The characters of number texts. -/
def isNumeric (c : Char) : Bool := isDigit c || c == '-' || c == '+' || c == '.' || c == 'e'

/-- The text of a finite float: it reads back as the float, and not as an integer. -/
structure Written (x : PyFloat) : Prop where
  reads : readFloat x.repr = some x.value
  numeric : ∀ c ∈ x.repr.toList, isNumeric c = true
  marked : '.' ∈ x.repr.toList ∨ 'e' ∈ x.repr.toList

mutual

/-- The values that JSON has: no key of an object stands twice. -/
def IsJson : Value → Prop
  | .null | .bool _ | .int _ | .str _ => True
  | .float x => Written x
  | .list xs => AllJson xs
  | .dict es => (es.map Prod.fst).Nodup ∧ MembersJson es
  | .bytes _ | .obj _ _ => False

def AllJson : List Value → Prop
  | [] => True
  | x :: xs => IsJson x ∧ AllJson xs

def MembersJson : List (String × Value) → Prop
  | [] => True
  | (_, v) :: es => IsJson v ∧ MembersJson es

end

theorem allJson_iff {xs : List Value} : AllJson xs ↔ ∀ x ∈ xs, IsJson x := by
  induction xs with
  | nil => exact iff_of_true trivial nofun
  | cons x xs ih => rw [AllJson, ih, List.forall_mem_cons]

theorem membersJson_iff {es : Fields} : MembersJson es ↔ ∀ e ∈ es, IsJson e.2 := by
  induction es with
  | nil => exact iff_of_true trivial nofun
  | cons e es ih => rw [MembersJson, ih, List.forall_mem_cons]

section Objects

variable {entries : Fields}

/-- In a JSON object a member is what its key looks up. -/
theorem get_eq_some_iff (json : IsJson (.dict entries)) {key : String} {v : Value} :
    entries.get key = some v ↔ (key, v) ∈ entries :=
  ⟨mem_of_assocGet, assocGet_of_mem json.1⟩

theorem isJson_of_get (json : IsJson (.dict entries)) {key : String} {v : Value}
    (found : entries.get key = some v) : IsJson v :=
  membersJson_iff.mp json.2 (key, v) (mem_of_assocGet found)

end Objects

example : readFloat "1.5e-07" = some (3 / 20000000) := by decide +kernel

end SthBoring.Lib.JsonValue
