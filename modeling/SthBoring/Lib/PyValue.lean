/- Module: SthBoring/Lib/PyValue
   source: the built-in value types, exceptions and text methods
   digest: Dynamically typed values with Python's truth, equality and container protocol. -/

import Mathlib.Data.Rat.Defs
import Mathlib.Data.List.Sort
import Mathlib.Data.String.Basic
import SthBoring.Lib.OrderedDict

set_option autoImplicit false
set_option relaxedAutoImplicit false

namespace SthBoring.Lib.PyValue

open SthBoring.Lib.OrderedDict (assocGet)

/-- `n` in lower case base sixteen, padded to a width. -/
def hexDigits (width n : ℕ) : String :=
  let digits := Nat.toDigits 16 n
  String.ofList (List.replicate (width - digits.length) '0' ++ digits)

/-- `str.isprintable` on one character, unassigned code points aside. -/
def isPrintable (c : Char) : Bool :=
  let n := c.toNat
  (0x20 ≤ n && n < 0x7f) || (0xa0 < n && n != 0xad && n != 0x1680 && n != 0x3000 && n != 0xfeff &&
    !(0x2000 ≤ n && n ≤ 0x200f) && !(0x2028 ≤ n && n ≤ 0x202f) && !(0x205f ≤ n && n ≤ 0x206f) &&
    !(0xe000 ≤ n && n ≤ 0xf8ff) && !(0xfff0 ≤ n && n ≤ 0xfffb) && n < 0xe0000)

def backslash : Char := Char.ofNat 0x5c
def apostrophe : Char := Char.ofNat 0x27
def quotation : Char := Char.ofNat 0x22

/-- A backslash escape. -/
def escaped (letter digits : String) : String := String.singleton backslash ++ letter ++ digits

/-- What `repr` makes of a character it does not show as it is. -/
def escapeChar (c : Char) : String :=
  let n := c.toNat
  if n = 0x09 then escaped "t" ""
  else if n = 0x0a then escaped "n" ""
  else if n = 0x0d then escaped "r" ""
  else if n < 0x100 then escaped "x" (hexDigits 2 n)
  else if n < 0x10000 then escaped "u" (hexDigits 4 n)
  else escaped "U" (hexDigits 8 n)

/-- Quoted text: single quotes, unless it holds some and no double quote. Characters that are
not plain are escaped. -/
def quoted (plain : Char → Bool) (cs : List Char) : String :=
  let quote := if cs.contains apostrophe && !cs.contains quotation then quotation else apostrophe
  let one := fun c =>
    if c = quote || c = backslash then escaped (String.singleton c) ""
    else if plain c then String.singleton c
    else escapeChar c
  String.singleton quote ++ String.join (cs.map one) ++ String.singleton quote

/-- `repr` of a string. -/
def reprStr (s : String) : String := quoted isPrintable s.toList

/-- `repr` of a bytes object. -/
def reprBytes (b : ByteArray) : String :=
  "b" ++ quoted (fun c => isPrintable c && c.toNat < 0x80)
    (b.toList.map (fun x => Char.ofNat x.toNat))

/-- A raised exception: its class, the names of its base classes, and `str(exc)`. -/
structure PyExc where
  className : String
  bases : List String
  message : String
  deriving DecidableEq, Repr

/-- What `except name` catches. -/
def PyExc.isInstance (e : PyExc) (name : String) : Bool :=
  e.className == name || e.bases.contains name

def typeError (message : String) : PyExc := ⟨"TypeError", ["Exception"], message⟩
def valueError (message : String) : PyExc := ⟨"ValueError", ["Exception"], message⟩
/-- The text of a KeyError is the `repr` of the key. -/
def keyError (key : String) : PyExc := ⟨"KeyError", ["LookupError", "Exception"], reprStr key⟩
def attributeError (message : String) : PyExc := ⟨"AttributeError", ["Exception"], message⟩
def recursionError : PyExc :=
  ⟨"RecursionError", ["RuntimeError", "Exception"], "maximum recursion depth exceeded"⟩

/-- A float is its exact numeric value together with the text `repr` gives it. -/
structure PyFloat where
  value : ℚ
  repr : String
  deriving DecidableEq

/-- The values that plans, schemas and payloads carry. `obj` is an instance of a
dataclass, with its fields in declaration order. -/
inductive Value where
  | null
  | bool (b : Bool)
  | int (n : ℤ)
  | float (x : PyFloat)
  | str (s : String)
  | bytes (b : ByteArray)
  | list (xs : List Value)
  | dict (entries : List (String × Value))
  | obj (cls : String) (fields : List (String × Value))

/-- A `dict[str, Any]` as it stands inside a record. -/
abbrev Fields := List (String × Value)

namespace Value

/-- `bool(v)`. -/
def truthy : Value → Bool
  | null => false
  | bool b => b
  | int n => n != 0
  | float x => x.value != 0
  | str s => s != ""
  | bytes b => b.size != 0
  | list xs => !xs.isEmpty
  | dict es => !es.isEmpty
  | obj _ _ => true

/-- Numbers compare by value; booleans are numbers. -/
def number : Value → Option ℚ
  | bool b => some (if b then 1 else 0)
  | int n => some n
  | float x => some x.value
  | _ => none

mutual

/-- `a == b`; dicts compare without regard to order. -/
def pyEq : Value → Value → Bool
  | null, null => true
  | str s, str t => s == t
  | bytes a, bytes b => a == b
  | list xs, list ys => pyEqList xs ys
  | dict es, dict fs => es.length == fs.length && pyEqFields es fs
  | obj c es, obj d fs => c == d && es.length == fs.length && pyEqFields es fs
  | a, b =>
    match number a, number b with
    | some x, some y => x == y
    | _, _ => false

def pyEqList : List Value → List Value → Bool
  | [], [] => true
  | x :: xs, y :: ys => pyEq x y && pyEqList xs ys
  | _, _ => false

def pyEqFields : Fields → Fields → Bool
  | [], _ => true
  | (k, v) :: es, fs =>
    (match assocGet k fs with
      | some w => pyEq v w
      | none => false) && pyEqFields es fs

end

/-- `isinstance(v, int)`, which booleans satisfy. -/
def isInt : Value → Bool
  | bool _ | int _ => true
  | _ => false

/-- `isinstance(v, (int, float))`. -/
def isNumber (v : Value) : Bool := v.number.isSome

def isStr : Value → Bool
  | str _ => true
  | _ => false

def isBool : Value → Bool
  | bool _ => true
  | _ => false

def typeName : Value → String
  | null => "NoneType"
  | bool _ => "bool"
  | int _ => "int"
  | float _ => "float"
  | str _ => "str"
  | bytes _ => "bytes"
  | list _ => "list"
  | dict _ => "dict"
  | obj c _ => c

/-- `for x in v`: a dict gives its keys, a string its characters. -/
def iter : Value → Except PyExc (List Value)
  | list xs => .ok xs
  | dict es => .ok (es.map (fun e => str e.1))
  | str s => .ok (s.toList.map (fun c => str (String.singleton c)))
  | bytes b => .ok (b.toList.map (fun x => int x.toNat))
  | v => .error (typeError s!"'{v.typeName}' object is not iterable")

/-- Lists, dicts and dataclass instances are unhashable. -/
def hashable : Value → Bool
  | list _ | dict _ | obj _ _ => false
  | _ => true

/-- `item in v`. -/
def contains (v item : Value) : Except PyExc Bool :=
  match v, item with
  | list xs, _ => .ok (xs.any (fun x => pyEq x item))
  | dict es, str k => .ok (assocGet k es).isSome
  | dict _, _ =>
    if item.hashable then .ok false
    else .error (typeError s!"unhashable type: '{item.typeName}'")
  | str s, str t => .ok (s.toList.tails.any t.toList.isPrefixOf)
  | str _, _ =>
    .error (typeError s!"'in <string>' requires string as left operand, not {item.typeName}")
  | bytes b, int n => .ok (b.toList.any (fun x => (x.toNat : ℤ) == n))
  | _, _ => .error (typeError s!"argument of type '{v.typeName}' is not iterable")

/-- `v[key]` for a string key. -/
def subscript (v : Value) (key : String) : Except PyExc Value :=
  match v with
  | dict es =>
    match assocGet key es with
    | some w => .ok w
    | none => .error (keyError key)
  | _ => .error (typeError s!"'{v.typeName}' object is not subscriptable")

/-- `v.get(key)`, where a missing key is `none`. -/
def get (v : Value) (key : String) : Except PyExc (Option Value) :=
  match v with
  | dict es => .ok (assocGet key es)
  | _ => .error (attributeError s!"'{v.typeName}' object has no attribute 'get'")

/-- A comparison with a number on the left. -/
def compare (symbol : String) (rel : ℚ → ℚ → Bool) (a b : Value) : Except PyExc Bool :=
  match a.number, b.number with
  | some x, some y => .ok (rel x y)
  | _, _ => .error (typeError
      s!"'{symbol}' not supported between instances of '{a.typeName}' and '{b.typeName}'")

/-- `a < b`. -/
def lt : Value → Value → Except PyExc Bool := compare "<" (fun x y => decide (x < y))

/-- `a > b`. -/
def gt : Value → Value → Except PyExc Bool := compare ">" (fun x y => decide (y < x))

end Value

/-- `sep.join(parts)`. -/
def joinWith (sep : String) : List String → String
  | [] => ""
  | [s] => s
  | s :: t :: rest => s ++ sep ++ joinWith sep (t :: rest)

namespace Value

mutual

/-- `repr(v)`. -/
def repr : Value → String
  | null => "None"
  | bool b => if b then "True" else "False"
  | int n => toString n
  | float x => x.repr
  | str s => reprStr s
  | bytes b => reprBytes b
  | list xs => "[" ++ joinWith ", " (reprList xs) ++ "]"
  | dict es => "\x7b" ++ joinWith ", " (reprEntries es) ++ "\x7d"
  | obj c fs => c ++ "(" ++ joinWith ", " (reprAttributes fs) ++ ")"

def reprList : List Value → List String
  | [] => []
  | x :: xs => repr x :: reprList xs

def reprEntries : List (String × Value) → List String
  | [] => []
  | (k, v) :: es => (reprStr k ++ ": " ++ repr v) :: reprEntries es

def reprAttributes : List (String × Value) → List String
  | [] => []
  | (k, v) :: es => (k ++ "=" ++ repr v) :: reprAttributes es

end

/-- `str(v)`, which is also what an f-string shows. -/
def text : Value → String
  | str s => s
  | v => v.repr

end Value

/-- `d.get(key)` on a record's own dict. -/
def Fields.get (fs : Fields) (key : String) : Option Value := assocGet key fs

/-- `d.get(key)` with `None` for a missing key. -/
def Fields.getD (fs : Fields) (key : String) : Value := (fs.get key).getD .null

/-- `a or b`. -/
def pyOr (a b : Value) : Value := if a.truthy then a else b

/-- `s or d` for an optional string. -/
def textOr (s : Option String) (d : String) : String :=
  match s with
  | some t => if t = "" then d else t
  | none => d

/-- `xs[:limit]`; a negative limit counts from the end. -/
def sliceUpTo {α : Type} (limit : ℤ) (xs : List α) : List α :=
  if 0 ≤ limit then xs.take limit.toNat else xs.take (xs.length - limit.natAbs)

/-- `str.isspace` on one character. -/
def isSpace (c : Char) : Bool :=
  let n := c.toNat
  (0x09 ≤ n && n ≤ 0x0d) || (0x1c ≤ n && n ≤ 0x20) || n == 0x85 || n == 0xa0 || n == 0x1680 ||
    (0x2000 ≤ n && n ≤ 0x200a) || n == 0x2028 || n == 0x2029 || n == 0x202f || n == 0x205f ||
    n == 0x3000

/-- `s.strip()`. -/
def strip (s : String) : String :=
  String.ofList ((s.toList.dropWhile isSpace).reverse.dropWhile isSpace).reverse

/-- `s.rstrip()`. -/
def rstrip (s : String) : String :=
  String.ofList (s.toList.reverse.dropWhile isSpace).reverse

/-- Where `str.splitlines` ends a line. -/
def isLineBreak (c : Char) : Bool :=
  let n := c.toNat
  (0x0a ≤ n && n ≤ 0x0d) || (0x1c ≤ n && n ≤ 0x1e) || n == 0x85 || n == 0x2028 || n == 0x2029

/-- `splitlines` on characters, with the characters of the open line. A carriage return takes a
line feed with it. -/
def splitLinesFrom (line : List Char) (afterReturn : Bool) : List Char → List (List Char)
  | [] => if line.isEmpty then [] else [line]
  | c :: cs =>
    if afterReturn && c.toNat == 0x0a then splitLinesFrom line false cs
    else if isLineBreak c then line :: splitLinesFrom [] (c.toNat == 0x0d) cs
    else splitLinesFrom (line ++ [c]) false cs

/-- `s.splitlines()`. -/
def splitLines (s : String) : List String := (splitLinesFrom [] false s.toList).map String.ofList

/-- Run a raising function over a list and concatenate what it returns. -/
def collect {α β : Type} (f : α → Except PyExc (List β)) : List α → Except PyExc (List β)
  | [] => .ok []
  | x :: xs => do
    let ys ← f x
    let zs ← collect f xs
    return ys ++ zs

theorem bind_eq_ok {ε α β : Type} {x : Except ε α} {f : α → Except ε β} {b : β} :
    (x >>= f) = .ok b ↔ ∃ a, x = .ok a ∧ f a = .ok b := by
  cases x with
  | error e => simp [bind, Except.bind]
  | ok a => simp [bind, Except.bind]

theorem collect_cons_eq_ok {α β : Type} {f : α → Except PyExc (List β)} {x : α} {xs : List α}
    {zs : List β} :
    collect f (x :: xs) = .ok zs ↔
      ∃ ys ys', f x = .ok ys ∧ collect f xs = .ok ys' ∧ zs = ys ++ ys' := by
  simp only [collect]
  cases hx : f x with
  | error e => simp [bind, Except.bind]
  | ok ys =>
    cases hxs : collect f xs with
    | error e => simp [bind, Except.bind]
    | ok ys' => simp [bind, Except.bind, pure, Except.pure, eq_comm]

/-- What a completed sweep collected comes from a completed call on some item. -/
theorem mem_collect {α β : Type} {f : α → Except PyExc (List β)} {xs : List α} {zs : List β}
    (h : collect f xs = .ok zs) {z : β} (hz : z ∈ zs) :
    ∃ x ∈ xs, ∃ ys, f x = .ok ys ∧ z ∈ ys := by
  induction xs generalizing zs with
  | nil =>
    obtain rfl : [] = zs := by simpa [collect] using h
    simp at hz
  | cons x xs ih =>
    obtain ⟨ys, ys', hx, hxs, rfl⟩ := collect_cons_eq_ok.mp h
    rcases List.mem_append.mp hz with hz | hz
    · exact ⟨x, List.mem_cons_self, ys, hx, hz⟩
    · obtain ⟨x', hx', ys'', hf, hz'⟩ := ih hxs hz
      exact ⟨x', List.mem_cons_of_mem x hx', ys'', hf, hz'⟩

/-- A completed sweep completed on every item, and kept all of its results. -/
theorem collect_complete {α β : Type} {f : α → Except PyExc (List β)} {xs : List α}
    {zs : List β} (h : collect f xs = .ok zs) {x : α} (hx : x ∈ xs) :
    ∃ ys, f x = .ok ys ∧ ys ⊆ zs := by
  induction xs generalizing zs with
  | nil => simp at hx
  | cons a xs ih =>
    obtain ⟨ys, ys', ha, hxs, rfl⟩ := collect_cons_eq_ok.mp h
    rcases List.mem_cons.mp hx with rfl | hx
    · exact ⟨ys, ha, List.subset_append_left ys ys'⟩
    · obtain ⟨ys'', hf, hsub⟩ := ih hxs hx
      exact ⟨ys'', hf, fun y hy => List.mem_append_right ys (hsub hy)⟩

/-- A sweep completes with results that all have a property when it does so on every item. -/
theorem collect_all_iff {α β : Type} {P : β → Prop} {f : α → Except PyExc (List β)} {xs : List α} :
    (∃ zs, collect f xs = .ok zs ∧ ∀ z ∈ zs, P z) ↔
      ∀ x ∈ xs, ∃ ys, f x = .ok ys ∧ ∀ y ∈ ys, P y := by
  induction xs with
  | nil => simp [collect]
  | cons x xs ih =>
    rw [List.forall_mem_cons, ← ih]
    simp only [collect_cons_eq_ok]
    constructor
    · rintro ⟨_, ⟨ys, ys', hx, hxs, rfl⟩, all⟩
      obtain ⟨first, others⟩ := List.forall_mem_append.mp all
      exact ⟨⟨ys, hx, first⟩, ys', hxs, others⟩
    · rintro ⟨⟨ys, hx, first⟩, ys', hxs, others⟩
      exact ⟨_, ⟨ys, ys', hx, hxs, rfl⟩, List.forall_mem_append.mpr ⟨first, others⟩⟩

end SthBoring.Lib.PyValue
