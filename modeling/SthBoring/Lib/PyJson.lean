/- Module: SthBoring/Lib/PyJson
   source: json.dumps of the standard library
   digest: The JSON text of a value, with the keys of every object sorted. -/

import SthBoring.Lib.PyValue

set_option autoImplicit false
set_option relaxedAutoImplicit false

namespace SthBoring.Lib.PyJson

open SthBoring.Lib.PyValue (Value Fields PyExc typeError backslash quotation escaped hexDigits
  joinWith)

/-- The arguments of `json.dumps` that the callers vary: `ensure_ascii` and `separators`. -/
structure Format where
  ensureAscii : Bool
  itemSeparator : String
  keySeparator : String

/-- The defaults of `json.dumps`. -/
def Format.standard : Format := ⟨true, ", ", ": "⟩

/-- `ensure_ascii=False`. -/
def Format.unicode : Format := ⟨false, ", ", ": "⟩

/-- `ensure_ascii=False, separators=(",", ":")`. -/
def Format.compact : Format := ⟨false, ",", ":"⟩

/-- A character in terms of 16-bit units; one outside the first plane takes two. -/
def escapeUnits (n : ℕ) : String :=
  if n < 0x10000 then escaped "u" (hexDigits 4 n)
  else escaped "u" (hexDigits 4 (0xd800 + (n - 0x10000) / 0x400)) ++
    escaped "u" (hexDigits 4 (0xdc00 + (n - 0x10000) % 0x400))

/-- One character inside a JSON string. -/
def escapeChar (format : Format) (c : Char) : String :=
  let n := c.toNat
  if c = quotation || c = backslash then escaped (String.singleton c) ""
  else if n = 0x08 then escaped "b" ""
  else if n = 0x09 then escaped "t" ""
  else if n = 0x0a then escaped "n" ""
  else if n = 0x0c then escaped "f" ""
  else if n = 0x0d then escaped "r" ""
  else if n < 0x20 || (format.ensureAscii && 0x7f ≤ n) then escapeUnits n
  else String.singleton c

def encodeString (format : Format) (s : String) : String :=
  String.singleton quotation ++ String.join (s.toList.map (escapeChar format)) ++
    String.singleton quotation

/-- The members of an object in the order of their keys. -/
def sortMembers {α : Type} (members : List (String × α)) : List (String × α) :=
  members.insertionSort (fun a b => a.1 ≤ b.1)

def encodeMember (format : Format) (member : String × String) : String :=
  encodeString format member.1 ++ format.keySeparator ++ member.2

section

variable (format : Format)

mutual

/-- `json.dumps(v, sort_keys=True, default=str)` in a format. -/
def dumps : Value → String
  | .null => "null"
  | .bool b => if b then "true" else "false"
  | .int n => toString n
  | .float x => x.repr
  | .str s => encodeString format s
  | .bytes b => encodeString format (Value.bytes b).text
  | .list xs => "[" ++ joinWith format.itemSeparator (dumpsList xs) ++ "]"
  | .dict es =>
    "\x7b" ++ joinWith format.itemSeparator
      ((sortMembers (dumpsMembers es)).map (encodeMember format)) ++ "\x7d"
  | .obj c fs => encodeString format (Value.obj c fs).text

def dumpsList : List Value → List String
  | [] => []
  | x :: xs => dumps x :: dumpsList xs

def dumpsMembers : List (String × Value) → List (String × String)
  | [] => []
  | (k, v) :: es => (k, dumps v) :: dumpsMembers es

end

end

mutual

/-- The type of the first part of a value that JSON has no text for. -/
def unserializable : Value → Option String
  | .bytes _ => some "bytes"
  | .obj c _ => some c
  | .list xs => unserializableList xs
  | .dict es => (sortMembers (unserializableMembers es)).findSome? (·.2)
  | _ => none

def unserializableList : List Value → Option String
  | [] => none
  | x :: xs => (unserializable x).or (unserializableList xs)

def unserializableMembers : List (String × Value) → List (String × Option String)
  | [] => []
  | (k, v) :: es => (k, unserializable v) :: unserializableMembers es

end

/-- `json.dumps(v, sort_keys=True)` in a format, which raises on what it cannot write. -/
def dumpsStrict (format : Format) (v : Value) : Except PyExc String :=
  match unserializable v with
  | some cls => .error (typeError s!"Object of type {cls} is not JSON serializable")
  | none => .ok (dumps format v)

section InOrder

variable (format : Format)

mutual

/-- `json.dumps(v)` in a format: the members of an object stay in their order. -/
def dumpsInOrder : Value → Except PyExc String
  | .null => .ok "null"
  | .bool b => .ok (if b then "true" else "false")
  | .int n => .ok (toString n)
  | .float x => .ok x.repr
  | .str s => .ok (encodeString format s)
  | .bytes _ => .error (typeError "Object of type bytes is not JSON serializable")
  | .obj cls _ => .error (typeError s!"Object of type {cls} is not JSON serializable")
  | .list xs => do
    let items ← dumpsItems xs
    .ok ("[" ++ joinWith format.itemSeparator items ++ "]")
  | .dict es => do
    let members ← dumpsEntries es
    .ok ("\x7b" ++ joinWith format.itemSeparator (members.map (encodeMember format)) ++ "\x7d")

def dumpsItems : List Value → Except PyExc (List String)
  | [] => .ok []
  | x :: xs => do
    let item ← dumpsInOrder x
    let items ← dumpsItems xs
    .ok (item :: items)

def dumpsEntries : List (String × Value) → Except PyExc (List (String × String))
  | [] => .ok []
  | (k, v) :: es => do
    let member ← dumpsInOrder v
    let members ← dumpsEntries es
    .ok ((k, member) :: members)

end

end InOrder

end SthBoring.Lib.PyJson
