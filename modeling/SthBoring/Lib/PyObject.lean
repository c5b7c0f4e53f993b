/- Module: SthBoring/Lib/PyObject
   source: attribute access, dict(), dataclass constructors, dataclasses.asdict and shlex.split
   digest: Objects with attributes, and the text of a command line cut into arguments. -/

import SthBoring.Lib.PyValue

set_option autoImplicit false
set_option relaxedAutoImplicit false

namespace SthBoring.Lib.PyObject

open SthBoring.Lib.OrderedDict (assocGet assocSet assocGet_assocSet)
open SthBoring.Lib.PyValue

section Attributes

/-- `getattr(v, name, None)`, where a missing attribute is `none`. -/
def attribute? (v : Value) (name : String) : Option Value :=
  match v with
  | .obj _ fields => assocGet name fields
  | _ => none

/-- `v.name`. -/
def getAttr (v : Value) (name : String) : Except PyExc Value :=
  match attribute? v name with
  | some w => .ok w
  | none => .error (attributeError s!"'{v.typeName}' object has no attribute '{name}'")

/-- `getattr(v, name, default)`. -/
def getAttrD (v : Value) (name : String) (default : Value) : Value :=
  (attribute? v name).getD default

def isInstanceOf (v : Value) (cls : String) : Bool :=
  match v with
  | .obj c _ => c == cls
  | _ => false

end Attributes

section Dicts

/-- `d.setdefault(key, value)`. -/
def setDefault (d : Fields) (key : String) (value : Value) : Fields :=
  if (d.get key).isSome then d else assocSet key value d

theorem get_setDefault_of_none {d : Fields} {key : String} (absent : d.get key = none)
    (value : Value) : (setDefault d key value).get key = some value := by
  rw [setDefault, absent, Option.isSome_none, if_neg Bool.false_ne_true, Fields.get,
    assocGet_assocSet, if_pos rfl]

theorem get_setDefault_of_ne {d : Fields} {key other : String} (h : key ≠ other) (value : Value) :
    (setDefault d key value).get other = d.get other := by
  unfold setDefault
  split
  · rfl
  · rw [Fields.get, assocGet_assocSet, if_neg h, Fields.get]

/-- The two members of one item of an update sequence. -/
def pairOf (position : ℕ) (item : Value) : Except PyExc (Value × Value) :=
  match item.iter with
  | .error _ => .error (typeError
      s!"cannot convert dictionary update sequence element #{position} to a sequence")
  | .ok [key, value] => .ok (key, value)
  | .ok members => .error (valueError
      s!"dictionary update sequence element #{position} has length {members.length}; 2 is required")

/-- `dict(pairs)`. Keys that are not text, which no caller looks for, are left out. -/
def dictOfPairs (position : ℕ) (d : Fields) : List Value → Except PyExc Fields
  | [] => .ok d
  | item :: items =>
    match pairOf position item with
    | .error exc => .error exc
    | .ok (.str key, value) =>
      dictOfPairs (position + 1) (assocSet key value d) items
    | .ok (key, _) =>
      if key.hashable then dictOfPairs (position + 1) d items
      else .error (typeError s!"unhashable type: '{key.typeName}'")

/-- `dict(v)`. -/
def dictOf (v : Value) : Except PyExc Fields :=
  match v with
  | .dict es => .ok es
  | v =>
    match v.iter with
    | .error exc => .error exc
    | .ok items => dictOfPairs 0 [] items

end Dicts

section Dataclasses

/-- The fields of a dataclass with their defaults. -/
abbrev Declared := List (String × Option Value)

/-- `cls(**kwargs)`, with the keywords that are no field of the class dropped. -/
def construct (cls : String) (declared : Declared) (kwargs : Fields) : Except PyExc Value :=
  match declared.find? (fun d => d.2.isNone && (kwargs.get d.1).isNone) with
  | some d => .error (typeError s!"{cls}.__init__() missing 1 required positional argument: '{d.1}'")
  | none =>
    .ok (.obj cls (declared.map (fun d => (d.1, (kwargs.get d.1).getD (d.2.getD .null)))))

mutual

/-- `dataclasses.asdict` on instances, and on what lists and dicts hold. -/
def jsonable : Value → Value
  | .obj _ fields => .dict (jsonableFields fields)
  | .dict es => .dict (jsonableFields es)
  | .list xs => .list (jsonableList xs)
  | v => v

def jsonableList : List Value → List Value
  | [] => []
  | x :: xs => jsonable x :: jsonableList xs

def jsonableFields : List (String × Value) → List (String × Value)
  | [] => []
  | (k, v) :: es => (k, jsonable v) :: jsonableFields es

end

theorem map_fst_jsonableFields (es : Fields) :
    (jsonableFields es).map Prod.fst = es.map Prod.fst := by
  induction es with
  | nil => rfl
  | cons e es ih =>
    rw [jsonableFields, List.map_cons, List.map_cons, ih]

end Dataclasses

section CommandLine

/-- Where the reader stands: between words, in a word, in quotes, or after a backslash, with
the quotes to go back to when it stood in some. -/
inductive ShlexMode where
  | outside
  | word
  | quote (q : Char)
  | escape (back : Option Char)

def isShlexSpace (c : Char) : Bool :=
  let n := c.toNat
  n == 0x20 || n == 0x09 || n == 0x0d || n == 0x0a

/-- What the word becomes by the character after a backslash. In double quotes the backslash
stays, unless it stands before one of the two characters it can take away. -/
def unescape (token : List Char) (back : Option Char) (c : Char) : List Char :=
  match back with
  | none => token ++ [c]
  | some q => if c ≠ backslash ∧ c ≠ q then token ++ [backslash, c] else token ++ [c]

/-- The mode after a character of a word or of the space before it. -/
def afterPlain (c : Char) : ShlexMode :=
  if c = backslash then .escape none
  else if c = apostrophe ∨ c = quotation then .quote c
  else .word

/-- `shlex.split` from a mode, with the word read so far and whether quotes belong to it. -/
def shlexFrom (mode : ShlexMode) (token : List Char) (quoted : Bool) :
    List Char → Except PyExc (List String)
  | [] =>
    match mode with
    | .outside => .ok []
    | .word => .ok (if token.isEmpty && !quoted then [] else [String.ofList token])
    | .quote _ => .error (valueError "No closing quotation")
    | .escape _ => .error (valueError "No escaped character")
  | c :: cs =>
    match mode with
    | .outside =>
      if isShlexSpace c then shlexFrom .outside [] false cs
      else
        match afterPlain c with
        | .word => shlexFrom .word [c] false cs
        | next => shlexFrom next [] false cs
    | .word =>
      if isShlexSpace c then do
        let rest ← shlexFrom .outside [] false cs
        return if token.isEmpty && !quoted then rest else String.ofList token :: rest
      else
        match afterPlain c with
        | .word => shlexFrom .word (token ++ [c]) quoted cs
        | next => shlexFrom next token quoted cs
    | .quote q =>
      if c = q then shlexFrom .word token true cs
      else if c = backslash ∧ q = quotation then shlexFrom (.escape (some q)) token true cs
      else shlexFrom (.quote q) (token ++ [c]) true cs
    | .escape back =>
      let token' := unescape token back c
      match back with
      | none => shlexFrom .word token' quoted cs
      | some q => shlexFrom (.quote q) token' quoted cs

/-- `shlex.split(s)`. -/
def shlexSplit (s : String) : Except PyExc (List String) := shlexFrom .outside [] false s.toList

example : (shlexSplit "java -version \"a b\" c\\ d ''").toOption =
    some ["java", "-version", "a b", "c d", ""] := by
  decide +kernel

end CommandLine

end SthBoring.Lib.PyObject
