/- Module: SthBoring/Lib/JsonText
   source: json.dumps of the standard library, with sorted keys and compact separators
   digest: The compact text of a JSON value can be told from what follows it, and gives it back. -/

import Mathlib.Tactic.IntervalCases
import SthBoring.Lib.CanonicalJson

set_option autoImplicit false
set_option relaxedAutoImplicit false

namespace SthBoring.Lib.JsonText

open SthBoring.Lib.PyValue (Value Fields PyFloat joinWith backslash quotation escaped hexDigits)
open SthBoring.Lib.JsonValue
open SthBoring.Lib.PyJson
open SthBoring.Lib.CanonicalJson

section Strings

/-- The characters that stand for one character inside a string. -/
def escapeText (c : Char) : List Char := (escapeChar .compact c).toList

def hexValue (c : Char) : ℕ := if isDigit c then c.toNat - 0x30 else c.toNat - 0x57

/-- What follows a backslash, read back. -/
def readEscaped : List Char → Option (Char × List Char)
  | 'b' :: cs => some (Char.ofNat 0x08, cs)
  | 't' :: cs => some (Char.ofNat 0x09, cs)
  | 'n' :: cs => some (Char.ofNat 0x0a, cs)
  | 'f' :: cs => some (Char.ofNat 0x0c, cs)
  | 'r' :: cs => some (Char.ofNat 0x0d, cs)
  | 'u' :: _ :: _ :: a :: b :: cs => some (Char.ofNat (16 * hexValue a + hexValue b), cs)
  | c :: cs => some (c, cs)
  | [] => none

/-- One character of a string, read back. -/
def readCharacter : List Char → Option (Char × List Char)
  | c :: cs => if c = backslash then readEscaped cs else some (c, cs)
  | [] => none

theorem escapeText_control : ∀ n < 0x20, ∀ cs,
    readCharacter (escapeText (Char.ofNat n) ++ cs) = some (Char.ofNat n, cs) := by
  intro n hn cs
  interval_cases n <;> rfl

theorem readCharacter_escapeText (c : Char) (cs : List Char) :
    readCharacter (escapeText c ++ cs) = some (c, cs) := by
  by_cases control : c.toNat < 0x20
  · have own := escapeText_control c.toNat control cs
    rwa [Char.ofNat_toNat] at own
  · by_cases special : c = quotation ∨ c = backslash
    · rcases special with rfl | rfl <;> rfl
    · have other : escapeText c = [c] := by
        rw [not_or] at special
        have n1 : c.toNat ≠ 0x08 := by omega
        have n2 : c.toNat ≠ 0x09 := by omega
        have n3 : c.toNat ≠ 0x0a := by omega
        have n4 : c.toNat ≠ 0x0c := by omega
        have n5 : c.toNat ≠ 0x0d := by omega
        simp [escapeText, escapeChar, special.1, special.2, n1, n2, n3, n4, n5, control,
          Format.compact]
      rw [other, List.singleton_append, readCharacter, if_neg fun same => special (Or.inr same)]

theorem escapeText_inj {c d : Char} {cs ds : List Char}
    (same : escapeText c ++ cs = escapeText d ++ ds) : c = d ∧ cs = ds := by
  have left := readCharacter_escapeText c cs
  rw [same, readCharacter_escapeText d ds] at left
  obtain ⟨rfl, rfl⟩ := Prod.mk.inj (Option.some.inj left)
  exact ⟨rfl, rfl⟩

/-- A closing quotation mark is not the text of a character. -/
theorem escapeText_ne_quotation (c : Char) (cs ds : List Char) :
    escapeText c ++ cs ≠ quotation :: ds := by
  intro same
  have left := readCharacter_escapeText c cs
  rw [same] at left
  have read : readCharacter (quotation :: ds) = some (quotation, ds) := rfl
  rw [read] at left
  obtain ⟨rfl, rfl⟩ := Prod.mk.inj (Option.some.inj left)
  have longer := congrArg List.length same
  simp [escapeText, escapeChar, escaped] at longer

theorem body_inj {cs ds r r' : List Char}
    (same : cs.flatMap escapeText ++ quotation :: r = ds.flatMap escapeText ++ quotation :: r') :
    cs = ds ∧ r = r' := by
  induction cs generalizing ds with
  | nil =>
    cases ds with
    | nil => exact ⟨rfl, (List.cons.inj same).2⟩
    | cons d ds =>
      rw [List.flatMap_cons, List.append_assoc] at same
      exact absurd same.symm (escapeText_ne_quotation d _ _)
  | cons c cs ih =>
    cases ds with
    | nil =>
      rw [List.flatMap_cons, List.append_assoc] at same
      exact absurd same (escapeText_ne_quotation c _ _)
    | cons d ds =>
      rw [List.flatMap_cons, List.flatMap_cons, List.append_assoc, List.append_assoc] at same
      obtain ⟨rfl, rest⟩ := escapeText_inj same
      obtain ⟨rfl, rfl⟩ := ih rest
      exact ⟨rfl, rfl⟩

def stringText (s : String) : List Char := (encodeString .compact s).toList

theorem stringText_eq (s : String) :
    stringText s = quotation :: (s.toList.flatMap escapeText ++ [quotation]) := by
  rw [stringText, encodeString, String.toList_append, String.toList_append, String.toList_join,
    List.flatMap_map]
  rfl

theorem stringText_inj {s t : String} {r r' : List Char}
    (same : stringText s ++ r = stringText t ++ r') : s = t ∧ r = r' := by
  rw [stringText_eq, stringText_eq, List.cons_append, List.cons_append, List.append_assoc,
    List.append_assoc] at same
  obtain ⟨chars, rest⟩ := body_inj (List.cons.inj same).2
  exact ⟨String.toList_inj.mp chars, rest⟩

end Strings

section Numbers

/-- What follows a value does not look like more of a number. -/
def Ends (rest : List Char) : Prop := ∀ c ∈ rest.head?, isNumeric c = false

theorem ends_cons {c : Char} {rest : List Char} (other : isNumeric c = false) :
    Ends (c :: rest) := by
  intro d hd
  cases hd
  exact other

theorem takeWhile_numeric {cs rest : List Char} (numeric : ∀ c ∈ cs, isNumeric c = true)
    (ends : Ends rest) : (cs ++ rest).takeWhile isNumeric = cs := by
  rw [List.takeWhile_append_of_pos numeric]
  cases rest with
  | nil => simp
  | cons c rest => simp [ends c rfl]

/-- Where two numbers end, what follows them begins. -/
theorem numeric_inj {cs ds r r' : List Char} (left : ∀ c ∈ cs, isNumeric c = true)
    (right : ∀ d ∈ ds, isNumeric d = true) (ends : Ends r) (ends' : Ends r')
    (same : cs ++ r = ds ++ r') : cs = ds ∧ r = r' := by
  have texts : cs = ds := by
    rw [← takeWhile_numeric left ends, same, takeWhile_numeric right ends']
  subst texts
  exact ⟨rfl, List.append_cancel_left same⟩

theorem isDigit_of_mem_repr {n : ℕ} {c : Char} (mem : c ∈ n.repr.toList) : isDigit c = true := by
  rw [Nat.toList_repr] at mem
  have digit := Nat.isDigit_of_mem_toDigits (by decide) (by decide) mem
  simp only [Char.isDigit, Bool.and_eq_true, decide_eq_true_eq, ge_iff_le] at digit
  simp only [isDigit, Bool.and_eq_true, decide_eq_true_eq]
  exact digit

theorem repr_inj {m n : ℕ} (same : m.repr = n.repr) : m = n := by
  have digits : Nat.toDigits 10 m = Nat.toDigits 10 n := by
    rw [← Nat.toList_repr, same, Nat.toList_repr]
  rw [← Nat.ofDigitChars_ten_toDigits (n := m), digits, Nat.ofDigitChars_ten_toDigits]

theorem intText (n : ℤ) : (toString n).toList =
    if n < 0 then '-' :: n.natAbs.repr.toList else n.natAbs.repr.toList := by
  cases n with
  | ofNat n => rfl
  | negSucc n =>
    rw [if_pos (Int.negSucc_lt_zero n)]
    show ("-" ++ (n + 1).repr).toList = _
    rw [String.toList_append]
    rfl

/-- The text of an integer has digits and a sign only. -/
theorem mem_intText {n : ℤ} {c : Char} (mem : c ∈ (toString n).toList) :
    isDigit c = true ∨ c = '-' := by
  rw [intText] at mem
  split at mem
  · rcases List.mem_cons.mp mem with sign | digit
    · exact Or.inr sign
    · exact Or.inl (isDigit_of_mem_repr digit)
  · exact Or.inl (isDigit_of_mem_repr mem)

theorem intText_inj {m n : ℤ} (same : (toString m).toList = (toString n).toList) : m = n := by
  have sign : ∀ k : ℕ, '-' ∉ k.repr.toList := fun k mem => by
    have digit := isDigit_of_mem_repr mem
    exact absurd digit (by decide)
  have value : ∀ {j k : ℕ}, j.repr.toList = k.repr.toList → j = k := fun h =>
    repr_inj (String.toList_inj.mp h)
  rw [intText, intText] at same
  split at same
  · split at same
    · have magnitude := value (List.cons.inj same).2
      omega
    · exact absurd (same ▸ List.mem_cons_self) (sign n.natAbs)
  · split at same
    · exact absurd (same.symm ▸ List.mem_cons_self) (sign m.natAbs)
    · have magnitude := value same
      omega

theorem numeric_of_isDigit {c : Char} (digit : isDigit c = true) : isNumeric c = true := by
  simp [isNumeric, digit]

theorem numeric_intText (n : ℤ) : ∀ c ∈ (toString n).toList, isNumeric c = true := by
  intro c mem
  rcases mem_intText mem with digit | rfl
  · exact numeric_of_isDigit digit
  · rfl

/-- No float is written like an integer. -/
theorem intText_ne_repr {n : ℤ} {x : PyFloat} (written : Written x) :
    (toString n).toList ≠ x.repr.toList := by
  intro same
  have marked := written.marked
  rw [← same] at marked
  rcases marked with mark | mark
  · exact absurd (mem_intText mark) (by decide)
  · exact absurd (mem_intText mark) (by decide)

theorem repr_float_inj {x y : PyFloat} (hx : Written x) (hy : Written y)
    (same : x.repr.toList = y.repr.toList) : x = y := by
  have texts : x.repr = y.repr := String.toList_inj.mp same
  have values : x.value = y.value := by
    have left := hx.reads
    rw [texts, hy.reads] at left
    exact (Option.some.inj left).symm
  cases x
  cases y
  cases texts
  cases values
  rfl

end Numbers

section Sequences

variable {α β : Type}

/-- The rest of a sequence after one of its items, and what follows the sequence. -/
def closing (close : Char) : List (List Char) → List Char → List Char
  | [], rest => close :: rest
  | item :: items, rest => ',' :: (item ++ closing close items rest)

/-- The items of a sequence, its end, and what follows it. -/
def sequence (close : Char) : List (List Char) → List Char → List Char
  | [], rest => close :: rest
  | item :: items, rest => item ++ closing close items rest

theorem ends_closing {close : Char} (other : isNumeric close = false) (items : List (List Char))
    (rest : List Char) : Ends (closing close items rest) := by
  cases items with
  | nil => exact ends_cons other
  | cons item items => exact ends_cons rfl

theorem joinWith_sequence (close : Char) (items : List String) (rest : List Char) :
    (joinWith "," items).toList ++ close :: rest =
      sequence close (items.map String.toList) rest := by
  cases items with
  | nil => rfl
  | cons item items =>
    induction items generalizing item with
    | nil => rfl
    | cons next items ih =>
      have tail := ih next
      rw [List.map_cons, sequence] at tail
      rw [joinWith, String.toList_append, String.toList_append, List.append_assoc,
        List.append_assoc, tail]
      rfl

variable {enc : α → List Char} {f : α → β} {close : Char}

/-- The texts of these items can be told from what follows them. -/
def Separable (enc : α → List Char) (f : α → β) (xs ys : List α) : Prop :=
  ∀ x ∈ xs, ∀ y ∈ ys, ∀ r r', Ends r → Ends r' → enc x ++ r = enc y ++ r' → f x = f y ∧ r = r'

theorem closing_inj (comma : close ≠ ',') (other : isNumeric close = false) {xs ys : List α}
    (separable : Separable enc f xs ys) {r r' : List Char}
    (same : closing close (xs.map enc) r = closing close (ys.map enc) r') :
    xs.map f = ys.map f ∧ r = r' := by
  induction xs generalizing ys with
  | nil =>
    cases ys with
    | nil => exact ⟨rfl, (List.cons.inj same).2⟩
    | cons y ys => exact absurd (List.cons.inj same).1 comma
  | cons x xs ih =>
    cases ys with
    | nil => exact absurd (List.cons.inj same).1.symm comma
    | cons y ys =>
      have items := (List.cons.inj same).2
      obtain ⟨first, rest⟩ := separable x List.mem_cons_self y List.mem_cons_self _ _
        (ends_closing other _ _) (ends_closing other _ _) items
      have inner : Separable enc f xs ys := fun a ha b hb =>
        separable a (List.mem_cons_of_mem x ha) b (List.mem_cons_of_mem y hb)
      obtain ⟨others, after⟩ := ih inner rest
      exact ⟨by rw [List.map_cons, List.map_cons, first, others], after⟩

theorem sequence_inj (comma : close ≠ ',') (other : isNumeric close = false) {xs ys : List α}
    (separable : Separable enc f xs ys)
    (opens : ∀ a, a ∈ xs ∨ a ∈ ys → ∀ r r', enc a ++ r ≠ close :: r') {r r' : List Char}
    (same : sequence close (xs.map enc) r = sequence close (ys.map enc) r') :
    xs.map f = ys.map f ∧ r = r' := by
  cases xs with
  | nil =>
    cases ys with
    | nil => exact ⟨rfl, (List.cons.inj same).2⟩
    | cons y ys => exact absurd same.symm (opens y (Or.inr List.mem_cons_self) _ _)
  | cons x xs =>
    cases ys with
    | nil => exact absurd same (opens x (Or.inl List.mem_cons_self) _ _)
    | cons y ys =>
      have same' : closing close ((x :: xs).map enc) r = closing close ((y :: ys).map enc) r' :=
        congrArg (',' :: ·) same
      exact closing_inj comma other separable same'

end Sequences

section Values

def valueText (v : Value) : List Char := (dumps .compact v).toList

def memberText (e : String × Value) : List Char := stringText e.1 ++ ':' :: valueText e.2

theorem dumpsList_eq (xs : List Value) : dumpsList .compact xs = xs.map (dumps .compact) := by
  induction xs with
  | nil => rfl
  | cons x xs ih => rw [dumpsList, ih, List.map_cons]

theorem dumpsMembers_eq (es : Fields) :
    dumpsMembers .compact es = es.map fun e => (e.1, dumps .compact e.2) := by
  induction es with
  | nil => rfl
  | cons e es ih =>
    obtain ⟨k, v⟩ := e
    rw [dumpsMembers, ih, List.map_cons]

theorem valueText_list (xs : List Value) (rest : List Char) :
    valueText (.list xs) ++ rest = '[' :: sequence ']' (xs.map valueText) rest := by
  have items := joinWith_sequence ']' (xs.map (dumps .compact)) rest
  rw [List.map_map] at items
  rw [valueText, dumps, dumpsList_eq, String.toList_append, String.toList_append, List.append_assoc,
    List.append_assoc]
  exact congrArg ('[' :: ·) items

theorem valueText_dict (es : Fields) (rest : List Char) :
    valueText (.dict es) ++ rest =
      '{' :: sequence '}' ((sortMembers es).map memberText) rest := by
  have sorted : sortMembers (dumpsMembers .compact es) =
      (sortMembers es).map fun e => (e.1, dumps .compact e.2) := by
    rw [dumpsMembers_eq, map_sortMembers]
  have texts : ∀ e : String × Value,
      (encodeMember .compact (e.1, dumps .compact e.2)).toList = memberText e := by
    intro e
    rw [encodeMember, String.toList_append, String.toList_append, List.append_assoc]
    rfl
  have items := joinWith_sequence '}'
    ((sortMembers es).map fun e => encodeMember .compact (e.1, dumps .compact e.2)) rest
  rw [List.map_map, funext (f := String.toList ∘ _) (g := memberText) texts] at items
  rw [valueText, dumps, sorted, List.map_map, String.toList_append, String.toList_append,
    List.append_assoc, List.append_assoc]
  exact congrArg ('{' :: ·) items

/-- What the first character of a text says about its value. -/
def kindOf (c : Char) : Char := if isNumeric c then '0' else c

def lead : Value → Char
  | .null => 'n'
  | .bool b => if b then 't' else 'f'
  | .int _ | .float _ => '0'
  | .list _ => '['
  | .dict _ => '{'
  | .str _ | .bytes _ | .obj _ _ => quotation

theorem numeric_valueText {v : Value} (json : IsJson v) (number : lead v = '0') :
    ∀ c ∈ valueText v, isNumeric c = true := by
  cases v with
  | int n => exact numeric_intText n
  | float x => exact json.numeric
  | bool b => cases b <;> simp [lead] at number
  | _ => simp [lead, quotation] at number

theorem valueText_head {v : Value} (json : IsJson v) :
    ∃ c cs, valueText v = c :: cs ∧ kindOf c = lead v := by
  have number : lead v = '0' → valueText v ≠ [] →
      ∃ c cs, valueText v = c :: cs ∧ kindOf c = lead v := by
    intro isNumber nonempty
    obtain ⟨c, cs, own⟩ := List.exists_cons_of_ne_nil nonempty
    have numeric := numeric_valueText json isNumber c (own ▸ List.mem_cons_self)
    exact ⟨c, cs, own, by rw [kindOf, if_pos numeric, isNumber]⟩
  cases v with
  | null => exact ⟨'n', _, rfl, rfl⟩
  | bool b => cases b with
    | true => exact ⟨'t', _, rfl, rfl⟩
    | false => exact ⟨'f', _, rfl, rfl⟩
  | int n =>
    refine number rfl fun empty => ?_
    change (toString n).toList = [] at empty
    rw [intText] at empty
    split at empty
    · cases empty
    · simp at empty
  | float x =>
    refine number rfl fun empty => ?_
    change x.repr.toList = [] at empty
    have marked := json.marked
    rw [empty] at marked
    simp at marked
  | str s => exact ⟨quotation, _, stringText_eq s, rfl⟩
  | list xs =>
    have own := valueText_list xs []
    rw [List.append_nil] at own
    exact ⟨'[', _, own, rfl⟩
  | dict es =>
    have own := valueText_dict es []
    rw [List.append_nil] at own
    exact ⟨'{', _, own, rfl⟩
  | bytes b => exact json.elim
  | obj cls fields => exact json.elim

/-- Values with the same text to begin with are of one kind. -/
theorem lead_eq {v w : Value} (hv : IsJson v) (hw : IsJson w) {r r' : List Char}
    (same : valueText v ++ r = valueText w ++ r') : lead v = lead w := by
  obtain ⟨c, cs, hc, kind⟩ := valueText_head hv
  obtain ⟨d, ds, hd, kind'⟩ := valueText_head hw
  rw [hc, hd] at same
  rw [← kind, ← kind', (List.cons.inj same).1]

theorem valueText_ne {v : Value} (json : IsJson v) {close : Char} (other : kindOf close ≠ lead v)
    (r r' : List Char) : valueText v ++ r ≠ close :: r' := by
  intro same
  obtain ⟨c, cs, hc, kind⟩ := valueText_head json
  rw [hc] at same
  exact other ((List.cons.inj same).1 ▸ kind)

theorem number_inj {v w : Value} (hv : IsJson v) (hw : IsJson w) (number : lead v = '0')
    (number' : lead w = '0') {r r' : List Char} (ends : Ends r) (ends' : Ends r')
    (same : valueText v ++ r = valueText w ++ r') : v = w ∧ r = r' := by
  obtain ⟨texts, rest⟩ := numeric_inj (numeric_valueText hv number) (numeric_valueText hw number')
    ends ends' same
  refine ⟨?_, rest⟩
  cases v with
  | int m => cases w with
    | int n => rw [intText_inj texts]
    | float y => exact absurd texts (intText_ne_repr hw)
    | bool b => cases b <;> simp [lead] at number'
    | _ => simp [lead, quotation] at number'
  | float x => cases w with
    | int n => exact absurd texts.symm (intText_ne_repr hv)
    | float y => rw [repr_float_inj hv hw texts]
    | bool b => cases b <;> simp [lead] at number'
    | _ => simp [lead, quotation] at number'
  | bool b => cases b <;> simp [lead] at number
  | _ => simp [lead, quotation] at number

end Values

section Injectivity

/-- The text of `v` can be told from what follows it, and gives `v` back up to the order of
members. -/
def Readable (v : Value) : Prop :=
  ∀ w, IsJson w → ∀ r r', Ends r → Ends r' → valueText v ++ r = valueText w ++ r' →
    canon v = canon w ∧ r = r'

theorem readable_number {v : Value} (json : IsJson v) (number : lead v = '0') : Readable v := by
  intro w hw r r' ends ends' same
  have number' : lead w = '0' := (lead_eq json hw same).symm.trans number
  obtain ⟨rfl, rest⟩ := number_inj json hw number number' ends ends' same
  exact ⟨rfl, rest⟩

theorem readable_str (s : String) : Readable (.str s) := by
  intro w hw r r' ends ends' same
  have kind := lead_eq (v := .str s) trivial hw same
  cases w with
  | str t =>
    obtain ⟨rfl, rest⟩ := stringText_inj same
    exact ⟨rfl, rest⟩
  | bool b => cases b <;> simp [lead, quotation] at kind
  | bytes b => exact hw.elim
  | obj cls fields => exact hw.elim
  | _ => simp [lead, quotation] at kind

/-- A constant is the only value with its text. -/
theorem readable_constant {v : Value} (json : IsJson v)
    (only : ∀ w, IsJson w → lead v = lead w → v = w) : Readable v := by
  intro w hw r r' ends ends' same
  obtain rfl := only w hw (lead_eq json hw same)
  exact ⟨rfl, List.append_cancel_left same⟩

theorem readable_null : Readable .null := by
  refine readable_constant trivial fun w hw kind => ?_
  cases w with
  | null => rfl
  | bool b => cases b <;> simp [lead] at kind
  | _ => simp [lead, quotation] at kind

theorem readable_bool (b : Bool) : Readable (.bool b) := by
  refine readable_constant trivial fun w hw kind => ?_
  cases w with
  | bool c => cases b <;> cases c <;> first | rfl | simp [lead] at kind
  | _ => cases b <;> simp [lead, quotation] at kind

theorem readable_list {xs : List Value} (json : IsJson (.list xs))
    (items : ∀ x ∈ xs, Readable x) : Readable (.list xs) := by
  intro w hw r r' ends ends' same
  have kind := lead_eq json hw same
  cases w with
  | list ys =>
    rw [valueText_list, valueText_list] at same
    have separable : Separable valueText canon xs ys := fun x hx y hy =>
      items x hx y (allJson_iff.mp hw y hy)
    have opens : ∀ a, a ∈ xs ∨ a ∈ ys → ∀ r r', valueText a ++ r ≠ ']' :: r' := by
      intro a mem
      have own : IsJson a := mem.elim (allJson_iff.mp json a) (allJson_iff.mp hw a)
      refine valueText_ne own fun close => ?_
      cases a with
      | bool b => cases b <;> simp [lead, kindOf, isNumeric, isDigit] at close
      | _ => simp [lead, kindOf, isNumeric, isDigit, quotation] at close
    obtain ⟨values, rest⟩ := sequence_inj (by decide) (by decide) separable opens
      (List.cons.inj same).2
    exact ⟨by rw [canon_list, canon_list, values], rest⟩
  | bool b => cases b <;> simp [lead] at kind
  | _ => simp [lead, quotation] at kind

theorem memberText_append (e : String × Value) (r : List Char) :
    memberText e ++ r = stringText e.1 ++ ':' :: (valueText e.2 ++ r) := by
  rw [memberText, List.append_assoc]
  rfl

theorem readable_dict {es : Fields} (json : IsJson (.dict es))
    (members : ∀ e ∈ es, Readable e.2) : Readable (.dict es) := by
  intro w hw r r' ends ends' same
  have kind := lead_eq json hw same
  cases w with
  | dict fs =>
    rw [valueText_dict, valueText_dict] at same
    have separable : Separable memberText (fun e => (e.1, canon e.2)) (sortMembers es)
        (sortMembers fs) := by
      intro x hx y hy r r' ends ends' same
      have own := (perm_sortMembers es).mem_iff.mp hx
      have json' := membersJson_iff.mp hw.2 y ((perm_sortMembers fs).mem_iff.mp hy)
      rw [memberText_append, memberText_append] at same
      obtain ⟨key, value⟩ := stringText_inj same
      obtain ⟨sameValue, rest⟩ := members x own y.2 json' r r' ends ends' (List.cons.inj value).2
      exact ⟨Prod.ext key sameValue, rest⟩
    have opens : ∀ a, a ∈ sortMembers es ∨ a ∈ sortMembers fs →
        ∀ r r', memberText a ++ r ≠ '}' :: r' := by
      intro a _ r r' same
      rw [memberText_append, stringText_eq] at same
      exact absurd (List.cons.inj same).1 (by decide)
    obtain ⟨values, rest⟩ := sequence_inj (by decide) (by decide) separable opens
      (List.cons.inj same).2
    exact ⟨by rw [canon_dict, canon_dict, values], rest⟩
  | bool b => cases b <;> simp [lead] at kind
  | _ => simp [lead, quotation] at kind

mutual

theorem readable (v : Value) (json : IsJson v) : Readable v := by
  cases v with
  | null => exact readable_null
  | bool b => exact readable_bool b
  | int n => exact readable_number json rfl
  | float x => exact readable_number json rfl
  | str s => exact readable_str s
  | list xs => exact readable_list json (readable_items xs json)
  | dict es => exact readable_dict json (readable_members es json.2)
  | bytes b => exact json.elim
  | obj cls fields => exact json.elim

theorem readable_items (xs : List Value) (json : AllJson xs) : ∀ x ∈ xs, Readable x := by
  cases xs with
  | nil => exact nofun
  | cons x xs => exact List.forall_mem_cons.mpr ⟨readable x json.1, readable_items xs json.2⟩

theorem readable_members (es : List (String × Value)) (json : MembersJson es) :
    ∀ e ∈ es, Readable e.2 := by
  cases es with
  | nil => exact nofun
  | cons e es =>
    obtain ⟨k, v⟩ := e
    exact List.forall_mem_cons.mpr ⟨readable v json.1, readable_members es json.2⟩

end

/-- Two JSON values with the same compact text differ in the order of members at most. -/
theorem canon_eq_of_dumps {v w : Value} (hv : IsJson v) (hw : IsJson w)
    (same : dumps .compact v = dumps .compact w) : canon v = canon w := by
  have ends : Ends [] := by
    intro c hc
    cases hc
  have texts : valueText v ++ [] = valueText w ++ [] := by
    rw [valueText, valueText, same]
  exact (readable v hv w hw [] [] ends ends texts).1

end Injectivity

end SthBoring.Lib.JsonText
