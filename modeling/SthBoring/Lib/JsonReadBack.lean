/- Module: SthBoring/Lib/JsonReadBack
   source: json.dumps and json.loads of the standard library
   digest: The values that json.dumps writes, json.loads reads back. -/

import SthBoring.Lib.Dataclasses
import SthBoring.Lib.JsonTokens

set_option autoImplicit false
set_option relaxedAutoImplicit false

namespace SthBoring.Lib.JsonReadBack

open SthBoring.Lib.CanonicalJson
open SthBoring.Lib.Dataclasses (plain plainList plainFields)
open SthBoring.Lib.JsonLoads
open SthBoring.Lib.JsonText (intText)
open SthBoring.Lib.JsonTokens
open SthBoring.Lib.JsonValue (isDigit readFloat)
open SthBoring.Lib.OrderedDict (assocSet assocSet_of_notMem)
open SthBoring.Lib.PyJson
open SthBoring.Lib.PyValue (Value Fields PyFloat quotation joinWith bind_eq_ok)

variable (float : String → PyFloat)

/-- Separators: a comma or a colon, and spaces. -/
structure Separates (format : Format) : Prop where
  item : ∃ spaces, format.itemSeparator.toList = ',' :: spaces ∧ ∀ b ∈ spaces, b = ' '
  key : ∃ spaces, format.keySeparator.toList = ':' :: spaces ∧ ∀ b ∈ spaces, b = ' '

mutual

/-- The values that JSON has: no key of an object stands twice, and `float` knows the texts of
floats. -/
def Loadable : Value → Prop
  | .null | .bool _ | .int _ | .str _ => True
  | .float x => FloatText x.repr.toList ∧ float x.repr = x
  | .list xs => AllLoadable xs
  | .dict es => (es.map Prod.fst).Nodup ∧ MembersLoadable es
  | .bytes _ | .obj _ _ => False

def AllLoadable : List Value → Prop
  | [] => True
  | x :: xs => Loadable x ∧ AllLoadable xs

def MembersLoadable : List (String × Value) → Prop
  | [] => True
  | (_, v) :: es => Loadable v ∧ MembersLoadable es

end

theorem skip_blanks {blanks : List Char} (all : ∀ b ∈ blanks, b = ' ') (cs : List Char) :
    skip (blanks ++ cs) = skip cs :=
  List.dropWhile_append_of_pos fun b mem => by rw [all b mem]; rfl

/-- A text that starts with none of these: a blank, an end, a byte order mark. -/
def Opens (cs : List Char) : Prop :=
  ∃ c more, cs = c :: more ∧ isBlank c = false ∧ c ≠ ']' ∧ c ≠ '}' ∧ c ≠ Char.ofNat 0xfeff

theorem skip_of_opens {cs : List Char} (rest : List Char) (opens : Opens cs) : skip (cs ++ rest) = cs ++ rest := by
  obtain ⟨c, more, rfl, ink, _⟩ := opens
  rw [List.cons_append, skip, List.dropWhile_cons, ink]
  simp

theorem dictOfPairs_nodup {es : Fields} (nodup : (es.map Prod.fst).Nodup) :
    dictOfPairs es = es := by
  have general : ∀ (es d : Fields), ((d ++ es).map Prod.fst).Nodup →
      es.foldl (fun d e => assocSet e.1 e.2 d) d = d ++ es := by
    intro es
    induction es with
    | nil => exact fun d _ => (List.append_nil d).symm
    | cons e es ih =>
      intro d distinct
      have fresh : e.1 ∉ d.map Prod.fst := by
        rw [List.map_append, List.map_cons, List.nodup_append] at distinct
        exact fun mem => distinct.2.2 e.1 mem e.1 List.mem_cons_self rfl
      rw [List.foldl_cons, assocSet_of_notMem _ fresh, ih]
      · rw [List.append_assoc, List.singleton_append]
      · rwa [List.append_assoc, List.singleton_append]
  exact general es [] nodup

section Plain

variable {float} {turns : ℕ} {rest : List Char}

/-- A sign and a digit, or a digit. -/
def Numeral (cs : List Char) : Prop :=
  ∃ c more, cs = c :: more ∧
    (isDigit c = true ∨ c = '-' ∧ ∃ d others, more = d :: others ∧ isDigit d = true)

theorem scanPlain_number {cs : List Char} (numeral : Numeral cs) {read : Value × List Char}
    (number : scanNumber float cs = some read) : scanPlain float cs = .ok read := by
  obtain ⟨c, more, rfl, start⟩ := numeral
  have other : ∀ {d : Char}, isDigit d = false → d ≠ '-' → c ≠ d := by
    rintro d notDigit notSign rfl
    rcases start with digit | ⟨sign, _⟩
    · exact absurd (digit.symm.trans notDigit) (by decide)
    · exact notSign sign
  unfold scanPlain
  split
  case h_1 same => exact absurd (List.cons.inj same).1 (other rfl (by decide))
  case h_2 same => exact absurd (List.cons.inj same).1 (other rfl (by decide))
  case h_3 same => exact absurd (List.cons.inj same).1 (other rfl (by decide))
  case h_4 same => exact absurd (List.cons.inj same).1 (other rfl (by decide))
  case h_5 same => exact absurd (List.cons.inj same).1 (other rfl (by decide))
  case h_6 same =>
    obtain ⟨rfl, behind⟩ := List.cons.inj same
    rcases start with digit | ⟨_, d, others, rfl, digit⟩
    · cases digit
    · rw [(List.cons.inj behind).1] at digit
      cases digit
  case h_7 => rw [number]

theorem numeral_append {cs : List Char} (numeral : Numeral cs) (rest : List Char) :
    Numeral (cs ++ rest) := by
  obtain ⟨c, more, rfl, digit | ⟨sign, d, others, rfl, digit⟩⟩ := numeral
  · exact ⟨c, more ++ rest, rfl, Or.inl digit⟩
  · exact ⟨c, d :: others ++ rest, rfl, Or.inr ⟨sign, d, others ++ rest, rfl, digit⟩⟩

theorem numeral_natural {sign ds : List Char} (signed : sign = [] ∨ sign = ['-'])
    (natural : NaturalText ds) : Numeral (sign ++ ds) := by
  have digits : ∃ d more, ds = d :: more ∧ isDigit d = true := by
    rcases natural with rfl | ⟨d, more, rfl, _, digits⟩
    · exact ⟨'0', [], rfl, rfl⟩
    · exact ⟨d, more, rfl, digits d List.mem_cons_self⟩
  obtain ⟨d, more, rfl, digit⟩ := digits
  rcases signed with rfl | rfl
  · exact ⟨d, more, rfl, Or.inl digit⟩
  · exact ⟨'-', d :: more, rfl, Or.inr ⟨rfl, d, more, rfl, digit⟩⟩

theorem numeral_int (n : ℤ) : Numeral (toString n).toList := by
  have natural := naturalText_toDigits n.natAbs
  rw [intText, Nat.toList_repr]
  split
  · exact numeral_natural (Or.inr rfl) natural
  · exact numeral_natural (Or.inl rfl) natural

theorem numeral_float {text : List Char} (own : FloatText text) : Numeral text := by
  obtain ⟨sign, whole, fraction, exponent, rfl, signed, natural, _, _, _⟩ := own
  exact numeral_append (numeral_append (numeral_natural signed natural) fraction) exponent

theorem opens_numeral {cs : List Char} (numeral : Numeral cs) : Opens cs := by
  obtain ⟨c, more, rfl, digit | ⟨rfl, _⟩⟩ := numeral
  · refine ⟨c, more, rfl, ?_, ?_, ?_, ?_⟩
    · by_contra blank
      simp only [Bool.not_eq_false, isBlank, Bool.or_eq_true, beq_iff_eq] at blank
      rcases blank with ((rfl | rfl) | rfl) | rfl <;> cases digit
    · rintro rfl
      cases digit
    · rintro rfl
      cases digit
    · rintro rfl
      cases digit
  · exact ⟨'-', more, rfl, rfl, by decide, by decide, by decide⟩

theorem scanValue_plain {c : Char} {cs : List Char} (quote : c ≠ quotation) (list : c ≠ '[')
    (dict : c ≠ '{') : scanValue float (turns + 1) (c :: cs) = scanPlain float (c :: cs) := by
  rw [scanValue, if_neg quote, if_neg list, if_neg dict]

theorem scanValue_number {cs : List Char} (numeral : Numeral cs) {read : Value × List Char}
    (number : scanNumber float cs = some read) : scanValue float (turns + 1) cs = .ok read := by
  have plain := scanPlain_number numeral number
  obtain ⟨c, more, rfl, digit | ⟨rfl, _⟩⟩ := numeral
  · rw [scanValue_plain _ _ _, plain] <;> (rintro rfl; cases digit)
  · rw [scanValue_plain (by decide) (by decide) (by decide), plain]

end Plain

section Turns

variable {float} {turns : ℕ} {rest : List Char}

theorem scanItems_last {cs : List Char} {x : Value}
    (read : scanValue float turns cs = .ok (x, ']' :: rest)) :
    scanItems float (turns + 1) cs = .ok ([x], rest) := by
  rw [scanItems, read]
  rfl

theorem scanItems_more {cs more : List Char} {x : Value} {xs : List Value}
    (read : scanValue float turns cs = .ok (x, ',' :: more))
    (later : scanItems float turns (skip more) = .ok (xs, rest)) :
    scanItems float (turns + 1) cs = .ok (x :: xs, rest) := by
  rw [scanItems, read]
  change (scanItems float turns (skip more) >>= fun r => .ok (x :: r.1, r.2)) = _
  rw [later]
  rfl

/-- A key, and what the value behind it is read from. -/
theorem scanMembers_key {cs after : List Char} {key : List Char}
    (read : scanString (quotation :: cs) turns cs = .ok (key, ':' :: after)) :
    scanMembers float (turns + 1) (quotation :: cs) = (do
      let (v, rest) ← scanValue float turns (skip after)
      match skip rest with
      | '}' :: rest => .ok ([(String.ofList key, v)], rest)
      | ',' :: rest => do
        let (es, rest) ← scanMembers float turns (skip rest)
        .ok ((String.ofList key, v) :: es, rest)
      | rest => .error ⟨"Expecting ',' delimiter", rest⟩) := by
  rw [scanMembers, if_pos rfl, read]
  rfl

theorem scanMembers_last {cs after key : List Char} {v : Value}
    (named : scanString (quotation :: cs) turns cs = .ok (key, ':' :: after))
    (read : scanValue float turns (skip after) = .ok (v, '}' :: rest)) :
    scanMembers float (turns + 1) (quotation :: cs) =
      .ok ([(String.ofList key, v)], rest) := by
  rw [scanMembers_key named, read]
  rfl

theorem scanMembers_more {cs after key more : List Char} {v : Value} {es : Fields}
    (named : scanString (quotation :: cs) turns cs = .ok (key, ':' :: after))
    (read : scanValue float turns (skip after) = .ok (v, ',' :: more))
    (later : scanMembers float turns (skip more) = .ok (es, rest)) :
    scanMembers float (turns + 1) (quotation :: cs) =
      .ok ((String.ofList key, v) :: es, rest) := by
  rw [scanMembers_key named, read]
  change (do
    let (es, rest) ← scanMembers float turns (skip more)
    .ok ((String.ofList key, v) :: es, rest)) = _
  rw [later]
  rfl

end Turns

section Texts

variable {float} {format : Format}

theorem dumpsItems_cons {x : Value} {xs : List Value} {items : List String}
    (written : dumpsItems format (x :: xs) = .ok items) : ∃ item others,
      dumpsInOrder format x = .ok item ∧ dumpsItems format xs = .ok others ∧
        items = item :: others := by
  rw [dumpsItems] at written
  obtain ⟨item, first, written⟩ := bind_eq_ok.mp written
  obtain ⟨others, later, written⟩ := bind_eq_ok.mp written
  cases written
  exact ⟨item, others, first, later, rfl⟩

theorem dumpsEntries_cons {key : String} {v : Value} {es : Fields}
    {members : List (String × String)} (written : dumpsEntries format ((key, v) :: es) = .ok members) :
    ∃ text others, dumpsInOrder format v = .ok text ∧ dumpsEntries format es = .ok others ∧
      members = (key, text) :: others := by
  rw [dumpsEntries] at written
  obtain ⟨text, first, written⟩ := bind_eq_ok.mp written
  obtain ⟨others, later, written⟩ := bind_eq_ok.mp written
  cases written
  exact ⟨text, others, first, later, rfl⟩

theorem toList_joinWith_cons (sep item next : String) (items : List String) :
    (joinWith sep (item :: next :: items)).toList =
      item.toList ++ (sep.toList ++ (joinWith sep (next :: items)).toList) := by
  rw [joinWith, String.toList_append, String.toList_append, List.append_assoc]

theorem opens_text {v : Value} (loadable : Loadable float v) {text : String}
    (written : dumpsInOrder format v = .ok text) : Opens text.toList := by
  cases v with
  | null =>
    cases written
    exact ⟨'n', ['u', 'l', 'l'], rfl, rfl, by decide, by decide, by decide⟩
  | bool b =>
    cases written
    cases b with
    | true => exact ⟨'t', ['r', 'u', 'e'], rfl, rfl, by decide, by decide, by decide⟩
    | false => exact ⟨'f', ['a', 'l', 's', 'e'], rfl, rfl, by decide, by decide, by decide⟩
  | int n =>
    cases written
    exact opens_numeral (numeral_int n)
  | float x =>
    cases written
    exact opens_numeral (numeral_float loadable.1)
  | str s =>
    cases written
    exact ⟨quotation, _, toList_encodeString format s, rfl, by decide, by decide, by decide⟩
  | bytes b => exact loadable.elim
  | obj cls fields => exact loadable.elim
  | list xs =>
    rw [dumpsInOrder] at written
    obtain ⟨items, _, written⟩ := bind_eq_ok.mp written
    cases written
    rw [String.toList_append, String.toList_append]
    exact ⟨'[', _, rfl, rfl, by decide, by decide, by decide⟩
  | dict es =>
    rw [dumpsInOrder] at written
    obtain ⟨members, _, written⟩ := bind_eq_ok.mp written
    cases written
    rw [String.toList_append, String.toList_append]
    exact ⟨'{', _, rfl, rfl, by decide, by decide, by decide⟩

theorem opens_joinWith (sep : String) {item : String} (opens : Opens item.toList)
    (items : List String) :
    Opens (joinWith sep (item :: items)).toList := by
  cases items with
  | nil => exact opens
  | cons next items =>
    obtain ⟨c, more, own, ink, square, curly, mark⟩ := opens
    rw [toList_joinWith_cons, own]
    exact ⟨c, _, rfl, ink, square, curly, mark⟩

theorem toList_encodeMember (key text : String) : (encodeMember format (key, text)).toList =
    quotation :: (body format key.toList ++ quotation ::
      (format.keySeparator.toList ++ text.toList)) := by
  rw [encodeMember, String.toList_append, String.toList_append, toList_encodeString]
  simp only [List.cons_append, List.append_assoc, List.nil_append]

theorem opens_encodeMember (format : Format) (member : String × String) :
    Opens (encodeMember format member).toList := by
  obtain ⟨key, text⟩ := member
  rw [toList_encodeMember]
  exact ⟨quotation, _, rfl, rfl, by decide, by decide, by decide⟩

theorem delimited_cons {c : Char} (delimiter : c = ',' ∨ c = ']' ∨ c = '}') (rest : List Char) :
    Delimited (c :: rest) := by
  rintro d mem
  cases mem
  exact delimiter

/-- A list is read as far as its items are. -/
theorem scanValue_list {turns : ℕ} {cs rest : List Char} {xs : List Value} (opens : Opens cs)
    (items : scanItems float turns cs = .ok (xs, rest)) :
    scanValue float (turns + 1) ('[' :: cs) = .ok (.list xs, rest) := by
  obtain ⟨c, more, rfl, ink, square, _⟩ := opens
  have first : skip (c :: more) = c :: more := by
    rw [skip, List.dropWhile_cons, ink]
    simp
  rw [scanValue, if_neg (by decide), if_pos rfl, first]
  split
  case h_1 same => exact absurd (List.cons.inj same).1 square
  case h_2 => rw [items]; rfl

theorem scanValue_dict {turns : ℕ} {cs rest : List Char} {es : Fields} (opens : Opens cs)
    (nodup : (es.map Prod.fst).Nodup) (members : scanMembers float turns cs = .ok (es, rest)) :
    scanValue float (turns + 1) ('{' :: cs) = .ok (.dict es, rest) := by
  obtain ⟨c, more, rfl, ink, _, curly, _⟩ := opens
  have first : skip (c :: more) = c :: more := by
    rw [skip, List.dropWhile_cons, ink]
    simp
  rw [scanValue, if_neg (by decide), if_neg (by decide), if_pos rfl, first]
  split
  case h_1 same => exact absurd (List.cons.inj same).1 curly
  case h_2 =>
    rw [members]
    change Except.ok (Value.dict (dictOfPairs es), rest) = _
    rw [dictOfPairs_nodup nodup]

end Texts

section ReadBack

variable (format : Format)

/-- The text of the value is read as the value, up to where it ends. -/
def ReadsBack (v : Value) : Prop :=
  ∀ text, dumpsInOrder format v = .ok text → ∀ turns rest, text.toList.length ≤ turns →
    Delimited rest → scanValue float turns (text.toList ++ rest) = .ok (v, rest)

variable {float} {format}

theorem exists_turn {v : Value} (loadable : Loadable float v) {text : String}
    (written : dumpsInOrder format v = .ok text) {turns : ℕ}
    (enough : text.toList.length ≤ turns) : ∃ more, turns = more + 1 := by
  obtain ⟨c, more, own, _⟩ := opens_text loadable written
  rw [own, List.length_cons] at enough
  exact Nat.exists_eq_succ_of_ne_zero (by omega)

theorem readsBack_float {x : PyFloat} (loadable : Loadable float (.float x)) :
    ReadsBack float format (.float x) := by
  intro text written turns rest enough ends
  obtain ⟨turns, rfl⟩ := exists_turn loadable written enough
  cases written
  have read := scanNumber_float float loadable.1 ends
  rw [String.ofList_toList, loadable.2] at read
  exact scanValue_number (numeral_append (numeral_float loadable.1) rest) read

theorem readsBack_str (s : String) : ReadsBack float format (.str s) := by
  intro text written turns rest enough ends
  obtain ⟨turns, rfl⟩ := exists_turn (show Loadable float (.str s) from trivial) written enough
  cases written
  have chars := length_le_body format s.toList
  rw [toList_encodeString] at enough ⊢
  simp only [List.length_cons, List.length_append, List.length_nil] at enough
  rw [List.cons_append, List.append_assoc, List.singleton_append, scanValue, if_pos rfl,
    scanString_body format s.toList rest (by omega)]
  change Except.ok (Value.str (String.ofList s.toList), rest) = _
  rw [String.ofList_toList]

/-- What has no parts. -/
theorem readsBack_plain {v : Value} (loadable : Loadable float v)
    (plain : ∀ xs, v ≠ .list xs) (plain' : ∀ es, v ≠ .dict es) : ReadsBack float format v := by
  cases v with
  | str s => exact readsBack_str s
  | float x => exact readsBack_float loadable
  | list xs => exact absurd rfl (plain xs)
  | dict es => exact absurd rfl (plain' es)
  | bytes b => exact loadable.elim
  | obj cls fields => exact loadable.elim
  | null =>
    intro text written turns rest enough ends
    obtain ⟨turns, rfl⟩ := exists_turn loadable written enough
    cases written
    rfl
  | bool b =>
    intro text written turns rest enough ends
    obtain ⟨turns, rfl⟩ := exists_turn loadable written enough
    cases written
    cases b <;> rfl
  | int n =>
    intro text written turns rest enough ends
    obtain ⟨turns, rfl⟩ := exists_turn loadable written enough
    cases written
    exact scanValue_number (numeral_append (numeral_int n) rest) (scanNumber_int float n ends)

section Sequences

variable (separates : Separates format)

include separates

theorem scanItems_text {x : Value} {xs : List Value}
    (each : ∀ y ∈ x :: xs, Loadable float y ∧ ReadsBack float format y) {items : List String}
    (written : dumpsItems format (x :: xs) = .ok items) {turns : ℕ} {rest : List Char}
    (enough : (joinWith format.itemSeparator items).toList.length < turns) :
    scanItems float turns ((joinWith format.itemSeparator items).toList ++ ']' :: rest) =
      .ok (x :: xs, rest) := by
  induction xs generalizing x items turns with
  | nil =>
    obtain ⟨item, others, first, later, rfl⟩ := dumpsItems_cons written
    cases later
    obtain ⟨turns, rfl⟩ := Nat.exists_eq_succ_of_ne_zero (Nat.ne_of_gt (Nat.zero_lt_of_lt enough))
    exact scanItems_last ((each x List.mem_cons_self).2 item first turns _
      (Nat.le_of_lt_succ enough) (delimited_cons (Or.inr (Or.inl rfl)) rest))
  | cons y ys ih =>
    obtain ⟨item, others, first, later, rfl⟩ := dumpsItems_cons written
    obtain ⟨next, more, second, _, rfl⟩ := dumpsItems_cons later
    obtain ⟨turns, rfl⟩ := Nat.exists_eq_succ_of_ne_zero (Nat.ne_of_gt (Nat.zero_lt_of_lt enough))
    obtain ⟨blanks, comma, blank⟩ := separates.item
    have opens := opens_joinWith format.itemSeparator
      (opens_text (each y (List.mem_cons_of_mem x List.mem_cons_self)).1 second) more
    rw [toList_joinWith_cons, comma] at enough ⊢
    simp only [List.length_append, List.length_cons] at enough
    rw [List.append_assoc, List.append_assoc, List.cons_append]
    refine scanItems_more ((each x List.mem_cons_self).2 item first turns _ (by omega)
      (delimited_cons (Or.inl rfl) _)) ?_
    rw [skip_blanks blank, skip_of_opens _ opens]
    exact ih (fun z mem => each z (List.mem_cons_of_mem x mem)) later (by omega)

/-- A member is read up to what stands behind its value. -/
theorem member_text (key : String) {v : Value} {text : String} {turns : ℕ} {rest : List Char}
    (loadable : Loadable float v) (reads : ReadsBack float format v)
    (written : dumpsInOrder format v = .ok text)
    (enough : (encodeMember format (key, text)).toList.length ≤ turns) (ends : Delimited rest) :
    ∃ cs after, (encodeMember format (key, text)).toList ++ rest = quotation :: cs ∧
      scanString (quotation :: cs) turns cs = .ok (key.toList, ':' :: after) ∧
      scanValue float turns (skip after) = .ok (v, rest) := by
  obtain ⟨spaces, colon, space⟩ := separates.key
  have chars := length_le_body format key.toList
  have opens := opens_text loadable written
  rw [toList_encodeMember, colon] at enough ⊢
  simp only [List.length_append, List.length_cons] at enough
  refine ⟨body format key.toList ++ quotation :: ':' :: (spaces ++ (text.toList ++ rest)),
    spaces ++ (text.toList ++ rest), ?_, ?_, ?_⟩
  · simp only [List.cons_append, List.append_assoc]
  · exact scanString_body format key.toList _ (by omega)
  · rw [skip_blanks space, skip_of_opens _ opens]
    exact reads text written turns rest (by omega) ends

theorem scanMembers_text {key : String} {v : Value} {es : Fields}
    (each : ∀ e ∈ (key, v) :: es, Loadable float e.2 ∧ ReadsBack float format e.2)
    {members : List (String × String)} (written : dumpsEntries format ((key, v) :: es) = .ok members)
    {turns : ℕ} {rest : List Char} (enough : (joinWith format.itemSeparator
      (members.map (encodeMember format))).toList.length < turns) :
    scanMembers float turns ((joinWith format.itemSeparator
      (members.map (encodeMember format))).toList ++ '}' :: rest) = .ok ((key, v) :: es, rest) := by
  induction es generalizing key v members turns with
  | nil =>
    obtain ⟨text, others, first, later, rfl⟩ := dumpsEntries_cons written
    cases later
    obtain ⟨turns, rfl⟩ := Nat.exists_eq_succ_of_ne_zero (Nat.ne_of_gt (Nat.zero_lt_of_lt enough))
    obtain ⟨loadable, reads⟩ := each (key, v) List.mem_cons_self
    obtain ⟨cs, after, shape, named, read⟩ := member_text separates key loadable reads first
      (Nat.le_of_lt_succ enough) (delimited_cons (Or.inr (Or.inr rfl)) rest)
    change scanMembers float (turns + 1) ((encodeMember format (key, text)).toList ++ _) = _
    rw [shape, scanMembers_last named read, String.ofList_toList]
  | cons e es ih =>
    obtain ⟨key', v'⟩ := e
    obtain ⟨text, others, first, later, rfl⟩ := dumpsEntries_cons written
    obtain ⟨next, more, second, _, rfl⟩ := dumpsEntries_cons later
    obtain ⟨turns, rfl⟩ := Nat.exists_eq_succ_of_ne_zero (Nat.ne_of_gt (Nat.zero_lt_of_lt enough))
    obtain ⟨blanks, comma, blank⟩ := separates.item
    have opens := opens_joinWith format.itemSeparator
      (opens_encodeMember format (key', next)) (more.map (encodeMember format))
    obtain ⟨loadable, reads⟩ := each (key, v) List.mem_cons_self
    rw [List.map_cons] at enough ⊢
    rw [List.map_cons, toList_joinWith_cons, comma] at enough ⊢
    simp only [List.length_append, List.length_cons] at enough
    rw [List.append_assoc, List.append_assoc, List.cons_append]
    have room : (encodeMember format (key, text)).toList.length ≤ turns := by omega
    obtain ⟨cs, after, shape, named, read⟩ := member_text separates key loadable reads first
      room (delimited_cons (Or.inl rfl) _)
    rw [shape, scanMembers_more named read, String.ofList_toList]
    rw [skip_blanks blank, skip_of_opens _ opens]
    exact ih (fun e mem => each e (List.mem_cons_of_mem _ mem)) later
      (by rw [List.map_cons]; omega)

theorem readsBack_list {xs : List Value}
    (each : ∀ x ∈ xs, Loadable float x ∧ ReadsBack float format x) :
    ReadsBack float format (.list xs) := by
  intro text written turns rest enough ends
  rw [dumpsInOrder] at written
  obtain ⟨items, swept, written⟩ := bind_eq_ok.mp written
  cases written
  rw [String.toList_append, String.toList_append] at enough ⊢
  simp only [List.length_append] at enough
  change 1 + _ + 1 ≤ turns at enough
  obtain ⟨turns, rfl⟩ : ∃ more, turns = more + 1 := Nat.exists_eq_succ_of_ne_zero (by omega)
  rw [List.append_assoc, List.append_assoc]
  change scanValue float (turns + 1) ('[' :: ((joinWith _ items).toList ++ ']' :: rest)) = _
  cases xs with
  | nil =>
    cases swept
    rfl
  | cons x xs =>
    obtain ⟨item, others, first, _, rfl⟩ := dumpsItems_cons swept
    obtain ⟨c, more, own, ink, square, curly, mark⟩ := opens_joinWith format.itemSeparator
      (opens_text (each x List.mem_cons_self).1 first) others
    refine scanValue_list ?_ (scanItems_text separates each swept (by omega))
    rw [own]
    exact ⟨c, _, rfl, ink, square, curly, mark⟩

theorem readsBack_dict {es : Fields} (nodup : (es.map Prod.fst).Nodup)
    (each : ∀ e ∈ es, Loadable float e.2 ∧ ReadsBack float format e.2) :
    ReadsBack float format (.dict es) := by
  intro text written turns rest enough ends
  rw [dumpsInOrder] at written
  obtain ⟨members, swept, written⟩ := bind_eq_ok.mp written
  cases written
  rw [String.toList_append, String.toList_append] at enough ⊢
  simp only [List.length_append] at enough
  change 1 + _ + 1 ≤ turns at enough
  obtain ⟨turns, rfl⟩ : ∃ more, turns = more + 1 := Nat.exists_eq_succ_of_ne_zero (by omega)
  rw [List.append_assoc, List.append_assoc]
  change scanValue float (turns + 1) ('{' :: ((joinWith _ _).toList ++ '}' :: rest)) = _
  cases es with
  | nil =>
    cases swept
    rfl
  | cons e es =>
    obtain ⟨key, v⟩ := e
    obtain ⟨item, others, first, _, rfl⟩ := dumpsEntries_cons swept
    obtain ⟨c, more, own, ink, square, curly, mark⟩ := opens_joinWith format.itemSeparator
      (opens_encodeMember format (key, item)) (others.map (encodeMember format))
    refine scanValue_dict ?_ nodup (scanMembers_text separates each swept (by omega))
    rw [List.map_cons, own]
    exact ⟨c, _, rfl, ink, square, curly, mark⟩

end Sequences

mutual

theorem readsBack (separates : Separates format) (v : Value) (loadable : Loadable float v) : ReadsBack float format v := by
  cases v with
  | list xs => exact readsBack_list separates (readsBack_items separates xs loadable)
  | dict es => exact readsBack_dict separates loadable.1 (readsBack_members separates es loadable.2)
  | null => exact readsBack_plain loadable nofun nofun
  | bool b => exact readsBack_plain loadable nofun nofun
  | int n => exact readsBack_plain loadable nofun nofun
  | float x => exact readsBack_plain loadable nofun nofun
  | str s => exact readsBack_plain loadable nofun nofun
  | bytes b => exact loadable.elim
  | obj cls fields => exact loadable.elim

theorem readsBack_items (separates : Separates format) (xs : List Value) (loadable : AllLoadable float xs) :
    ∀ x ∈ xs, Loadable float x ∧ ReadsBack float format x := by
  cases xs with
  | nil => exact List.forall_mem_nil _
  | cons x xs =>
    exact List.forall_mem_cons.mpr
      ⟨⟨loadable.1, readsBack separates x loadable.1⟩, readsBack_items separates xs loadable.2⟩

theorem readsBack_members (separates : Separates format) (es : List (String × Value)) (loadable : MembersLoadable float es) :
    ∀ e ∈ es, Loadable float e.2 ∧ ReadsBack float format e.2 := by
  cases es with
  | nil => exact List.forall_mem_nil _
  | cons e es =>
    obtain ⟨k, v⟩ := e
    exact List.forall_mem_cons.mpr
      ⟨⟨loadable.1, readsBack separates v loadable.1⟩, readsBack_members separates es loadable.2⟩

end

/-- `json.loads(json.dumps(v)) == v`. -/
theorem loads_dumps (separates : Separates format) {v : Value} (loadable : Loadable float v) {text : String}
    (written : dumpsInOrder format v = .ok text) : loads float text = .ok v := by
  have opens := opens_text loadable written
  have whole := readsBack separates v loadable text written (text.toList.length + 1) []
    (Nat.le_succ _) (fun _ mem => by cases mem)
  have start := skip_of_opens [] opens
  rw [List.append_nil] at start whole
  have noMark : text.toList.head? ≠ some (Char.ofNat 0xfeff) := by
    obtain ⟨c, more, own, ink, square, curly, mark⟩ := opens
    rw [own]
    exact fun same => mark (Option.some.inj same)
  rw [loads, decode, if_neg noMark, start, whole]
  rfl

end ReadBack

section Printed

variable {float} {format : Format}

theorem Separates.printed (separates : Separates format) :
    AllPrinted format format.itemSeparator.toList ∧
      AllPrinted format format.keySeparator.toList := by
  obtain ⟨blanks, comma, blank⟩ := separates.item
  obtain ⟨spaces, colon, space⟩ := separates.key
  rw [comma, colon]
  have spaces_printed : ∀ {cs : List Char}, (∀ c ∈ cs, c = ' ') → AllPrinted format cs := by
    intro cs all c mem
    rw [all c mem]
    exact ⟨by decide, fun _ => by decide⟩
  exact ⟨.cons (by decide) (spaces_printed blank), .cons (by decide) (spaces_printed space)⟩

theorem printed_joinWith {sep : String} (hs : AllPrinted format sep.toList) {items : List String}
    (each : ∀ item ∈ items, AllPrinted format item.toList) :
    AllPrinted format (joinWith sep items).toList := by
  induction items with
  | nil => exact allPrinted_nil format
  | cons item items ih =>
    cases items with
    | nil => exact each item List.mem_cons_self
    | cons next items =>
      rw [toList_joinWith_cons]
      exact (each item List.mem_cons_self).append
        (hs.append (ih fun other mem => each other (List.mem_cons_of_mem item mem)))

/-- Whatever the text of the value is, it is printed. -/
def Prints (format : Format) (v : Value) : Prop :=
  ∀ text, dumpsInOrder format v = .ok text → AllPrinted format text.toList

theorem printed_items {xs : List Value} (each : ∀ x ∈ xs, Prints format x) {items : List String}
    (written : dumpsItems format xs = .ok items) : ∀ item ∈ items, AllPrinted format item.toList := by
  induction xs generalizing items with
  | nil =>
    cases written
    exact List.forall_mem_nil _
  | cons x xs ih =>
    obtain ⟨item, others, first, later, rfl⟩ := dumpsItems_cons written
    exact List.forall_mem_cons.mpr ⟨each x List.mem_cons_self item first,
      ih (fun y mem => each y (List.mem_cons_of_mem x mem)) later⟩

theorem printed_entries (separates : Separates format) {es : Fields}
    (each : ∀ e ∈ es, Prints format e.2) {members : List (String × String)}
    (written : dumpsEntries format es = .ok members) :
    ∀ item ∈ members.map (encodeMember format), AllPrinted format item.toList := by
  induction es generalizing members with
  | nil =>
    cases written
    exact List.forall_mem_nil _
  | cons e es ih =>
    obtain ⟨key, v⟩ := e
    obtain ⟨text, others, first, later, rfl⟩ := dumpsEntries_cons written
    refine List.forall_mem_cons.mpr
      ⟨?_, ih (fun f mem => each f (List.mem_cons_of_mem _ mem)) later⟩
    rw [encodeMember, String.toList_append, String.toList_append]
    exact ((printed_encodeString format key).append separates.printed.2).append
      (each (key, v) List.mem_cons_self text first)

theorem prints_list (separates : Separates format) {xs : List Value}
    (each : ∀ x ∈ xs, Prints format x) : Prints format (.list xs) := by
  intro text written
  rw [dumpsInOrder] at written
  obtain ⟨items, swept, written⟩ := bind_eq_ok.mp written
  cases written
  rw [String.toList_append, String.toList_append]
  exact (AllPrinted.cons (by decide)
    (printed_joinWith separates.printed.1 (printed_items each swept))).append
    (.cons (by decide) (allPrinted_nil format))

theorem prints_dict (separates : Separates format) {es : Fields}
    (each : ∀ e ∈ es, Prints format e.2) : Prints format (.dict es) := by
  intro text written
  rw [dumpsInOrder] at written
  obtain ⟨members, swept, written⟩ := bind_eq_ok.mp written
  cases written
  rw [String.toList_append, String.toList_append]
  exact (AllPrinted.cons (by decide)
    (printed_joinWith separates.printed.1 (printed_entries separates each swept))).append
    (.cons (by decide) (allPrinted_nil format))

theorem printed_word (format : Format) {word : List Char}
    (plain : word.all (fun c => 0x20 ≤ c.toNat && c.toNat < 0x7f) = true) :
    AllPrinted format word := by
  intro c mem
  have inside := List.all_eq_true.mp plain c mem
  simp only [Bool.and_eq_true, decide_eq_true_eq] at inside
  exact ⟨inside.1, fun _ => inside.2⟩

theorem prints_plain {v : Value} (loadable : Loadable float v) (plain : ∀ xs, v ≠ .list xs)
    (plain' : ∀ es, v ≠ .dict es) : Prints format v := by
  intro text written
  cases v with
  | null =>
    cases written
    exact printed_word format (by decide)
  | bool b =>
    cases written
    cases b <;> exact printed_word format (by decide)
  | int n =>
    cases written
    exact printed_int format n
  | float x =>
    cases written
    exact loadable.1.printed format
  | str s =>
    cases written
    exact printed_encodeString format s
  | list xs => exact absurd rfl (plain xs)
  | dict es => exact absurd rfl (plain' es)
  | bytes b => exact loadable.elim
  | obj cls fields => exact loadable.elim

mutual

theorem prints (separates : Separates format) (v : Value) (loadable : Loadable float v) :
    Prints format v := by
  cases v with
  | list xs => exact prints_list separates (prints_items separates xs loadable)
  | dict es => exact prints_dict separates (prints_members separates es loadable.2)
  | null => exact prints_plain loadable nofun nofun
  | bool b => exact prints_plain loadable nofun nofun
  | int n => exact prints_plain loadable nofun nofun
  | float x => exact prints_plain loadable nofun nofun
  | str s => exact prints_plain loadable nofun nofun
  | bytes b => exact loadable.elim
  | obj cls fields => exact loadable.elim

theorem prints_items (separates : Separates format) (xs : List Value)
    (loadable : AllLoadable float xs) : ∀ x ∈ xs, Prints format x := by
  cases xs with
  | nil => exact List.forall_mem_nil _
  | cons x xs =>
    exact List.forall_mem_cons.mpr
      ⟨prints separates x loadable.1, prints_items separates xs loadable.2⟩

theorem prints_members (separates : Separates format) (es : List (String × Value))
    (loadable : MembersLoadable float es) : ∀ e ∈ es, Prints format e.2 := by
  cases es with
  | nil => exact List.forall_mem_nil _
  | cons e es =>
    obtain ⟨k, v⟩ := e
    exact List.forall_mem_cons.mpr
      ⟨prints separates v loadable.1, prints_members separates es loadable.2⟩

end

end Printed

section Sorted

variable {float} {format : Format}

theorem separates_standard : Separates .standard :=
  ⟨⟨[' '], rfl, List.forall_mem_singleton.mpr rfl⟩,
    ⟨[' '], rfl, List.forall_mem_singleton.mpr rfl⟩⟩

theorem separates_unicode : Separates .unicode :=
  ⟨⟨[' '], rfl, List.forall_mem_singleton.mpr rfl⟩,
    ⟨[' '], rfl, List.forall_mem_singleton.mpr rfl⟩⟩

theorem membersLoadable_iff {es : Fields} :
    MembersLoadable float es ↔ ∀ e ∈ es, Loadable float e.2 := by
  induction es with
  | nil => exact iff_of_true trivial (List.forall_mem_nil _)
  | cons e es ih => rw [MembersLoadable, ih, List.forall_mem_cons]

theorem allLoadable_iff {xs : List Value} :
    AllLoadable float xs ↔ ∀ x ∈ xs, Loadable float x := by
  induction xs with
  | nil => exact iff_of_true trivial (List.forall_mem_nil _)
  | cons x xs ih => rw [AllLoadable, ih, List.forall_mem_cons]

theorem dumpsMembers_map (es : Fields) :
    dumpsMembers format es = es.map fun e => (e.1, dumps format e.2) := by
  induction es with
  | nil => rfl
  | cons e es ih =>
    obtain ⟨k, v⟩ := e
    rw [dumpsMembers, ih, List.map_cons]

theorem dumpsList_map (xs : List Value) : dumpsList format xs = xs.map (dumps format) := by
  induction xs with
  | nil => rfl
  | cons x xs ih => rw [dumpsList, ih, List.map_cons]

/-- The canonical value can be read, and its text in order is the text with sorted keys. -/
def Sorts (float : String → PyFloat) (format : Format) (v : Value) : Prop :=
  Loadable float (canon v) ∧ dumpsInOrder format (canon v) = .ok (dumps format v)

theorem sorts_list {xs : List Value} (each : ∀ x ∈ xs, Sorts float format x) :
    Sorts float format (.list xs) := by
  have items : dumpsItems format (xs.map canon) = .ok (xs.map (dumps format)) := by
    induction xs with
    | nil => rfl
    | cons x xs ih =>
      rw [List.map_cons, List.map_cons, dumpsItems, (each x List.mem_cons_self).2,
        ih fun y mem => each y (List.mem_cons_of_mem x mem)]
      rfl
  rw [Sorts, canon_list, dumpsInOrder, dumps, items, dumpsList_map]
  refine ⟨allLoadable_iff.mpr fun y mem => ?_, rfl⟩
  obtain ⟨x, own, rfl⟩ := List.mem_map.mp mem
  exact (each x own).1

theorem sorts_dict {es : Fields} (nodup : (es.map Prod.fst).Nodup)
    (each : ∀ e ∈ es, Sorts float format e.2) : Sorts float format (.dict es) := by
  have perm := perm_sortMembers es
  have entries : ∀ fs : Fields, (∀ e ∈ fs, Sorts float format e.2) →
      dumpsEntries format (fs.map fun e => (e.1, canon e.2)) =
        .ok (fs.map fun e => (e.1, dumps format e.2)) := by
    intro fs sorted
    induction fs with
    | nil => rfl
    | cons e fs ih =>
      rw [List.map_cons, List.map_cons, dumpsEntries, (sorted e List.mem_cons_self).2,
        ih fun f mem => sorted f (List.mem_cons_of_mem e mem)]
      rfl
  have members := entries (sortMembers es) fun e mem => each e (perm.mem_iff.mp mem)
  rw [Sorts, canon_dict, dumpsInOrder, dumps, members, dumpsMembers_map, ← map_sortMembers]
  refine ⟨⟨?_, membersLoadable_iff.mpr fun f mem => ?_⟩, rfl⟩
  · rw [List.map_map]
    exact ((perm.map Prod.fst).nodup_iff).mpr nodup
  · obtain ⟨e, own, rfl⟩ := List.mem_map.mp mem
    exact (each e (perm.mem_iff.mp own)).1

mutual

theorem sorts (v : Value) (loadable : Loadable float v) : Sorts float format v := by
  cases v with
  | list xs => exact sorts_list (sorts_items xs loadable)
  | dict es => exact sorts_dict loadable.1 (sorts_members es loadable.2)
  | null => exact ⟨loadable, rfl⟩
  | bool b => exact ⟨loadable, rfl⟩
  | int n => exact ⟨loadable, rfl⟩
  | float x => exact ⟨loadable, rfl⟩
  | str s => exact ⟨loadable, rfl⟩
  | bytes b => exact loadable.elim
  | obj cls fields => exact loadable.elim

theorem sorts_items (xs : List Value) (loadable : AllLoadable float xs) :
    ∀ x ∈ xs, Sorts float format x := by
  cases xs with
  | nil => exact List.forall_mem_nil _
  | cons x xs => exact List.forall_mem_cons.mpr ⟨sorts x loadable.1, sorts_items xs loadable.2⟩

theorem sorts_members (es : List (String × Value)) (loadable : MembersLoadable float es) :
    ∀ e ∈ es, Sorts float format e.2 := by
  cases es with
  | nil => exact List.forall_mem_nil _
  | cons e es =>
    obtain ⟨k, v⟩ := e
    exact List.forall_mem_cons.mpr ⟨sorts v loadable.1, sorts_members es loadable.2⟩

end

/-- `json.loads(json.dumps(v, sort_keys=True)) == v`, with sorted keys. -/
theorem loads_dumps_sorted (separates : Separates format) {v : Value}
    (loadable : Loadable float v) : loads float (dumps format v) = .ok (canon v) := by
  have sorted : Sorts float format v := sorts v loadable
  exact loads_dumps separates sorted.1 sorted.2

theorem printed_dumps (separates : Separates format) {v : Value} (loadable : Loadable float v) :
    AllPrinted format (dumps format v).toList := by
  have sorted : Sorts float format v := sorts v loadable
  exact prints separates (canon v) sorted.1 _ sorted.2

end Sorted

section Default

/-- `float`, for the texts that `repr` writes. -/
def floatOf (s : String) : PyFloat := ⟨(readFloat s).getD 0, s⟩

mutual

/-- `default=str`: a part that JSON has no text for is written as its `str`. -/
def stringified : Value → Value
  | .bytes b => .str (Value.bytes b).text
  | .obj cls attributes => .str (Value.obj cls attributes).text
  | .list xs => .list (stringifiedItems xs)
  | .dict es => .dict (stringifiedMembers es)
  | v => v

def stringifiedItems : List Value → List Value
  | [] => []
  | x :: xs => stringified x :: stringifiedItems xs

def stringifiedMembers : Fields → Fields
  | [] => []
  | (k, v) :: es => (k, stringified v) :: stringifiedMembers es

end

variable {float} {format : Format}

theorem exists_list {xs : List Value} (each : ∀ x ∈ xs, ∃ text, dumpsInOrder format x = .ok text) :
    ∃ text, dumpsInOrder format (.list xs) = .ok text := by
  have all : ∃ items, dumpsItems format xs = .ok items := by
    induction xs with
    | nil => exact ⟨[], rfl⟩
    | cons x xs ih =>
      obtain ⟨⟨text, written⟩, others⟩ := List.forall_mem_cons.mp each
      obtain ⟨items, listed⟩ := ih others
      refine ⟨text :: items, ?_⟩
      rw [dumpsItems, written, listed]
      rfl
  obtain ⟨items, listed⟩ := all
  refine ⟨"[" ++ joinWith format.itemSeparator items ++ "]", ?_⟩
  rw [dumpsInOrder, listed]
  rfl

theorem exists_dict {es : Fields} (each : ∀ e ∈ es, ∃ text, dumpsInOrder format e.2 = .ok text) :
    ∃ text, dumpsInOrder format (.dict es) = .ok text := by
  have all : ∃ members, dumpsEntries format es = .ok members := by
    induction es with
    | nil => exact ⟨[], rfl⟩
    | cons e es ih =>
      obtain ⟨k, v⟩ := e
      obtain ⟨⟨text, written⟩, others⟩ := List.forall_mem_cons.mp each
      obtain ⟨members, listed⟩ := ih others
      refine ⟨(k, text) :: members, ?_⟩
      rw [dumpsEntries, written, listed]
      rfl
  obtain ⟨members, listed⟩ := all
  refine ⟨"\x7b" ++ joinWith format.itemSeparator (members.map (encodeMember format)) ++ "\x7d", ?_⟩
  rw [dumpsInOrder, listed]
  rfl

mutual

/-- With `default=str` every value has a text. -/
theorem exists_stringified (format : Format) (v : Value) :
    ∃ text, dumpsInOrder format (stringified v) = .ok text := by
  cases v with
  | list xs => exact exists_list (exists_stringifiedItems format xs)
  | dict es => exact exists_dict (exists_stringifiedMembers format es)
  | _ => exact ⟨_, rfl⟩

theorem exists_stringifiedItems (format : Format) (xs : List Value) :
    ∀ x ∈ stringifiedItems xs, ∃ text, dumpsInOrder format x = .ok text := by
  cases xs with
  | nil => exact List.forall_mem_nil _
  | cons x xs =>
    exact List.forall_mem_cons.mpr
      ⟨exists_stringified format x, exists_stringifiedItems format xs⟩

theorem exists_stringifiedMembers (format : Format) (es : List (String × Value)) :
    ∀ e ∈ stringifiedMembers es, ∃ text, dumpsInOrder format e.2 = .ok text := by
  cases es with
  | nil => exact List.forall_mem_nil _
  | cons e es =>
    obtain ⟨k, v⟩ := e
    exact List.forall_mem_cons.mpr
      ⟨exists_stringified format v, exists_stringifiedMembers format es⟩

end

/-- What goes through `asdict` and through `json.dumps` as it is. -/
structure Inert (v : Value) : Prop where
  plain : plain v = v
  stringified : stringified v = v

theorem inert_list {xs : List Value} (each : ∀ x ∈ xs, Inert x) : Inert (.list xs) := by
  have all : plainList xs = xs ∧ stringifiedItems xs = xs := by
    induction xs with
    | nil => exact ⟨rfl, rfl⟩
    | cons x xs ih =>
      obtain ⟨first, others⟩ := List.forall_mem_cons.mp each
      obtain ⟨kept, shown⟩ := ih others
      rw [plainList, first.plain, kept, stringifiedItems, first.stringified, shown]
      exact ⟨rfl, rfl⟩
  exact ⟨by rw [plain, all.1], by rw [JsonReadBack.stringified, all.2]⟩

theorem inert_dict {es : Fields} (each : ∀ e ∈ es, Inert e.2) : Inert (.dict es) := by
  have all : plainFields es = es ∧ stringifiedMembers es = es := by
    induction es with
    | nil => exact ⟨rfl, rfl⟩
    | cons e es ih =>
      obtain ⟨k, v⟩ := e
      obtain ⟨first, others⟩ := List.forall_mem_cons.mp each
      obtain ⟨kept, shown⟩ := ih others
      rw [plainFields, first.plain, kept, stringifiedMembers, first.stringified, shown]
      exact ⟨rfl, rfl⟩
  exact ⟨by rw [plain, all.1], by rw [JsonReadBack.stringified, all.2]⟩

mutual

/-- A JSON value is written as it is. -/
theorem inert (v : Value) (loadable : Loadable float v) : Inert v := by
  cases v with
  | list xs => exact inert_list (inert_items xs loadable)
  | dict es => exact inert_dict (inert_members es loadable.2)
  | bytes b => exact loadable.elim
  | obj cls attributes => exact loadable.elim
  | _ => exact ⟨rfl, rfl⟩

theorem inert_items (xs : List Value) (loadable : AllLoadable float xs) : ∀ x ∈ xs, Inert x := by
  cases xs with
  | nil => exact List.forall_mem_nil _
  | cons x xs => exact List.forall_mem_cons.mpr ⟨inert x loadable.1, inert_items xs loadable.2⟩

theorem inert_members (es : List (String × Value)) (loadable : MembersLoadable float es) :
    ∀ e ∈ es, Inert e.2 := by
  cases es with
  | nil => exact List.forall_mem_nil _
  | cons e es =>
    obtain ⟨k, v⟩ := e
    exact List.forall_mem_cons.mpr ⟨inert v loadable.1, inert_members es loadable.2⟩

end

end Default

end SthBoring.Lib.JsonReadBack
