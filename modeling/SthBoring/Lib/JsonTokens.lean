/- Module: SthBoring/Lib/JsonTokens
   source: json.dumps and json.loads of the standard library
   digest: The strings and the numbers that json.dumps writes, json.loads reads back. -/

import SthBoring.Lib.JsonLoads
import SthBoring.Lib.JsonText

set_option autoImplicit false
set_option relaxedAutoImplicit false

namespace SthBoring.Lib.JsonTokens

open SthBoring.Lib.JsonLoads
open SthBoring.Lib.JsonText (intText isDigit_of_mem_repr)
open SthBoring.Lib.JsonValue (isDigit natOfDigits)
open SthBoring.Lib.PyJson
open SthBoring.Lib.PyValue (Value PyFloat backslash quotation escaped hexDigits)

section Characters

theorem hexDigit_digitChar : ∀ d < 16, hexDigit d.digitChar = some d := by decide

/-- Four digits, with zeros in front. -/
theorem toList_hexDigits {n : ℕ} (small : n < 0x10000) :
    (hexDigits 4 n).toList = [(n / 4096).digitChar, (n / 256 % 16).digitChar,
      (n / 16 % 16).digitChar, (n % 16).digitChar] := by
  have digits : ∀ m, Nat.toDigits 16 m =
      if m < 16 then [m.digitChar] else Nat.toDigits 16 (m / 16) ++ [(m % 16).digitChar] :=
    fun m => Nat.toDigits_eq_if (by decide)
  rw [hexDigits, String.toList_ofList]
  by_cases h1 : n < 16
  · have z1 : n / 4096 = 0 := by omega
    have z2 : n / 256 % 16 = 0 := by omega
    have z3 : n / 16 % 16 = 0 := by omega
    have z4 : n % 16 = n := by omega
    rw [digits n, if_pos h1, z1, z2, z3, z4]
    rfl
  by_cases h2 : n < 256
  · have z1 : n / 4096 = 0 := by omega
    have z2 : n / 256 % 16 = 0 := by omega
    have z3 : n / 16 % 16 = n / 16 := by omega
    rw [digits n, if_neg h1, digits (n / 16), if_pos (by omega), z1, z2, z3]
    rfl
  by_cases h3 : n < 4096
  · have z1 : n / 4096 = 0 := by omega
    have z2 : n / 256 % 16 = n / 16 / 16 := by omega
    rw [digits n, if_neg h1, digits (n / 16), if_neg (by omega), digits (n / 16 / 16),
      if_pos (by omega), z1, z2]
    rfl
  · have z1 : n / 4096 = n / 16 / 16 / 16 := by omega
    have z2 : n / 256 % 16 = n / 16 / 16 % 16 := by omega
    rw [digits n, if_neg h1, digits (n / 16), if_neg (by omega), digits (n / 16 / 16),
      if_neg (by omega), digits (n / 16 / 16 / 16), if_pos (by omega), z1, z2]
    rfl

theorem readUnit_hexDigits {n : ℕ} (small : n < 0x10000) (cs : List Char) :
    readUnit ((hexDigits 4 n).toList ++ cs) = some (n, cs) := by
  have d1 := hexDigit_digitChar (n / 4096) (by omega)
  have d2 := hexDigit_digitChar (n / 256 % 16) (by omega)
  have d3 := hexDigit_digitChar (n / 16 % 16) (by omega)
  have d4 := hexDigit_digitChar (n % 16) (by omega)
  have value : ((n / 4096 * 16 + n / 256 % 16) * 16 + n / 16 % 16) * 16 + n % 16 = n := by omega
  rw [toList_hexDigits small]
  simp only [List.cons_append, List.nil_append, readUnit, d1, d2, d3, d4]
  exact congrArg (fun m => some (m, cs)) value

theorem toList_escaped (letter digits : String) :
    (escaped letter digits).toList = backslash :: (letter.toList ++ digits.toList) := by
  rw [escaped, String.toList_append, String.toList_append]
  rfl

theorem toList_escaped_letter (c : Char) :
    (escaped (String.singleton c) "").toList = [backslash, c] := by
  rw [toList_escaped]
  simp

theorem toList_escaped_unit (digits : String) :
    (escaped "u" digits).toList = backslash :: 'u' :: digits.toList := by
  rw [toList_escaped]
  rfl

theorem toList_escapeUnits (n : ℕ) : (escapeUnits n).toList =
    if n < 0x10000 then backslash :: 'u' :: (hexDigits 4 n).toList
    else backslash :: 'u' :: ((hexDigits 4 (0xd800 + (n - 0x10000) / 0x400)).toList ++
      backslash :: 'u' :: (hexDigits 4 (0xdc00 + (n - 0x10000) % 0x400)).toList) := by
  unfold escapeUnits
  split
  · rw [toList_escaped_unit]
  · rw [String.toList_append, toList_escaped_unit, toList_escaped_unit, List.cons_append,
      List.cons_append]

/-- Code points are no halves of pairs. -/
theorem toNat_valid (c : Char) : c.toNat < 0xd800 ∨ (0xdfff < c.toNat ∧ c.toNat < 0x110000) :=
  c.valid

theorem readUnicode_small {c : Char} (small : c.toNat < 0x10000) (cs : List Char) :
    readUnicode ((hexDigits 4 c.toNat).toList ++ cs) = .ok (c, cs) := by
  have high : isHigh c.toNat = false := by
    have valid := toNat_valid c
    simp only [isHigh, Bool.and_eq_false_iff, decide_eq_false_iff_not]
    omega
  have low : isLow c.toNat = false := by
    have valid := toNat_valid c
    simp only [isLow, Bool.and_eq_false_iff, decide_eq_false_iff_not]
    omega
  rw [readUnicode, readUnit_hexDigits small]
  simp only [high, low, Bool.false_eq_true, if_false, Char.ofNat_toNat]

theorem readUnicode_large {c : Char} (large : 0x10000 ≤ c.toNat) (cs : List Char) :
    readUnicode ((hexDigits 4 (0xd800 + (c.toNat - 0x10000) / 0x400)).toList ++
      backslash :: 'u' :: ((hexDigits 4 (0xdc00 + (c.toNat - 0x10000) % 0x400)).toList ++ cs)) =
      .ok (c, cs) := by
  have valid := toNat_valid c
  set high := 0xd800 + (c.toNat - 0x10000) / 0x400 with hhigh
  set low := 0xdc00 + (c.toNat - 0x10000) % 0x400 with hlow
  have isH : isHigh high = true := by
    simp only [isHigh, Bool.and_eq_true, decide_eq_true_eq]
    omega
  have isL : isLow low = true := by
    simp only [isLow, Bool.and_eq_true, decide_eq_true_eq]
    omega
  have pair : paired high low = c := by
    have code : 0x10000 + (high - 0xd800) * 0x400 + (low - 0xdc00) = c.toNat := by omega
    rw [paired, code, Char.ofNat_toNat]
  rw [readUnicode, readUnit_hexDigits (by omega)]
  simp only [isH, if_true]
  have second : readLow (backslash :: 'u' :: ((hexDigits 4 low).toList ++ cs)) =
      .ok (some (low, cs)) := by
    simp only [readLow, if_true]
    rw [readUnit_hexDigits (by omega)]
    simp only [isL, if_true]
  rw [second]
  exact congrArg (fun d => Except.ok (d, cs)) pair

/-- The text of a character starts as the character itself, or as an escape of it. -/
inductive Spelled (c : Char) : List Char → Prop
  | plain (quote : c ≠ quotation) (escape : c ≠ backslash) (printing : ¬ c.toNat < 0x20) :
      Spelled c [c]
  | simple (letter : Char) (other : letter ≠ 'u') (stands : simpleEscape letter = some c) :
      Spelled c [backslash, letter]
  | unicode (units : List Char) (read : ∀ cs, readUnicode (units ++ cs) = .ok (c, cs)) :
      Spelled c (backslash :: 'u' :: units)

theorem spelled_escapeUnits (c : Char) : Spelled c (escapeUnits c.toNat).toList := by
  rw [toList_escapeUnits]
  split
  case isTrue small => exact .unicode _ fun cs => readUnicode_small small cs
  case isFalse large =>
    refine .unicode _ fun cs => ?_
    rw [List.append_assoc, List.cons_append, List.cons_append]
    exact readUnicode_large (Nat.le_of_not_lt large) cs

theorem spelled_control (c : Char) (n : ℕ) (letter : Char) (same : c.toNat = n)
    (other : letter ≠ 'u') (stands : simpleEscape letter = some (Char.ofNat n)) :
    Spelled c (escaped (String.singleton letter) "").toList := by
  have own : Char.ofNat n = c := by rw [← same, Char.ofNat_toNat]
  rw [toList_escaped_letter]
  exact .simple letter other (own ▸ stands)

theorem spelled_escapeChar (format : Format) (c : Char) :
    Spelled c (PyJson.escapeChar format c).toList := by
  unfold PyJson.escapeChar
  dsimp only
  split
  case isTrue special =>
    rw [toList_escaped_letter]
    rw [Bool.or_eq_true, decide_eq_true_eq, decide_eq_true_eq] at special
    rcases special with rfl | rfl
    · exact .simple quotation (by decide) rfl
    · exact .simple backslash (by decide) rfl
  case isFalse special =>
    split
    case isTrue h => exact spelled_control c _ 'b' h (by decide) rfl
    split
    case isTrue h => exact spelled_control c _ 't' h (by decide) rfl
    split
    case isTrue h => exact spelled_control c _ 'n' h (by decide) rfl
    split
    case isTrue h => exact spelled_control c _ 'f' h (by decide) rfl
    split
    case isTrue h => exact spelled_control c _ 'r' h (by decide) rfl
    split
    case isTrue => exact spelled_escapeUnits c
    case isFalse printing =>
      simp only [Bool.or_eq_true, decide_eq_true_eq, not_or] at special printing
      rw [String.toList_singleton]
      exact .plain special.1 special.2 printing.1

/-- No control character, and nothing but ASCII where the format asks for it. -/
def Printed (format : Format) (d : Char) : Prop :=
  0x20 ≤ d.toNat ∧ (format.ensureAscii = true → d.toNat < 0x7f)

def AllPrinted (format : Format) (cs : List Char) : Prop := ∀ d ∈ cs, Printed format d

theorem AllPrinted.append {format : Format} {cs ds : List Char} (hc : AllPrinted format cs)
    (hd : AllPrinted format ds) : AllPrinted format (cs ++ ds) :=
  List.forall_mem_append.mpr ⟨hc, hd⟩

theorem AllPrinted.cons {format : Format} {c : Char} {cs : List Char}
    (first : 0x20 ≤ c.toNat ∧ c.toNat < 0x7f) (hc : AllPrinted format cs) :
    AllPrinted format (c :: cs) :=
  List.forall_mem_cons.mpr ⟨⟨first.1, fun _ => first.2⟩, hc⟩

theorem allPrinted_nil (format : Format) : AllPrinted format [] := List.forall_mem_nil _

theorem printed_digitChar (format : Format) {d : ℕ} (small : d < 16) : Printed format d.digitChar := by
  have plain : ∀ d < 16, 0x20 ≤ d.digitChar.toNat ∧ d.digitChar.toNat < 0x7f := by decide
  exact ⟨(plain d small).1, fun _ => (plain d small).2⟩

theorem printed_hexDigits (format : Format) {n : ℕ} (small : n < 0x10000) :
    AllPrinted format (hexDigits 4 n).toList := by
  rw [toList_hexDigits small]
  refine List.forall_mem_cons.mpr ⟨printed_digitChar format (by omega), ?_⟩
  refine List.forall_mem_cons.mpr ⟨printed_digitChar format (by omega), ?_⟩
  refine List.forall_mem_cons.mpr ⟨printed_digitChar format (by omega), ?_⟩
  exact List.forall_mem_singleton.mpr (printed_digitChar format (by omega))

theorem printed_escapeUnits (format : Format) (c : Char) :
    AllPrinted format (escapeUnits c.toNat).toList := by
  have valid := toNat_valid c
  rw [toList_escapeUnits]
  split
  case isTrue small =>
    exact .cons (by decide) (.cons (by decide) (printed_hexDigits format small))
  case isFalse large =>
    refine .cons (by decide) (.cons (by decide) (.append (printed_hexDigits format (by omega)) ?_))
    exact .cons (by decide) (.cons (by decide) (printed_hexDigits format (by omega)))

theorem printed_letter (format : Format) (c : Char) (plain : 0x20 ≤ c.toNat ∧ c.toNat < 0x7f) :
    AllPrinted format (escaped (String.singleton c) "").toList := by
  rw [toList_escaped_letter]
  exact .cons (by decide) (.cons plain (allPrinted_nil format))

theorem printed_escapeChar (format : Format) (c : Char) :
    AllPrinted format (PyJson.escapeChar format c).toList := by
  unfold PyJson.escapeChar
  dsimp only
  split
  case isTrue special =>
    rw [Bool.or_eq_true, decide_eq_true_eq, decide_eq_true_eq] at special
    rcases special with rfl | rfl
    · exact printed_letter format quotation (by decide)
    · exact printed_letter format backslash (by decide)
  case isFalse =>
    split
    case isTrue => exact printed_letter format 'b' (by decide)
    split
    case isTrue => exact printed_letter format 't' (by decide)
    split
    case isTrue => exact printed_letter format 'n' (by decide)
    split
    case isTrue => exact printed_letter format 'f' (by decide)
    split
    case isTrue => exact printed_letter format 'r' (by decide)
    split
    case isTrue => exact printed_escapeUnits format c
    case isFalse printing =>
      simp only [Bool.or_eq_true, decide_eq_true_eq, Bool.and_eq_true, not_or, not_and,
        not_le] at printing
      rw [String.toList_singleton]
      exact List.forall_mem_singleton.mpr ⟨Nat.le_of_not_lt printing.1, printing.2⟩

end Characters

section Strings

variable {start : List Char}

theorem scanString_spelled {c : Char} {text : List Char} (spelled : Spelled c text) {turns : ℕ}
    {cs ds rest : List Char} (later : scanString start turns cs = .ok (ds, rest)) :
    scanString start (turns + 1) (text ++ cs) = .ok (c :: ds, rest) := by
  cases spelled with
  | plain quote escape printing =>
    rw [List.singleton_append, scanString, if_neg quote, if_neg escape, if_neg printing, later]
    rfl
  | simple letter other stands =>
    have read : readEscape start (letter :: cs) = .ok (c, cs) := by
      rw [readEscape, if_neg other, stands]
    rw [List.cons_append, List.cons_append, List.nil_append, scanString, if_neg (by decide),
      if_pos rfl, read]
    change (scanString start turns cs >>= fun r => .ok (c :: r.1, r.2)) = _
    rw [later]
    rfl
  | unicode units read =>
    have escape : readEscape start ('u' :: (units ++ cs)) = .ok (c, cs) := by
      rw [readEscape, if_pos rfl, read]
    rw [List.cons_append, List.cons_append, scanString, if_neg (by decide), if_pos rfl, escape]
    change (scanString start turns cs >>= fun r => .ok (c :: r.1, r.2)) = _
    rw [later]
    rfl

theorem spelled_length {c : Char} {text : List Char} (spelled : Spelled c text) :
    0 < text.length := by
  cases spelled <;> simp

/-- A string without its quotation marks. -/
def body (format : Format) (cs : List Char) : List Char :=
  cs.flatMap fun c => (PyJson.escapeChar format c).toList

theorem length_le_body (format : Format) (cs : List Char) : cs.length ≤ (body format cs).length := by
  induction cs with
  | nil => exact Nat.le_refl 0
  | cons c cs ih =>
    have one := spelled_length (spelled_escapeChar format c)
    rw [body, List.flatMap_cons, List.length_append, List.length_cons]
    change _ ≤ _ + (body format cs).length
    omega

theorem scanString_body (format : Format) (cs rest : List Char) {turns : ℕ}
    (enough : cs.length < turns) :
    scanString start turns (body format cs ++ quotation :: rest) = .ok (cs, rest) := by
  induction cs generalizing turns with
  | nil =>
    obtain ⟨more, rfl⟩ := Nat.exists_eq_succ_of_ne_zero (Nat.ne_of_gt enough)
    change scanString start (more + 1) (quotation :: rest) = _
    rw [scanString, if_pos rfl]
  | cons c cs ih =>
    obtain ⟨more, rfl⟩ := Nat.exists_eq_succ_of_ne_zero (Nat.ne_of_gt (Nat.zero_lt_of_lt enough))
    have later := ih (Nat.lt_of_succ_lt_succ enough)
    rw [body, List.flatMap_cons, List.append_assoc]
    exact scanString_spelled (spelled_escapeChar format c) later

theorem toList_encodeString (format : Format) (s : String) :
    (encodeString format s).toList = quotation :: (body format s.toList ++ [quotation]) := by
  rw [encodeString, String.toList_append, String.toList_append, String.toList_join,
    List.flatMap_map]
  rfl

theorem printed_encodeString (format : Format) (s : String) :
    AllPrinted format (encodeString format s).toList := by
  have chars : AllPrinted format (body format s.toList) := by
    intro d mem
    obtain ⟨c, _, own⟩ := List.mem_flatMap.mp mem
    exact printed_escapeChar format c d own
  rw [toList_encodeString]
  exact .cons (by decide) (.append chars (.cons (by decide) (allPrinted_nil format)))

end Strings

section Numbers

def Digits (ds : List Char) : Prop := ∀ d ∈ ds, isDigit d = true

def NoDigit (rest : List Char) : Prop := ∀ c ∈ rest.head?, isDigit c = false

/-- A whole number without its sign, as it is written. -/
def NaturalText (ds : List Char) : Prop :=
  ds = ['0'] ∨ ∃ d more, ds = d :: more ∧ d ≠ '0' ∧ Digits ds

def FractionText (cs : List Char) : Prop := cs = [] ∨ ∃ ds, ds ≠ [] ∧ Digits ds ∧ cs = '.' :: ds

def ExponentText (cs : List Char) : Prop :=
  cs = [] ∨ ∃ sign ds, (sign = [] ∨ sign = ['-'] ∨ sign = ['+']) ∧ ds ≠ [] ∧ Digits ds ∧
    cs = 'e' :: (sign ++ ds)

/-- A finite float, as it is written. -/
def FloatText (text : List Char) : Prop :=
  ∃ sign whole fraction exponent, text = sign ++ whole ++ fraction ++ exponent ∧
    (sign = [] ∨ sign = ['-']) ∧ NaturalText whole ∧ FractionText fraction ∧
    ExponentText exponent ∧ ¬ (fraction = [] ∧ exponent = [])

/-- What follows a value inside a list or an object, or the end of the text. -/
def Delimited (rest : List Char) : Prop := ∀ c ∈ rest.head?, c = ',' ∨ c = ']' ∨ c = '}'

theorem takeWhile_digits {ds rest : List Char} (digits : Digits ds) (ends : NoDigit rest) :
    (ds ++ rest).takeWhile isDigit = ds := by
  rw [List.takeWhile_append_of_pos digits]
  cases rest with
  | nil => simp
  | cons c rest => simp [ends c rfl]

theorem dropWhile_digits {ds rest : List Char} (digits : Digits ds) (ends : NoDigit rest) :
    (ds ++ rest).dropWhile isDigit = rest := by
  rw [List.dropWhile_append_of_pos digits]
  cases rest with
  | nil => simp
  | cons c rest => simp [ends c rfl]

theorem scanNatural_text {ds rest : List Char} (natural : NaturalText ds) (ends : NoDigit rest) :
    scanNatural (ds ++ rest) = some (ds, rest) := by
  rcases natural with rfl | ⟨d, more, rfl, other, digits⟩
  · rfl
  · have own := digits d List.mem_cons_self
    have others : Digits more := fun c mem => digits c (List.mem_cons_of_mem d mem)
    rw [List.cons_append, scanNatural, if_pos own, takeWhile_digits others ends,
      dropWhile_digits others ends]
    exact other

theorem scanInteger_text {sign ds rest : List Char} (signed : sign = [] ∨ sign = ['-'])
    (natural : NaturalText ds) (ends : NoDigit rest) :
    scanInteger (sign ++ ds ++ rest) = some (sign ++ ds, rest) := by
  have own := scanNatural_text natural ends
  rcases signed with rfl | rfl
  · rw [List.nil_append, scanInteger, own]
    rintro cs same
    rcases natural with rfl | ⟨d, more, rfl, other, digits⟩
    · cases same
    · have digit := digits d List.mem_cons_self
      rw [(List.cons.inj same).1] at digit
      exact absurd digit (by decide)
  · change (scanNatural (ds ++ rest)).map _ = _
    rw [own]
    rfl

theorem scanFraction_text {cs rest : List Char} (fraction : FractionText cs) (ends : NoDigit rest)
    (noPoint : ∀ c ∈ rest.head?, c ≠ '.') : scanFraction (cs ++ rest) = (cs, rest) := by
  rcases fraction with rfl | ⟨ds, nonempty, digits, rfl⟩
  · rw [List.nil_append, scanFraction]
    rintro more rfl
    exact noPoint '.' rfl rfl
  · rw [List.cons_append, scanFraction, takeWhile_digits digits ends, if_neg nonempty,
      dropWhile_digits digits ends]

theorem scanExponent_text {cs rest : List Char} (exponent : ExponentText cs)
    (ends : Delimited rest) : scanExponent (cs ++ rest) = (cs, rest) := by
  have noDigit : NoDigit rest := by
    intro c mem
    rcases ends c mem with rfl | rfl | rfl <;> rfl
  rcases exponent with rfl | ⟨sign, ds, signed, nonempty, digits, rfl⟩
  · cases rest with
    | nil => rfl
    | cons c more =>
      have other : ¬ (c = 'e' ∨ c = 'E') := by
        rcases ends c rfl with rfl | rfl | rfl <;> decide
      simp only [List.nil_append, scanExponent, other, false_and, if_false]
  · have split : splitSign (sign ++ ds ++ rest) = (sign, ds ++ rest) := by
      rcases signed with rfl | rfl | rfl
      · obtain ⟨d, more, rfl⟩ := List.exists_cons_of_ne_nil nonempty
        have digit := digits d List.mem_cons_self
        rw [List.nil_append, List.cons_append, splitSign]
        · rintro _ same
          rw [(List.cons.inj same).1] at digit
          exact absurd digit (by decide)
        · rintro _ same
          rw [(List.cons.inj same).1] at digit
          exact absurd digit (by decide)
      · rfl
      · rfl
    rw [List.cons_append, scanExponent, split]
    simp only [takeWhile_digits digits noDigit, dropWhile_digits digits noDigit, nonempty, ne_eq,
      not_false_eq_true, and_true, true_or, if_true]

theorem noDigit_cons {c : Char} (other : isDigit c = false) (rest : List Char) :
    NoDigit (c :: rest) := by
  rintro d mem
  cases mem
  exact other

theorem naturalText_toDigits (n : ℕ) : NaturalText (Nat.toDigits 10 n) := by
  have positive : ∀ n, 0 < n → ∃ d more, Nat.toDigits 10 n = d :: more ∧ d ≠ '0' := by
    intro n
    induction n using Nat.strong_induction_on with
    | _ n ih =>
      intro pos
      rw [Nat.toDigits_eq_if (by decide)]
      split
      · exact ⟨n.digitChar, [], rfl, fun zero => by rw [Nat.digitChar_eq_zero] at zero; omega⟩
      · obtain ⟨d, more, own, other⟩ := ih (n / 10) (by omega) (by omega)
        exact ⟨d, more ++ [(n % 10).digitChar], by rw [own, List.cons_append], other⟩
  have digits : Digits (Nat.toDigits 10 n) := fun d mem =>
    isDigit_of_mem_repr (n := n) (by rwa [Nat.toList_repr])
  rcases Nat.eq_zero_or_pos n with rfl | pos
  · exact Or.inl (Nat.toDigits_zero 10)
  · obtain ⟨d, more, own, other⟩ := positive n pos
    exact Or.inr ⟨d, more, own, other, own ▸ digits⟩

theorem natOfDigits_toDigits (n : ℕ) : natOfDigits (Nat.toDigits 10 n) = n :=
  Nat.ofDigitChars_ten_toDigits

theorem scanNumber_int (float : String → PyFloat) (n : ℤ) {rest : List Char}
    (ends : Delimited rest) :
    scanNumber float ((toString n).toList ++ rest) = some (.int n, rest) := by
  have noDigit : NoDigit rest := by
    intro c mem
    rcases ends c mem with rfl | rfl | rfl <;> rfl
  have noPoint : ∀ c ∈ rest.head?, c ≠ '.' := by
    intro c mem
    rcases ends c mem with rfl | rfl | rfl <;> decide
  have fraction : scanFraction rest = ([], rest) :=
    scanFraction_text (Or.inl rfl) noDigit noPoint
  have exponent : scanExponent rest = ([], rest) := scanExponent_text (Or.inl rfl) ends
  have natural := naturalText_toDigits n.natAbs
  have value := natOfDigits_toDigits n.natAbs
  rw [intText, Nat.toList_repr]
  split
  case isTrue negative =>
    have whole := scanInteger_text (Or.inr rfl) natural noDigit
    change scanInteger ('-' :: Nat.toDigits 10 n.natAbs ++ rest) = _ at whole
    rw [scanNumber, whole]
    simp only [Option.map_some, fraction, exponent, and_self, if_true]
    have own : intOf ('-' :: Nat.toDigits 10 n.natAbs) = n := by
      change -(natOfDigits (Nat.toDigits 10 n.natAbs) : ℤ) = n
      rw [value]
      omega
    exact congrArg (fun m => some (Value.int m, rest)) own
  case isFalse nonnegative =>
    have whole := scanInteger_text (Or.inl rfl) natural noDigit
    rw [List.nil_append] at whole
    rw [scanNumber, whole]
    simp only [Option.map_some, fraction, exponent, and_self, if_true]
    have own : intOf (Nat.toDigits 10 n.natAbs) = n := by
      rw [intOf]
      · rw [value]
        omega
      · rintro more same
        rcases natural with zero | ⟨d, ds, own, _, digits⟩
        · rw [zero] at same
          cases same
        · rw [own] at same
          have digit := digits d (own.symm ▸ List.mem_cons_self)
          rw [(List.cons.inj same).1] at digit
          exact absurd digit (by decide)
    exact congrArg (fun m => some (Value.int m, rest)) own

theorem scanNumber_float (float : String → PyFloat) {text rest : List Char} (own : FloatText text)
    (ends : Delimited rest) :
    scanNumber float (text ++ rest) = some (.float (float (String.ofList text)), rest) := by
  obtain ⟨sign, whole, fraction, exponent, rfl, signed, natural, hf, he, marked⟩ := own
  have noDigit : NoDigit rest := by
    intro c mem
    rcases ends c mem with rfl | rfl | rfl <;> rfl
  have noPoint : ∀ c ∈ rest.head?, c ≠ '.' := by
    intro c mem
    rcases ends c mem with rfl | rfl | rfl <;> decide
  have tailNoDigit : NoDigit (exponent ++ rest) := by
    rcases he with rfl | ⟨esign, ds, _, _, _, rfl⟩
    · exact noDigit
    · exact noDigit_cons rfl _
  have tailNoPoint : ∀ c ∈ (exponent ++ rest).head?, c ≠ '.' := by
    rcases he with rfl | ⟨esign, ds, _, _, _, rfl⟩
    · exact noPoint
    · rintro c mem
      cases mem
      decide
  have wholeNoDigit : NoDigit (fraction ++ (exponent ++ rest)) := by
    rcases hf with rfl | ⟨ds, _, _, rfl⟩
    · exact tailNoDigit
    · exact noDigit_cons rfl _
  have first := scanInteger_text signed natural wholeNoDigit
  have second := scanFraction_text hf tailNoDigit tailNoPoint
  have third := scanExponent_text he ends
  have shape : sign ++ whole ++ fraction ++ exponent ++ rest =
      sign ++ whole ++ (fraction ++ (exponent ++ rest)) := by
    rw [List.append_assoc (sign ++ whole ++ fraction), List.append_assoc (sign ++ whole)]
  rw [shape, scanNumber, first]
  simp only [Option.map_some, second, third, marked, if_false]

theorem Digits.printed {ds : List Char} (digits : Digits ds) (format : Format) :
    AllPrinted format ds := by
  intro d mem
  have digit := digits d mem
  simp only [isDigit, Bool.and_eq_true, decide_eq_true_eq, Char.le_def, UInt32.le_iff_toNat_le] at digit
  exact ⟨digit.1.trans' (by decide), fun _ => digit.2.trans_lt (by decide)⟩

theorem NaturalText.printed {ds : List Char} (natural : NaturalText ds) (format : Format) :
    AllPrinted format ds := by
  rcases natural with rfl | ⟨d, more, rfl, _, digits⟩
  · exact .cons (by decide) (allPrinted_nil format)
  · exact digits.printed format

theorem printed_int (format : Format) (n : ℤ) : AllPrinted format (toString n).toList := by
  have natural := (naturalText_toDigits n.natAbs).printed format
  rw [intText, Nat.toList_repr]
  split
  · exact .cons (by decide) natural
  · exact natural

theorem FloatText.printed {text : List Char} (own : FloatText text) (format : Format) :
    AllPrinted format text := by
  obtain ⟨sign, whole, fraction, exponent, rfl, signed, natural, hf, he, _⟩ := own
  have first : AllPrinted format sign := by
    rcases signed with rfl | rfl
    · exact allPrinted_nil format
    · exact .cons (by decide) (allPrinted_nil format)
  have second : AllPrinted format fraction := by
    rcases hf with rfl | ⟨ds, _, digits, rfl⟩
    · exact allPrinted_nil format
    · exact .cons (by decide) (digits.printed format)
  have third : AllPrinted format exponent := by
    rcases he with rfl | ⟨esign, ds, rfl | rfl | rfl, _, digits, rfl⟩
    · exact allPrinted_nil format
    · exact .cons (by decide) (digits.printed format)
    · exact .cons (by decide) (.cons (by decide) (digits.printed format))
    · exact .cons (by decide) (.cons (by decide) (digits.printed format))
  exact ((first.append (natural.printed format)).append second).append third

end Numbers

end SthBoring.Lib.JsonTokens
