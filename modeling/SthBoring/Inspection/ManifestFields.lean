/- Module: SthBoring/Inspection/ManifestFields
   source: package_inspector/java_package_inspector.py
   digest: The main attributes of a manifest, written in lines of 72 bytes and searched for a key. -/

import SthBoring.Inspection.JavaPackageInspector
import SthBoring.Lib.FoldedLines
import SthBoring.Lib.OrderedDict
import SthBoring.WebKit.Clean

set_option autoImplicit false
set_option relaxedAutoImplicit false

namespace SthBoring.Inspection.ManifestFields

open SthBoring.Inspection.JavaPackageInspector
open SthBoring.Lib
open SthBoring.Lib.FoldedLines
open SthBoring.Lib.OrderedDict (PyDict)
open SthBoring.Lib.PyValue (isSpace)
open SthBoring.Lib.WhiteSpace (Stripped)
open SthBoring.WebKit.Clean (chars)

/-- A character of an attribute's name. -/
def isNameChar (c : Char) : Bool := c.isAlphanum || c == '-' || c == '_'

inductive LineEnd where
  | lf | crlf

namespace LineEnd

/-- What is in front of the line feed. -/
def front : LineEnd → List Char
  | lf => []
  | crlf => ['\r']

def text (lineEnd : LineEnd) : List Char := lineEnd.front ++ ['\n']

end LineEnd

/-- Lines of 72 bytes, behind the first of which a space is put. -/
def folding (lineEnd : LineEnd) : Folding Char where
  size c := c.utf8Size
  width := 72
  lineEnd := lineEnd.text
  indent := ' '
  fits c := by
    have most : c.utf8Size ≤ 4 := Char.utf8Size_le_four c
    have space : (' ' : Char).utf8Size = 1 := by decide
    omega

/-- The length of a text in UTF-8. -/
def bytes (text : List Char) : ℕ := (text.map Char.utf8Size).sum

/-- A name begins with a letter or digit, and has at most 70 bytes. -/
structure IsName (name : String) : Prop where
  first : ∃ c cs, name.toList = c :: cs ∧ c.isAlphanum = true
  all : ∀ c ∈ name.toList, isNameChar c = true
  short : bytes name.toList ≤ 70

/-- The main attributes of a manifest. Their values are in one line, before they are written. -/
structure MainAttributes where
  dict : PyDict String String
  names : ∀ e ∈ dict.entries, IsName e.1
  values : ∀ e ∈ dict.entries, '\n' ∉ e.2.toList ∧ '\r' ∉ e.2.toList

/-- An attribute as it is written. -/
def header (lineEnd : LineEnd) (entry : String × String) : List Char :=
  fold (folding lineEnd) 72 (entry.1.toList ++ ':' :: ' ' :: entry.2.toList) ++ lineEnd.text

/-- The manifest, with the empty line behind its main section or without it. -/
def written (lineEnd : LineEnd) (closed : Bool) (attributes : MainAttributes) : String :=
  String.ofList (attributes.dict.entries.flatMap (header lineEnd) ++
    if closed then lineEnd.text else [])

/-- The field is the value of the attribute, unless that is blank or missing. -/
def Decodes (lineEnd : LineEnd) (closed : Bool) (attributes : MainAttributes) (key : String) :
    Prop :=
  extractManifestField (written lineEnd closed attributes) key =
    (attributes.dict.get key).bind fun value => truthy (some (PyValue.strip value))

/-- How much room the line has on which the stripped value begins. -/
def roomOfValue (lineEnd : LineEnd) (key value : String) : ℕ :=
  let before := key.toList ++ ':' :: ' ' :: value.toList.takeWhile isSpace
  match value.toList.dropWhile isSpace with
  | [] => 0
  | c :: _ => roomFor (folding lineEnd) (roomAfter (folding lineEnd) 72 before) c

/-- The value is not blank, and what is left when it is stripped stands on one line. -/
def OnOneLine (lineEnd : LineEnd) (key value : String) : Prop :=
  PyValue.strip value ≠ "" ∧
    bytes (PyValue.strip value).toList ≤ roomOfValue lineEnd key value

section Search

variable {lineEnd : LineEnd} {key : List Char} {c : Char} {cs rest : List Char} {room : ℕ}

/-- Behind other characters than a line feed no field begins. -/
theorem search_append (inline : '\n' ∉ cs) :
    search key false (cs ++ rest) = search key false rest := by
  induction cs with
  | nil => rfl
  | cons c cs ih =>
    rw [List.mem_cons, not_or] at inline
    have other : (c == '\n') = false := by simpa using Ne.symm inline.1
    rw [List.cons_append, search, other, ih inline.2]
    rfl

theorem search_lineEnd : search key false (lineEnd.text ++ rest) = search key true rest := by
  cases lineEnd <;> rfl

/-- The key begins with another character. -/
theorem captureAt_of_ne {k : Char} {ks : List Char} (other : k ≠ c) :
    captureAt (k :: ks) (c :: rest) = none := by
  have differ : (k == c) = false := by simpa using other
  simp [captureAt, TextPattern.behind, List.isPrefixOf, differ]

/-- What is written of a value is passed, up to the end of its line. -/
theorem search_fold {k : Char} {ks : List Char} (indented : k ≠ ' ') (inline : '\n' ∉ cs) :
    search (k :: ks) false (fold (folding lineEnd) room cs ++ (lineEnd.text ++ rest)) =
      search (k :: ks) true rest := by
  induction cs generalizing room with
  | nil => exact search_lineEnd
  | cons c cs ih =>
    rw [List.mem_cons, not_or] at inline
    have other : (c == '\n') = false := by simpa using Ne.symm inline.1
    rw [fold]
    split
    · rw [List.cons_append, search, other, ih inline.2]
      rfl
    · change search (k :: ks) false ((lineEnd.text ++ ' ' :: c :: _) ++ _) = _
      rw [List.append_assoc, search_lineEnd, List.cons_append, List.cons_append, search,
        captureAt_of_ne indented, search, other, ih inline.2]
      rfl

end Search

section Capture

variable {lineEnd : LineEnd} {text rest : List Char} {c : Char}

/-- A text that does not begin with a line feed has a match, if only of white space. -/
theorem capture_isSome (inline : c ≠ '\n') : (capture (c :: rest)).isSome = true := by
  have line : (lineAt (c :: rest)).isSome = true := by simp [lineAt, inline]
  rw [capture]
  split
  · rw [Option.isSome_or, line, Bool.or_true]
  · exact line

/-- White space goes first, whatever ends its lines. -/
theorem capture_spaces {front : List Char} (spaces : ∀ a ∈ front, isSpace a = true)
    (visible : isSpace c = false) :
    capture (front ++ c :: rest) = some ((c :: rest).takeWhile (· ≠ '\n')) := by
  induction front with
  | nil =>
    have inline : c ≠ '\n' := by
      rintro rfl
      cases visible
    have line : (c :: rest).takeWhile (· ≠ '\n') ≠ [] := by simp [inline]
    rw [List.nil_append, capture, if_neg (by simp [visible]), lineAt]
    split
    · next none => exact absurd none line
    · rfl
  | cons a front ih =>
    have here : isSpace a = true := spaces a List.mem_cons_self
    rw [List.cons_append, capture, if_pos here,
      ih fun b hb => spaces b (List.mem_cons_of_mem a hb), Option.some_or]

/-- Of what follows a text without line feeds, the group takes what is in front of the next. -/
theorem takeWhile_line (inline : '\n' ∉ text) :
    (text ++ (lineEnd.text ++ rest)).takeWhile (· ≠ '\n') = text ++ lineEnd.front := by
  have both : ∀ a ∈ text ++ lineEnd.front, decide (a ≠ '\n') = true := by
    intro a ha
    refine decide_eq_true ?_
    rintro rfl
    obtain mem | mem := List.mem_append.mp ha
    · exact inline mem
    · cases lineEnd <;> simp [LineEnd.front] at mem
  rw [LineEnd.text, List.append_assoc, ← List.append_assoc, List.takeWhile_append_of_pos both]
  simp

theorem spaces_front : ∀ a ∈ lineEnd.front, isSpace a = true := by
  cases lineEnd <;> simp [LineEnd.front, isSpace]

theorem spaces_text : ∀ a ∈ lineEnd.text, isSpace a = true := by
  cases lineEnd <;> simp [LineEnd.front, LineEnd.text, isSpace]

/-- White space is white space where it is folded. -/
theorem spaces_fold {room : ℕ} (spaces : ∀ a ∈ text, isSpace a = true) :
    ∀ a ∈ fold (folding lineEnd) room text, isSpace a = true := by
  intro a ha
  obtain own | ended | rfl := mem_fold ha
  · exact spaces a own
  · exact spaces_text a ended
  · exact (by decide : isSpace ' ' = true)

/-- What stands in front of the next line feed behind white space is white space. -/
theorem spaces_takeWhile (spaces : ∀ a ∈ text, isSpace a = true) :
    ∀ a ∈ (text ++ (lineEnd.text ++ rest)).takeWhile (· ≠ '\n'), isSpace a = true := by
  induction text with
  | nil =>
    intro a ha
    rw [takeWhile_line (List.not_mem_nil), List.nil_append] at ha
    exact spaces_front a ha
  | cons b text ih =>
    intro a ha
    rw [List.cons_append, List.takeWhile_cons] at ha
    split at ha
    · obtain rfl | later := List.mem_cons.mp ha
      · exact spaces a List.mem_cons_self
      · exact ih (fun a ha => spaces a (List.mem_cons_of_mem b ha)) a later
    · cases ha

variable {value core : List Char}

/-- The match begins where the value does, on whatever line that is. -/
theorem capture_value (room : ℕ) (begins : value.dropWhile isSpace = c :: core) :
    capture (fold (folding lineEnd) room (' ' :: value) ++ (lineEnd.text ++ rest)) =
      some ((fold (folding lineEnd) (roomFor (folding lineEnd)
        (roomAfter (folding lineEnd) room (' ' :: value.takeWhile isSpace)) c) (c :: core) ++
          (lineEnd.text ++ rest)).takeWhile (· ≠ '\n')) := by
  let lead := ' ' :: value.takeWhile isSpace
  have split : ' ' :: value = lead ++ c :: core := by
    rw [← begins, List.cons_append, List.takeWhile_append_dropWhile]
  have spaces : ∀ a ∈ lead, isSpace a = true := by
    intro a ha
    obtain rfl | inside := List.mem_cons.mp ha
    · decide
    · exact List.mem_takeWhile_imp inside
  have visible : isSpace c = false := by
    have nonempty : value.dropWhile isSpace ≠ [] := by simp [begins]
    have head := List.head_dropWhile_not isSpace nonempty
    simpa [begins] using head
  rw [split, fold_append, fold_cons (roomAfter (folding lineEnd) room lead) c core, fold_roomFor,
    List.append_assoc, List.append_assoc, List.cons_append, ← List.append_assoc,
    capture_spaces _ visible]
  intro a ha
  obtain own | gap := List.mem_append.mp ha
  · exact spaces_fold spaces a own
  · split at gap
    · cases gap
    · obtain ended | space := List.mem_append.mp gap
      · exact spaces_text a ended
      · rw [List.mem_singleton.mp space]
        exact (by decide : isSpace ' ' = true)

/-- The match is stripped to the value if and only if this is on one line. -/
theorem strip_group (inline : '\n' ∉ value) (stripped : Stripped chars value) {back : List Char}
    (spaces : ∀ a ∈ back, isSpace a = true) (room : ℕ) :
    WhiteSpace.strip chars ((fold (folding lineEnd) room (value ++ back) ++
        (lineEnd.text ++ rest)).takeWhile (· ≠ '\n')) = value ↔ bytes value ≤ room := by
  rw [fold_append, List.append_assoc]
  have all_inline : ∀ a ∈ value, decide (a ≠ '\n') = true := by
    intro a ha
    refine decide_eq_true ?_
    rintro rfl
    exact inline ha
  constructor
  · intro same
    by_contra large
    obtain ⟨front, last, more, rfl, nonempty, folded⟩ :=
      fold_of_not_fits (F := folding lineEnd) (not_le.mp large)
    have front_inline : '\n' ∉ front := fun mem => inline (List.mem_append_left last mem)
    have line : ∀ after, (fold (folding lineEnd) room (front ++ last) ++ after).takeWhile
        (· ≠ '\n') = front ++ lineEnd.front := by
      intro after
      rw [folded, List.append_assoc, List.append_assoc]
      exact takeWhile_line front_inline
    rw [line, WhiteSpace.strip_append_of_spaces front spaces_front] at same
    have shorter := WhiteSpace.length_strip_le (A := chars) front
    rw [same, List.length_append] at shorter
    have some_left := List.length_pos_of_ne_nil nonempty
    omega
  · intro fits
    rw [fold_of_fits (F := folding lineEnd) fits, List.takeWhile_append_of_pos all_inline]
    exact WhiteSpace.strip_between (s := []) (by simp) stripped
      (spaces_takeWhile (spaces_fold spaces))

end Capture

section Names

variable {name key : String} {rest : List Char}

theorem IsName.colon_notMem (named : IsName name) : ':' ∉ name.toList :=
  fun mem => absurd (named.all ':' mem) (by decide)

theorem IsName.feed_notMem (named : IsName name) : '\n' ∉ name.toList :=
  fun mem => absurd (named.all '\n' mem) (by decide)

/-- A name in front of its colon is told by it. -/
theorem eq_of_colon {key name : List Char} (hkey : ':' ∉ key) (hname : ':' ∉ name)
    (begins : key ++ [':'] <+: name ++ ':' :: rest) : key = name := by
  induction key generalizing name with
  | nil =>
    cases name with
    | nil => rfl
    | cons n ns =>
      obtain ⟨after, same⟩ := begins
      injection same with first
      exact absurd (first ▸ List.mem_cons_self) hname
  | cons k ks ih =>
    obtain ⟨after, same⟩ := begins
    cases name with
    | nil =>
      injection same with first
      exact absurd (first ▸ List.mem_cons_self) hkey
    | cons n ns =>
      injection same with first others
      rw [first, ih (fun mem => hkey (List.mem_cons_of_mem k mem))
        (fun mem => hname (List.mem_cons_of_mem n mem)) ⟨after, others⟩]

theorem captureAt_other (hkey : IsName key) (hname : IsName name) (other : name ≠ key) :
    captureAt key.toList (name.toList ++ ':' :: rest) = none := by
  have differ : ¬ (key.toList ++ [':']).isPrefixOf (name.toList ++ ':' :: rest) = true := by
    rw [List.isPrefixOf_iff_prefix]
    intro begins
    have same := eq_of_colon hkey.colon_notMem hname.colon_notMem begins
    exact other (String.toList_inj.mp same).symm
  rw [captureAt, TextPattern.behind, if_neg differ]
  rfl

theorem captureAt_own (key rest : List Char) :
    captureAt key (key ++ ':' :: rest) = capture rest := by
  have begins : (key ++ [':']).isPrefixOf (key ++ ':' :: rest) = true := by
    rw [List.isPrefixOf_iff_prefix]
    exact ⟨rest, by rw [List.append_assoc, List.singleton_append]⟩
  have left : (key ++ ':' :: rest).drop (key ++ [':']).length = rest := by
    rw [List.append_cons key ':' rest, List.drop_left]
  rw [captureAt, TextPattern.behind, if_pos begins, left]
  rfl

end Names

section Headers

variable {lineEnd : LineEnd} {key name value : String} {rest : List Char}

/-- The room behind the colon of a name. -/
def roomBehind (name : String) : ℕ := 72 - (bytes name.toList + 1)

theorem total_name (name : String) :
    total (folding lineEnd) (name.toList ++ [':']) = bytes name.toList + 1 := by
  have colon : (':' : Char).utf8Size = 1 := by decide
  simp [total, bytes, folding, colon]

/-- A name and its colon are on one line. -/
theorem total_name_le (named : IsName name) :
    total (folding lineEnd) (name.toList ++ [':']) ≤ 72 := by
  have short := named.short
  rw [total_name]
  omega

/-- That line has room for the space behind the colon. -/
theorem space_fits (named : IsName name) : (folding lineEnd).size ' ' ≤ roomBehind name := by
  have short := named.short
  change 1 ≤ 72 - (bytes name.toList + 1)
  omega

theorem header_eq (named : IsName name) : header lineEnd (name, value) ++ rest =
    name.toList ++ ':' :: (fold (folding lineEnd) (roomBehind name) (' ' :: value.toList) ++
      (lineEnd.text ++ rest)) := by
  have fits : total (folding lineEnd) (name.toList ++ [':']) ≤ 72 := total_name_le named
  rw [header, List.append_cons, fold_append, fold_of_fits fits, roomAfter_of_fits fits, total_name,
    roomBehind]
  simp only [List.append_assoc, List.cons_append, List.nil_append]

/-- The line of another attribute, and what is carried over from it, is passed. -/
theorem search_other (hkey : IsName key) (hname : IsName name) (other : name ≠ key)
    (inline : '\n' ∉ value.toList) :
    search key.toList true (header lineEnd (name, value) ++ rest) =
      search key.toList true rest := by
  obtain ⟨k, ks, key_eq, alphanum⟩ := hkey.first
  obtain ⟨n, ns, name_eq, -⟩ := hname.first
  have indented : k ≠ ' ' := by
    rintro rfl
    cases alphanum
  have feed := hname.feed_notMem
  have passed : captureAt key.toList (name.toList ++ ':' :: (fold (folding lineEnd)
      (roomBehind name) (' ' :: value.toList) ++ (lineEnd.text ++ rest))) = none :=
    captureAt_other hkey hname other
  rw [name_eq, List.mem_cons, not_or] at feed
  rw [name_eq, List.cons_append] at passed
  have step : (n == '\n') = false := by simpa using Ne.symm feed.1
  have colon : '\n' ∉ ns ++ [':'] := by simpa using feed.2
  have spaced : '\n' ∉ ' ' :: value.toList := by simpa using inline
  rw [header_eq hname, name_eq, List.cons_append, search, if_pos rfl, passed, step, Option.none_or,
    List.append_cons, search_append colon, key_eq, search_fold indented spaced]

/-- What is written behind a colon has a match, as it begins with a space. -/
theorem capture_written_isSome (named : IsName key) :
    (capture (fold (folding lineEnd) (roomBehind key) (' ' :: value.toList) ++
      (lineEnd.text ++ rest))).isSome = true := by
  rw [fold, if_pos (space_fits named), List.cons_append]
  exact capture_isSome (by decide)

theorem search_own (named : IsName key) :
    search key.toList true (header lineEnd (key, value) ++ rest) =
      capture (fold (folding lineEnd) (roomBehind key) (' ' :: value.toList) ++
        (lineEnd.text ++ rest)) := by
  obtain ⟨k, ks, key_eq, -⟩ := named.first
  have found := captureAt_own key.toList
    (fold (folding lineEnd) (roomBehind key) (' ' :: value.toList) ++ (lineEnd.text ++ rest))
  rw [header_eq named]
  rw [key_eq] at found ⊢
  rw [List.cons_append] at found ⊢
  rw [search, if_pos rfl, found]
  exact Option.or_of_isSome (capture_written_isSome named)

theorem search_closing (named : IsName key) (closed : Bool) :
    search key.toList true (if closed then lineEnd.text else []) = none := by
  obtain ⟨k, ks, key_eq, alphanum⟩ := named.first
  have feed : k ≠ '\n' := by
    rintro rfl
    cases alphanum
  have ret : k ≠ '\r' := by
    rintro rfl
    cases alphanum
  rw [key_eq]
  cases closed with
  | false => rfl
  | true =>
    cases lineEnd with
    | lf => simp [LineEnd.text, LineEnd.front, search, captureAt_of_ne feed]
    | crlf => simp [LineEnd.text, LineEnd.front, search, captureAt_of_ne ret]

/-- The lines of other attributes are passed. -/
theorem search_others (named : IsName key) {entries : List (String × String)}
    (names : ∀ e ∈ entries, IsName e.1) (values : ∀ e ∈ entries, '\n' ∉ e.2.toList)
    (others : ∀ e ∈ entries, e.1 ≠ key) :
    search key.toList true (entries.flatMap (header lineEnd) ++ rest) =
      search key.toList true rest := by
  induction entries with
  | nil => rfl
  | cons e entries ih =>
    rw [List.flatMap_cons, List.append_assoc,
      search_other named (names e List.mem_cons_self) (others e List.mem_cons_self)
        (values e List.mem_cons_self)]
    exact ih (fun f hf => names f (List.mem_cons_of_mem e hf))
      (fun f hf => values f (List.mem_cons_of_mem e hf))
      (fun f hf => others f (List.mem_cons_of_mem e hf))

end Headers

section Attributes

variable {lineEnd : LineEnd} {closed : Bool} {attributes : MainAttributes} {key value : String}

theorem extract_of_missing (named : IsName key) (missing : attributes.dict.get key = none) :
    extractManifestField (written lineEnd closed attributes) key = none := by
  have others : ∀ e ∈ attributes.dict.entries, e.1 ≠ key := by
    rintro e he rfl
    exact (PyDict.get_eq_none_iff _ _).mp missing (List.mem_map_of_mem he)
  rw [extractManifestField, written, String.toList_ofList,
    search_others named attributes.names (fun e he => (attributes.values e he).1) others,
    search_closing named closed]
  rfl

/-- The search comes to the line of the attribute. -/
theorem extract_of_present (present : attributes.dict.get key = some value) :
    ∃ rest, extractManifestField (written lineEnd closed attributes) key =
      (capture (fold (folding lineEnd) (roomBehind key) (' ' :: value.toList) ++
        (lineEnd.text ++ rest))).map fun group => PyValue.strip (String.ofList group) := by
  have mem := (PyDict.get_eq_some_iff _ _ _).mp present
  have named := attributes.names _ mem
  obtain ⟨before, after, split⟩ := List.append_of_mem mem
  have nodup := attributes.dict.nodup
  rw [split, List.map_append, List.map_cons, List.nodup_append] at nodup
  have inside : ∀ e ∈ before, e ∈ attributes.dict.entries := fun e he => by
    rw [split]
    exact List.mem_append_left _ he
  have others : ∀ e ∈ before, e.1 ≠ key := fun e he =>
    nodup.2.2 e.1 (List.mem_map_of_mem he) key List.mem_cons_self
  refine ⟨after.flatMap (header lineEnd) ++ if closed then lineEnd.text else [], ?_⟩
  rw [extractManifestField, written, String.toList_ofList, split, List.flatMap_append,
    List.append_assoc, search_others named (fun e he => attributes.names e (inside e he))
      (fun e he => (attributes.values e (inside e he)).1) others,
    List.flatMap_cons, List.append_assoc, search_own named]

theorem strip_eq (text : String) :
    PyValue.strip text = String.ofList (WhiteSpace.strip chars text.toList) := rfl

/-- The line on which the value begins has the room that the search finds. -/
theorem roomOfValue_eq (named : IsName key) {c : Char} {core : List Char}
    (begins : value.toList.dropWhile isSpace = c :: core) :
    roomOfValue lineEnd key value = roomFor (folding lineEnd)
      (roomAfter (folding lineEnd) (roomBehind key) (' ' :: value.toList.takeWhile isSpace)) c := by
  have fits : total (folding lineEnd) (key.toList ++ [':']) ≤ 72 := total_name_le named
  rw [roomOfValue, begins, List.append_cons, roomAfter_append, roomAfter_of_fits fits, total_name]
  rfl

/-- What is found for a value that is not blank is the value if and only if it is on one line. -/
theorem extract_eq_iff (present : attributes.dict.get key = some value)
    (visible : WhiteSpace.strip chars value.toList ≠ []) :
    extractManifestField (written lineEnd closed attributes) key = some (PyValue.strip value) ↔
      bytes (PyValue.strip value).toList ≤ roomOfValue lineEnd key value := by
  have mem := (PyDict.get_eq_some_iff _ _ _).mp present
  obtain ⟨c, core, begins⟩ : ∃ c core, value.toList.dropWhile isSpace = c :: core := by
    refine List.exists_cons_of_ne_nil fun none => visible ?_
    rw [← WhiteSpace.strip_dropWhile]
    exact congrArg (WhiteSpace.strip chars) none
  obtain ⟨back, spaces, split⟩ := WhiteSpace.dropWhile_eq_strip_append (A := chars) value.toList
  have whole : c :: core = WhiteSpace.strip chars value.toList ++ back := begins.symm.trans split
  have inline : '\n' ∉ WhiteSpace.strip chars value.toList := fun feed =>
    (attributes.values _ mem).1 ((WhiteSpace.strip_inside value.toList).subset feed)
  obtain ⟨rest, extracted⟩ : ∃ rest,
      extractManifestField (written lineEnd closed attributes) key = _ :=
    extract_of_present present
  rw [extracted, capture_value _ begins, roomOfValue_eq (attributes.names _ mem) begins, whole,
    Option.map_some, Option.some.injEq, strip_eq, strip_eq, String.toList_ofList,
    String.toList_ofList, String.ofList_inj]
  exact strip_group inline (WhiteSpace.stripped_strip visible) spaces _

/-- A manifest is decoded if and only if the attribute is missing, or its value is not blank and
the line that it begins on holds all of it. -/
theorem decodes_iff (named : IsName key) : Decodes lineEnd closed attributes key ↔
    ∀ value, attributes.dict.get key = some value → OnOneLine lineEnd key value := by
  unfold Decodes
  cases found : attributes.dict.get key with
  | none =>
    rw [extract_of_missing named found]
    constructor
    · intro _ value none
      cases none
    · intro _
      rfl
  | some value =>
    have only : (∀ value', some value = some value' → OnOneLine lineEnd key value') ↔
        OnOneLine lineEnd key value := by
      constructor
      · intro all
        exact all value rfl
      · rintro one _ ⟨⟩
        exact one
    rw [only, OnOneLine, Option.bind_some]
    by_cases visible : WhiteSpace.strip chars value.toList = []
    · have blank : PyValue.strip value = "" := by
        rw [strip_eq, visible, String.ofList_nil]
      obtain ⟨rest, extracted⟩ : ∃ rest,
          extractManifestField (written lineEnd closed attributes) key = _ :=
        extract_of_present found
      have found_some : (capture (fold (folding lineEnd) (roomBehind key) (' ' :: value.toList) ++
          (lineEnd.text ++ rest))).isSome = true := capture_written_isSome named
      obtain ⟨group, some_group⟩ := Option.isSome_iff_exists.mp found_some
      rw [extracted, some_group, blank]
      simp [truthy, Option.filter]
    · have text : PyValue.strip value ≠ "" := by
        intro blank
        exact visible (String.ofList_inj.mp blank)
      have shown : truthy (some (PyValue.strip value)) = some (PyValue.strip value) := by
        simp [truthy, Option.filter, text]
      rw [shown, extract_eq_iff found visible]
      exact ⟨fun fits => ⟨text, fits⟩, fun one => one.2⟩

end Attributes

section Sample

theorem isName_mainClass : IsName "Main-Class" :=
  ⟨⟨'M', "ain-Class".toList, by decide +kernel, by decide⟩, List.all_eq_true.mp (by decide +kernel),
    by decide +kernel⟩

/-- A manifest with one attribute. -/
def mainClassOf (value : String) (inline : '\n' ∉ value.toList ∧ '\r' ∉ value.toList) :
    MainAttributes where
  dict := PyDict.empty.set "Main-Class" value
  names e he := by
    rw [List.mem_singleton.mp he]
    exact isName_mainClass
  values e he := by
    rw [List.mem_singleton.mp he]
    exact inline

theorem short_value_decoded :
    Decodes .crlf true (mainClassOf "com.demo.Main" (by decide +kernel)) "Main-Class" := by
  refine (decodes_iff isName_mainClass).mpr ?_
  intro value found
  obtain rfl : "com.demo.Main" = value := Option.some.inj found
  exact ⟨by decide +kernel, by decide +kernel⟩

/-- The second line of a class name is lost. -/
theorem long_value_cut :
    ¬ Decodes .crlf true (mainClassOf
      "com.example.deployment.platform.services.runtime.bootstrap.ApplicationLauncher"
      (by decide +kernel)) "Main-Class" := by
  unfold Decodes
  decide +kernel

end Sample

end SthBoring.Inspection.ManifestFields
