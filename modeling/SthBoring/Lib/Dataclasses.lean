/- Module: SthBoring/Lib/Dataclasses
   source: dataclasses of the standard library
   digest: Instances of dataclasses: taken apart into dicts, made from keywords, and read. -/

import SthBoring.Lib.JsonValue
import SthBoring.Lib.PyJson

set_option autoImplicit false
set_option relaxedAutoImplicit false

namespace SthBoring.Lib.Dataclasses

universe u

open SthBoring.Lib.OrderedDict (assocGet assocGet_of_mem)
open SthBoring.Lib.PyValue (Value Fields PyExc typeError joinWith)
open SthBoring.Lib.JsonValue

section Plain

mutual

/-- Every instance inside a value becomes a dict of its fields. -/
def plain : Value → Value
  | .obj _ fields => .dict (plainFields fields)
  | .dict entries => .dict (plainFields entries)
  | .list xs => .list (plainList xs)
  | v => v

def plainList : List Value → List Value
  | [] => []
  | x :: xs => plain x :: plainList xs

def plainFields : Fields → Fields
  | [] => []
  | (k, v) :: es => (k, plain v) :: plainFields es

end

theorem plainList_eq (xs : List Value) : plainList xs = xs.map plain := by
  induction xs with
  | nil => rfl
  | cons x xs ih => rw [plainList, ih, List.map_cons]

mutual

/-- JSON values hold no instances. -/
theorem plain_of_isJson (v : Value) (json : IsJson v) : plain v = v := by
  cases v with
  | list xs => rw [plain, plainList_of_allJson xs json]
  | dict es => rw [plain, plainFields_of_membersJson es json.2]
  | obj cls attributes => exact json.elim
  | _ => rfl

theorem plainList_of_allJson (xs : List Value) (json : AllJson xs) : plainList xs = xs := by
  cases xs with
  | nil => rfl
  | cons x xs => rw [plainList, plain_of_isJson x json.1, plainList_of_allJson xs json.2]

theorem plainFields_of_membersJson (es : List (String × Value)) (json : MembersJson es) :
    plainFields es = es := by
  cases es with
  | nil => rfl
  | cons e es =>
    obtain ⟨k, v⟩ := e
    rw [plainFields, plain_of_isJson v json.1, plainFields_of_membersJson es json.2]

end

mutual

theorem plain_plain (v : Value) : plain (plain v) = plain v := by
  cases v with
  | list xs => rw [plain, plain, plainList_plainList xs]
  | dict es => rw [plain, plain, plainFields_plainFields es]
  | obj cls attributes => rw [plain, plain, plainFields_plainFields attributes]
  | _ => rfl

theorem plainList_plainList (xs : List Value) : plainList (plainList xs) = plainList xs := by
  cases xs with
  | nil => rfl
  | cons x xs => rw [plainList, plainList, plain_plain x, plainList_plainList xs]

theorem plainFields_plainFields (es : List (String × Value)) :
    plainFields (plainFields es) = plainFields es := by
  cases es with
  | nil => rfl
  | cons e es =>
    obtain ⟨k, v⟩ := e
    rw [plainFields, plainFields, plain_plain v, plainFields_plainFields es]

end

section Serializable

open SthBoring.Lib.PyJson (sortMembers unserializable unserializableList unserializableMembers)

theorem unserializableMembers_eq (es : Fields) :
    unserializableMembers es = es.map fun e => (e.1, unserializable e.2) := by
  induction es with
  | nil => rfl
  | cons e es ih =>
    obtain ⟨k, v⟩ := e
    rw [unserializableMembers, ih, List.map_cons]

theorem members_serializable {es : Fields} (h : unserializable (.dict es) = none) :
    ∀ e ∈ es, unserializable e.2 = none := by
  intro e he
  rw [unserializable, unserializableMembers_eq] at h
  have member : (e.1, unserializable e.2) ∈
      sortMembers (es.map fun e => (e.1, unserializable e.2)) :=
    (List.mem_insertionSort _).mpr (List.mem_map_of_mem he)
  exact List.findSome?_eq_none_iff.mp h _ member

mutual

/-- What `json.dumps` writes without help holds no instances. -/
theorem plain_of_serializable (v : Value) (h : unserializable v = none) : plain v = v := by
  cases v with
  | list xs =>
    rw [unserializable] at h
    rw [plain, plainList_of_serializable xs h]
  | dict es => rw [plain, plainFields_of_serializable es (members_serializable h)]
  | obj cls attributes => cases h
  | _ => rfl

theorem plainList_of_serializable (xs : List Value) (h : unserializableList xs = none) :
    plainList xs = xs := by
  cases xs with
  | nil => rfl
  | cons x xs =>
    rw [unserializableList, Option.or_eq_none_iff] at h
    rw [plainList, plain_of_serializable x h.1, plainList_of_serializable xs h.2]

theorem plainFields_of_serializable (es : List (String × Value))
    (h : ∀ e ∈ es, unserializable e.2 = none) : plainFields es = es := by
  cases es with
  | nil => rfl
  | cons e es =>
    obtain ⟨k, v⟩ := e
    have rest : ∀ e ∈ es, unserializable e.2 = none := fun e he => h e (List.mem_cons_of_mem _ he)
    rw [plainFields, plain_of_serializable v (h (k, v) List.mem_cons_self),
      plainFields_of_serializable es rest]

end

end Serializable

end Plain

section Construction

/-- A dataclass: its fields in order, with the defaults of those that have one. -/
structure DataClass where
  name : String
  fields : List (String × Option Value)

def DataClass.names (c : DataClass) : List String := c.fields.map Prod.fst

/-- `'a'`, `'a' and 'b'`, `'a', 'b', and 'c'`. -/
def quotedList : List String → String
  | [] => ""
  | [a] => s!"'{a}'"
  | [a, b] => s!"'{a}' and '{b}'"
  | a :: b :: rest =>
    let quoted := (a :: b :: rest).dropLast.map fun s => s!"'{s}'"
    let last := (b :: rest).getLast (List.cons_ne_nil b rest)
    joinWith ", " quoted ++ s!", and '{last}'"

/-- The names of the arguments that a call leaves out and that have no default. -/
def DataClass.missing (c : DataClass) (kwargs : Fields) : List String :=
  (c.fields.filter fun f => f.2.isNone && (kwargs.get f.1).isNone).map Prod.fst

/-- `cls(**kwargs)`. -/
def DataClass.construct (c : DataClass) (kwargs : Fields) : Except PyExc Value :=
  match kwargs.find? fun e => !c.names.contains e.1 with
  | some e =>
    .error (typeError s!"{c.name}.__init__() got an unexpected keyword argument '{e.1}'")
  | none =>
    match c.missing kwargs with
    | [] => .ok (.obj c.name
        (c.fields.map fun f => (f.1, (kwargs.get f.1).getD (f.2.getD .null))))
    | [name] =>
      .error (typeError s!"{c.name}.__init__() missing 1 required positional argument: '{name}'")
    | names =>
      let listed := quotedList names
      .error (typeError
        s!"{c.name}.__init__() missing {names.length} required positional arguments: {listed}")

/-- Keywords that name all fields in their order are the attributes of the instance. -/
theorem DataClass.construct_eq {c : DataClass} {attributes : Fields} (distinct : c.names.Nodup)
    (names : attributes.map Prod.fst = c.names) :
    c.construct attributes = .ok (.obj c.name attributes) := by
  have nodup : (attributes.map Prod.fst).Nodup := names ▸ distinct
  have expected : attributes.find? (fun e => !c.names.contains e.1) = none := by
    refine List.find?_eq_none.mpr fun e he => ?_
    have listed : e.1 ∈ c.names := names ▸ List.mem_map_of_mem he
    simpa using listed
  have given : ∀ f ∈ c.fields, ∃ v, attributes.get f.1 = some v := by
    intro f hf
    have listed : f.1 ∈ attributes.map Prod.fst := by
      rw [names]
      exact List.mem_map_of_mem hf
    obtain ⟨e, he, same⟩ := List.mem_map.mp listed
    exact ⟨e.2, assocGet_of_mem nodup (same ▸ he)⟩
  have complete : c.missing attributes = [] := by
    refine List.map_eq_nil_iff.mpr (List.filter_eq_nil_iff.mpr fun f hf => ?_)
    obtain ⟨v, found⟩ := given f hf
    simp [found]
  have values : c.fields.map (fun f => (f.1, (attributes.get f.1).getD (f.2.getD .null))) =
      attributes := by
    calc c.fields.map (fun f => (f.1, (attributes.get f.1).getD (f.2.getD .null)))
        = c.fields.map (fun f => (f.1, (attributes.get f.1).getD .null)) := by
          refine List.map_congr_left fun f hf => ?_
          obtain ⟨v, found⟩ := given f hf
          rw [found]
          rfl
      _ = (attributes.map Prod.fst).map (fun k => (k, (attributes.get k).getD .null)) := by
          rw [names, DataClass.names, List.map_map]
          rfl
      _ = attributes.map id := by
          rw [List.map_map]
          refine List.map_congr_left fun e he => ?_
          have found : attributes.get e.1 = some e.2 := assocGet_of_mem nodup he
          simp [found]
      _ = attributes := List.map_id attributes
  simp only [DataClass.construct, expected, complete, values]

end Construction

section Reading

variable {α β : Type u}

/-- What is read is what was written. -/
def Sound (read : Value → Option α) (write : α → Value) : Prop :=
  ∀ v a, read v = some a → v = write a

/-- What is written can be read. -/
def Complete (read : Value → Option α) (write : α → Value) : Prop := ∀ a, read (write a) = some a

def readStr : Value → Option String
  | .str s => some s
  | _ => none

def readInt : Value → Option ℤ
  | .int n => some n
  | _ => none

def readBool : Value → Option Bool
  | .bool b => some b
  | _ => none

def readDict : Value → Option Fields
  | .dict es => some es
  | _ => none

def writeOptional (write : α → Value) : Option α → Value
  | none => .null
  | some a => write a

def readOptional (read : Value → Option α) : Value → Option (Option α)
  | .null => some none
  | v => (read v).map some

def readAll (read : Value → Option α) : List Value → Option (List α)
  | [] => some []
  | v :: vs => do
    let a ← read v
    let as ← readAll read vs
    return a :: as

def readList (read : Value → Option α) : Value → Option (List α)
  | .list vs => readAll read vs
  | _ => none

def writeList (write : α → Value) (as : List α) : Value := .list (as.map write)

theorem sound_str : Sound readStr Value.str := by
  intro v s h
  cases v <;> cases h
  rfl

theorem sound_int : Sound readInt Value.int := by
  intro v n h
  cases v <;> cases h
  rfl

theorem sound_bool : Sound readBool Value.bool := by
  intro v b h
  cases v <;> cases h
  rfl

theorem sound_dict : Sound readDict Value.dict := by
  intro v es h
  cases v <;> cases h
  rfl

theorem complete_str : Complete readStr Value.str := fun _ => rfl

theorem complete_int : Complete readInt Value.int := fun _ => rfl

theorem complete_bool : Complete readBool Value.bool := fun _ => rfl

theorem complete_dict : Complete readDict Value.dict := fun _ => rfl

theorem complete_any : Complete some id := fun _ => rfl

variable {read : Value → Option α} {write : α → Value}

theorem sound_optional (sound : Sound read write) :
    Sound (readOptional read) (writeOptional write) := by
  intro v a h
  cases v with
  | null =>
    cases h
    rfl
  | _ =>
    obtain ⟨b, hb, rfl⟩ := Option.map_eq_some_iff.mp h
    exact sound _ b hb

theorem complete_optional (complete : Complete read write) (notNull : ∀ a, write a ≠ .null) :
    Complete (readOptional read) (writeOptional write) := by
  intro a
  cases a with
  | none => rfl
  | some a =>
    have here := complete a
    have other := notNull a
    rw [writeOptional]
    cases found : write a with
    | null => exact absurd found other
    | _ =>
      rw [found] at here
      simp only [readOptional, here, Option.map_some]

theorem readAll_eq_some {vs : List Value} {as : List α} (sound : Sound read write)
    (h : readAll read vs = some as) : vs = as.map write := by
  induction vs generalizing as with
  | nil =>
    cases h
    rfl
  | cons v vs ih =>
    obtain ⟨a, ha, rest⟩ := Option.bind_eq_some_iff.mp h
    obtain ⟨bs, hbs, same⟩ := Option.bind_eq_some_iff.mp rest
    cases same
    rw [List.map_cons, ← sound v a ha, ← ih hbs]

theorem sound_list (sound : Sound read write) : Sound (readList read) (writeList write) := by
  intro v as h
  cases v with
  | list vs => rw [writeList, ← readAll_eq_some sound h]
  | _ => cases h

theorem exists_of_readAll {vs : List Value} {as : List α} (h : readAll read vs = some as) {a : α}
    (mem : a ∈ as) : ∃ v, read v = some a := by
  induction vs generalizing as with
  | nil =>
    cases h
    cases mem
  | cons v vs ih =>
    obtain ⟨b, hb, rest⟩ := Option.bind_eq_some_iff.mp h
    obtain ⟨bs, hbs, same⟩ := Option.bind_eq_some_iff.mp rest
    cases same
    rcases List.mem_cons.mp mem with rfl | later
    · exact ⟨v, hb⟩
    · exact ih hbs later

/-- What was read once can be read again once it is written. -/
theorem read_write_of_readList (sound : Sound read write) {v : Value} {as : List α}
    (h : readList read v = some as) {a : α} (mem : a ∈ as) : read (write a) = some a := by
  cases v with
  | list vs =>
    obtain ⟨v, hv⟩ := exists_of_readAll h mem
    exact sound v a hv ▸ hv
  | _ => cases h

theorem readList_of_forall {as : List α} (each : ∀ a ∈ as, read (write a) = some a) :
    readList read (writeList write as) = some as := by
  show readAll read (as.map write) = some as
  induction as with
  | nil => rfl
  | cons a as ih =>
    have rest := ih fun b hb => each b (List.mem_cons_of_mem a hb)
    simp only [List.map_cons, readAll, each a List.mem_cons_self, rest, Option.bind_eq_bind,
      Option.bind_some, Option.pure_def]

theorem complete_list (complete : Complete read write) :
    Complete (readList read) (writeList write) := fun _ =>
  readList_of_forall fun a _ => complete a

section Rows

variable {γ δ : Type u} {readRest : List Value → Option γ} {writeRest : γ → List Value}

/-- The attributes of an instance, read one after another. -/
def readNil : List Value → Option PUnit.{u + 1}
  | [] => some ⟨⟩
  | _ :: _ => none

def readCons (read : Value → Option δ) (readRest : List Value → Option γ) :
    List Value → Option (δ × γ)
  | [] => none
  | v :: vs => do
    let d ← read v
    let c ← readRest vs
    return (d, c)

def writeNil (_ : PUnit.{u + 1}) : List Value := []

def writeCons (write : δ → Value) (writeRest : γ → List Value) (row : δ × γ) : List Value :=
  write row.1 :: writeRest row.2

def SoundRow (readRow : List Value → Option γ) (writeRow : γ → List Value) : Prop :=
  ∀ vs row, readRow vs = some row → vs = writeRow row

theorem soundRow_nil : SoundRow readNil.{u} writeNil := by
  intro vs row h
  cases vs with
  | nil => rfl
  | cons v vs => cases h

theorem soundRow_cons {read : Value → Option δ} {write : δ → Value} (first : Sound read write)
    (rest : SoundRow readRest writeRest) :
    SoundRow (readCons read readRest) (writeCons write writeRest) := by
  intro vs row h
  cases vs with
  | nil => cases h
  | cons v vs =>
    obtain ⟨d, hd, h⟩ := Option.bind_eq_some_iff.mp h
    obtain ⟨c, hc, same⟩ := Option.bind_eq_some_iff.mp h
    cases same
    rw [writeCons, ← first v d hd, ← rest vs c hc]

theorem readNil_writeNil : readNil (writeNil PUnit.unit.{u + 1}) = some PUnit.unit := rfl

theorem readCons_writeCons {read : Value → Option δ} {write : δ → Value} {d : δ} {c : γ}
    (first : read (write d) = some d) (rest : readRest (writeRest c) = some c) :
    readCons read readRest (writeCons write writeRest (d, c)) = some (d, c) := by
  simp only [writeCons, readCons, first, rest, Option.bind_eq_bind, Option.bind_some,
    Option.pure_def]

theorem first_of_readCons {read : Value → Option δ} {vs : List Value} {row : δ × γ}
    (h : readCons read readRest vs = some row) : ∃ v, read v = some row.1 := by
  cases vs with
  | nil => cases h
  | cons v vs =>
    obtain ⟨d, hd, h⟩ := Option.bind_eq_some_iff.mp h
    obtain ⟨c, -, same⟩ := Option.bind_eq_some_iff.mp h
    cases same
    exact ⟨v, hd⟩

theorem rest_of_readCons {read : Value → Option δ} {vs : List Value} {row : δ × γ}
    (h : readCons read readRest vs = some row) : ∃ vs', readRest vs' = some row.2 := by
  cases vs with
  | nil => cases h
  | cons v vs =>
    obtain ⟨d, -, h⟩ := Option.bind_eq_some_iff.mp h
    obtain ⟨c, hc, same⟩ := Option.bind_eq_some_iff.mp h
    cases same
    exact ⟨vs, hc⟩

end Rows

/-- The attributes of an instance of a class, if they have these names in this order. -/
def attributesOf (cls : String) (names : List String) : Value → Option (List Value)
  | .obj c attributes =>
    if c = cls ∧ attributes.map Prod.fst = names then some (attributes.map Prod.snd) else none
  | _ => none

theorem eq_of_attributesOf {cls : String} {names : List String} {v : Value} {values : List Value}
    (h : attributesOf cls names v = some values) : v = .obj cls (names.zip values) := by
  cases v with
  | obj c attributes =>
    rw [attributesOf] at h
    split at h
    · next same =>
      cases h
      rw [same.1, ← List.zip_of_prod same.2 rfl]
    · cases h
  | _ => cases h

theorem attributesOf_eq {cls : String} {names : List String} {attributes : Fields}
    (same : attributes.map Prod.fst = names) :
    attributesOf cls names (.obj cls attributes) = some (attributes.map Prod.snd) := by
  rw [attributesOf, if_pos ⟨rfl, same⟩]

end Reading

end SthBoring.Lib.Dataclasses
