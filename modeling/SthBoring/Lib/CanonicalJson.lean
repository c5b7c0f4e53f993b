/- Module: SthBoring/Lib/CanonicalJson
   source: json.dumps of the standard library, with sorted keys
   digest: JSON values up to the order of members, and the compact text that tells them apart. -/

import SthBoring.Lib.JsonValue
import SthBoring.Lib.PyJson

set_option autoImplicit false
set_option relaxedAutoImplicit false

namespace SthBoring.Lib.CanonicalJson

open SthBoring.Lib.OrderedDict (assocGet assocGet_of_mem assocGet_eq_none_iff)
open SthBoring.Lib.PyValue (Value Fields PyFloat joinWith backslash quotation)
open SthBoring.Lib.JsonValue
open SthBoring.Lib.PyJson

section Canonical

mutual

/-- A value with the members of every object in the order of their keys. -/
def canon : Value → Value
  | .list xs => .list (canonList xs)
  | .dict es => .dict (sortMembers (canonMembers es))
  | v => v

def canonList : List Value → List Value
  | [] => []
  | x :: xs => canon x :: canonList xs

def canonMembers : List (String × Value) → List (String × Value)
  | [] => []
  | (k, v) :: es => (k, canon v) :: canonMembers es

end

theorem canonList_eq (xs : List Value) : canonList xs = xs.map canon := by
  induction xs with
  | nil => rfl
  | cons x xs ih => rw [canonList, ih, List.map_cons]

theorem canonMembers_eq (es : Fields) : canonMembers es = es.map fun e => (e.1, canon e.2) := by
  induction es with
  | nil => rfl
  | cons e es ih =>
    obtain ⟨k, v⟩ := e
    rw [canonMembers, ih, List.map_cons]

theorem perm_sortMembers {α : Type} (members : List (String × α)) :
    (sortMembers members).Perm members := List.perm_insertionSort _ members

/-- Members are sorted by their keys alone. -/
theorem map_sortMembers {α β : Type} (f : α → β) (members : List (String × α)) :
    (sortMembers members).map (fun e => (e.1, f e.2)) =
      sortMembers (members.map fun e => (e.1, f e.2)) :=
  List.map_insertionSort _ _ _ members fun _ _ _ _ => Iff.rfl

theorem canon_list (xs : List Value) : canon (.list xs) = .list (xs.map canon) := by
  rw [canon, canonList_eq]

theorem canon_dict (es : Fields) :
    canon (.dict es) = .dict ((sortMembers es).map fun e => (e.1, canon e.2)) := by
  rw [canon, canonMembers_eq, map_sortMembers]

/-- The members of a canonical object, up to their order. -/
theorem perm_canonMembers (es : Fields) :
    ((sortMembers es).map fun e => (e.1, canon e.2)).Perm (es.map fun e => (e.1, canon e.2)) :=
  (perm_sortMembers es).map _

/-- The members of the canonical object. -/
def canonFields (es : Fields) : Fields := (sortMembers es).map fun e => (e.1, canon e.2)

variable {es : Fields}

theorem nodup_canonFields (json : IsJson (.dict es)) : ((canonFields es).map Prod.fst).Nodup := by
  have keys : ((canonFields es).map Prod.fst).Perm (es.map Prod.fst) := by
    rw [canonFields, List.map_map]
    exact (perm_sortMembers es).map Prod.fst
  exact keys.nodup_iff.mpr json.1

theorem get_canonFields (json : IsJson (.dict es)) (key : String) :
    Fields.get (canonFields es) key = (es.get key).map canon := by
  have nodup := nodup_canonFields json
  cases found : es.get key with
  | none =>
    refine (assocGet_eq_none_iff key _).mpr fun mem => ?_
    obtain ⟨e, he, same⟩ := List.mem_map.mp mem
    obtain ⟨e', he', rfl⟩ := List.mem_map.mp ((perm_canonMembers es).mem_iff.mp he)
    exact (assocGet_eq_none_iff key es).mp found (List.mem_map.mpr ⟨e', he', same⟩)
  | some v =>
    refine assocGet_of_mem nodup ((perm_canonMembers es).mem_iff.mpr ?_)
    exact List.mem_map.mpr ⟨(key, v), (get_eq_some_iff json).mp found, rfl⟩

mutual

theorem isJson_canon (v : Value) (json : IsJson v) : IsJson (canon v) := by
  cases v with
  | list xs =>
    rw [canon_list]
    exact allJson_iff.mpr fun y hy => by
      obtain ⟨x, hx, rfl⟩ := List.mem_map.mp hy
      exact allJson_canon xs json x hx
  | dict es =>
    rw [canon_dict]
    refine ⟨nodup_canonFields json, membersJson_iff.mpr fun e he => ?_⟩
    obtain ⟨e', he', rfl⟩ := List.mem_map.mp ((perm_canonMembers es).mem_iff.mp he)
    exact membersJson_canon es json.2 e' he'
  | _ => exact json

theorem allJson_canon (xs : List Value) (json : AllJson xs) : ∀ x ∈ xs, IsJson (canon x) := by
  cases xs with
  | nil => exact nofun
  | cons x xs =>
    exact List.forall_mem_cons.mpr ⟨isJson_canon x json.1, allJson_canon xs json.2⟩

theorem membersJson_canon (es : List (String × Value)) (json : MembersJson es) :
    ∀ e ∈ es, IsJson (canon e.2) := by
  cases es with
  | nil => exact nofun
  | cons e es =>
    obtain ⟨k, v⟩ := e
    exact List.forall_mem_cons.mpr ⟨isJson_canon v json.1, membersJson_canon es json.2⟩

end

end Canonical

section Equality

theorem pyEqList_map (xs ys : List Value)
    (each : ∀ x ∈ xs, ∀ w, Value.pyEq (canon x) w = Value.pyEq x w) :
    Value.pyEqList (xs.map canon) ys = Value.pyEqList xs ys := by
  induction xs generalizing ys with
  | nil => rfl
  | cons x xs ih =>
    cases ys with
    | nil => rfl
    | cons y ys =>
      rw [List.map_cons, Value.pyEqList, Value.pyEqList, each x List.mem_cons_self,
        ih ys fun z hz => each z (List.mem_cons_of_mem x hz)]

/-- One member, looked up in the other object. -/
def sameMember (fs : Fields) (e : String × Value) : Bool :=
  match assocGet e.1 fs with
  | some w => Value.pyEq e.2 w
  | none => false

theorem pyEqFields_eq_all (es fs : Fields) : Value.pyEqFields es fs = es.all (sameMember fs) := by
  induction es with
  | nil => rfl
  | cons e es ih =>
    obtain ⟨k, v⟩ := e
    rw [Value.pyEqFields, ih, List.all_cons]
    rfl

mutual

/-- Python's equality does not see the order of members. -/
theorem pyEq_canon (v : Value) (w : Value) : Value.pyEq (canon v) w = Value.pyEq v w := by
  cases v with
  | list xs =>
    rw [canon_list]
    cases w with
    | list ys =>
      rw [Value.pyEq, Value.pyEq]
      exact pyEqList_map xs ys (pyEq_canonList xs)
    | _ => rfl
  | dict es =>
    rw [canon_dict]
    cases w with
    | dict fs =>
      have length : ((sortMembers es).map fun e => (e.1, canon e.2)).length = es.length := by
        rw [List.length_map, (perm_sortMembers es).length_eq]
      have each : (es.map fun e => (e.1, canon e.2)).all (sameMember fs) =
          es.all (sameMember fs) := by
        rw [List.all_map]
        refine Bool.eq_iff_iff.mpr (List.all_eq_true.trans ((forall₂_congr fun e he => ?_).trans
          List.all_eq_true.symm))
        refine Bool.eq_iff_iff.mp ?_
        simp only [Function.comp_apply, sameMember]
        cases assocGet e.1 fs with
        | none => rfl
        | some w => exact pyEq_canonMembers es e he w
      rw [Value.pyEq, Value.pyEq, length, pyEqFields_eq_all, pyEqFields_eq_all,
        (perm_canonMembers es).all_eq, each]
    | _ => rfl
  | _ => rfl

theorem pyEq_canonList (xs : List Value) :
    ∀ x ∈ xs, ∀ w, Value.pyEq (canon x) w = Value.pyEq x w := by
  cases xs with
  | nil => exact nofun
  | cons x xs => exact List.forall_mem_cons.mpr ⟨pyEq_canon x, pyEq_canonList xs⟩

theorem pyEq_canonMembers (es : List (String × Value)) :
    ∀ e ∈ es, ∀ w, Value.pyEq (canon e.2) w = Value.pyEq e.2 w := by
  cases es with
  | nil => exact nofun
  | cons e es =>
    obtain ⟨k, v⟩ := e
    exact List.forall_mem_cons.mpr ⟨pyEq_canon v, pyEq_canonMembers es⟩

end

end Equality

end SthBoring.Lib.CanonicalJson
