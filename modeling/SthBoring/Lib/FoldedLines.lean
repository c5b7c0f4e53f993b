/- Module: SthBoring/Lib/FoldedLines
   source: none; texts that are written in lines of a bounded width
   digest: Folding a text at the width of a line, with an indent in front of what is carried over. -/

import Mathlib.Algebra.GroupWithZero.Nat
import Mathlib.Algebra.BigOperators.Group.List.Basic
import Mathlib.Data.List.Basic

set_option autoImplicit false
set_option relaxedAutoImplicit false

namespace SthBoring.Lib.FoldedLines

/-- The width of a line, what ends it, and what the next one begins with. Any character fits behind
the indent. -/
structure Folding (α : Type) where
  size : α → ℕ
  width : ℕ
  lineEnd : List α
  indent : α
  fits : ∀ a, size indent + size a ≤ width

variable {α : Type} (F : Folding α)

/-- What a line has room for behind the indent. -/
def Folding.inner : ℕ := F.width - F.size F.indent

def total (text : List α) : ℕ := (text.map F.size).sum

/-- The text, from a line with so much room. -/
def fold : ℕ → List α → List α
  | _, [] => []
  | room, a :: text =>
    if F.size a ≤ room then a :: fold (room - F.size a) text
    else F.lineEnd ++ F.indent :: a :: fold (F.inner - F.size a) text

/-- The room that is left behind the text. -/
def roomAfter : ℕ → List α → ℕ
  | room, [] => room
  | room, a :: text =>
    if F.size a ≤ room then roomAfter (room - F.size a) text
    else roomAfter (F.inner - F.size a) text

/-- The room from the place where a character comes to stand. -/
def roomFor (room : ℕ) (a : α) : ℕ := if F.size a ≤ room then room else F.inner

section Fold

variable {F} {room : ℕ} {a : α} {text : List α}

theorem size_le_inner (a : α) : F.size a ≤ F.inner := by
  have fits := F.fits a
  unfold Folding.inner
  omega

theorem fold_append (room : ℕ) (text more : List α) :
    fold F room (text ++ more) = fold F room text ++ fold F (roomAfter F room text) more := by
  induction text generalizing room with
  | nil => rfl
  | cons a text ih =>
    simp only [List.cons_append, fold, roomAfter]
    split
    · rw [ih, List.cons_append]
    · rw [ih, List.append_assoc, List.cons_append, List.cons_append]

theorem roomAfter_append (room : ℕ) (text more : List α) :
    roomAfter F room (text ++ more) = roomAfter F (roomAfter F room text) more := by
  induction text generalizing room with
  | nil => rfl
  | cons a text ih =>
    simp only [List.cons_append, roomAfter]
    split
    · exact ih _
    · exact ih _

/-- A text for which there is room is not broken. -/
theorem fold_of_fits (fits : total F text ≤ room) : fold F room text = text := by
  induction text generalizing room with
  | nil => rfl
  | cons a text ih =>
    rw [total, List.map_cons, List.sum_cons] at fits
    have rest : total F text ≤ room - F.size a := Nat.le_sub_of_add_le' fits
    rw [fold, if_pos (Nat.le_of_add_right_le fits), ih rest]

theorem roomAfter_of_fits (fits : total F text ≤ room) :
    roomAfter F room text = room - total F text := by
  induction text generalizing room with
  | nil => rfl
  | cons a text ih =>
    rw [total, List.map_cons, List.sum_cons] at fits ⊢
    have rest : total F text ≤ room - F.size a := Nat.le_sub_of_add_le' fits
    rw [roomAfter, if_pos (Nat.le_of_add_right_le fits), ih rest, Nat.sub_sub]
    rfl

/-- Any other text is broken behind a part of it that is not all. -/
theorem fold_of_not_fits (large : room < total F text) :
    ∃ front back rest, text = front ++ back ∧ back ≠ [] ∧
      fold F room text = front ++ (F.lineEnd ++ F.indent :: rest) := by
  induction text generalizing room with
  | nil => cases large
  | cons a text ih =>
    by_cases here : F.size a ≤ room
    · have more : room - F.size a < total F text := by
        rw [total, List.map_cons, List.sum_cons] at large
        unfold total
        omega
      obtain ⟨front, back, rest, rfl, nonempty, folded⟩ := ih more
      refine ⟨a :: front, back, rest, rfl, nonempty, ?_⟩
      rw [fold, if_pos here, folded, List.cons_append]
    · refine ⟨[], a :: text, a :: fold F (F.inner - F.size a) text, rfl, List.cons_ne_nil a text, ?_⟩
      rw [fold, if_neg here, List.nil_append]

/-- Where the first character does not fit, the text begins on the next line. -/
theorem fold_cons (room : ℕ) (a : α) (text : List α) :
    fold F room (a :: text) =
      (if F.size a ≤ room then [] else F.lineEnd ++ [F.indent]) ++
        fold F (roomFor F room a) (a :: text) := by
  by_cases here : F.size a ≤ room
  · rw [roomFor, if_pos here, if_pos here, List.nil_append]
  · rw [roomFor, if_neg here, if_neg here, fold, if_neg here, fold, if_pos (size_le_inner a),
      List.append_assoc, List.singleton_append]

theorem fold_roomFor (room : ℕ) (a : α) (text : List α) :
    fold F (roomFor F room a) (a :: text) =
      a :: fold F (roomFor F room a - F.size a) text := by
  have fits : F.size a ≤ roomFor F room a := by
    unfold roomFor
    split
    · assumption
    · exact size_le_inner a
  rw [fold, if_pos fits]

/-- The characters of a folded text are its own, and those of the line ends and indents. -/
theorem mem_fold {b : α} (mem : b ∈ fold F room text) :
    b ∈ text ∨ b ∈ F.lineEnd ∨ b = F.indent := by
  induction text generalizing room with
  | nil => cases mem
  | cons a text ih =>
    rw [fold] at mem
    split at mem
    · obtain rfl | later := List.mem_cons.mp mem
      · exact .inl List.mem_cons_self
      · exact (ih later).imp (List.mem_cons_of_mem a) id
    · rw [List.mem_append, List.mem_cons, List.mem_cons] at mem
      obtain ended | rfl | rfl | later := mem
      · exact .inr (.inl ended)
      · exact .inr (.inr rfl)
      · exact .inl List.mem_cons_self
      · exact (ih later).imp (List.mem_cons_of_mem a) id

end Fold

end SthBoring.Lib.FoldedLines
