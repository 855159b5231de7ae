import Mathlib.Data.Char
import Mathlib.Data.List.Lex
import Mathlib.Order.Lattice
import TestScribe.Text.Basic

/-!
# The order of texts

Texts are compared by the code points of their characters, and lists of texts text by text.
Both comparisons are the lexicographic order on lists (`le_iff`, `listLe_iff`), so they are
transitive and total, and sorting by them gives what it should.
-/

namespace TestScribe.Text

section
variable {α : Type} [LinearOrder α] {a b : α} {l m : List α}

/-- Lists that begin alike are compared by what follows. -/
theorem cons_le_cons_self_iff : a :: l ≤ a :: m ↔ l ≤ m := by
  rw [← not_lt, ← not_lt, List.cons_lt_cons_iff]
  simp

/-- Lists that begin differently are compared by their beginnings. -/
theorem cons_le_cons_iff_of_ne (h : a ≠ b) : a :: l ≤ b :: m ↔ a ≤ b := by
  rw [← not_lt, List.cons_lt_cons_iff, or_iff_left fun hand => h hand.1.symm, not_lt]

theorem singleton_le_singleton_iff : [a] ≤ [b] ↔ a ≤ b := by
  rw [← not_lt, List.cons_lt_cons_iff, or_iff_left fun hand => List.not_lt_nil _ hand.2, not_lt]

theorem append_le_append_iff (k : List α) : k ++ l ≤ k ++ m ↔ l ≤ m := by
  induction k with
  | nil => exact Iff.rfl
  | cons c k ih => rw [List.cons_append, List.cons_append, cons_le_cons_self_iff, ih]

end

theorem le_iff (s t : Text) : le s t = true ↔ s ≤ t := by
  induction s generalizing t with
  | nil => exact iff_of_true rfl (not_lt.mp (List.not_lt_nil _))
  | cons c cs ih =>
    cases t with
    | nil => exact iff_of_false Bool.false_ne_true (not_le.mpr (List.nil_lt_cons _ _))
    | cons d ds =>
      rw [le]
      by_cases h : c = d
      · rw [if_pos h, ih, h, cons_le_cons_self_iff]
      · rw [if_neg h, decide_eq_true_iff, cons_le_cons_iff_of_ne h, lt_iff_le_and_ne,
          and_iff_left h]

theorem listLe_iff (ss ts : List Text) : listLe ss ts = true ↔ ss ≤ ts := by
  induction ss generalizing ts with
  | nil => exact iff_of_true rfl (not_lt.mp (List.not_lt_nil _))
  | cons s ss ih =>
    cases ts with
    | nil => exact iff_of_false Bool.false_ne_true (not_le.mpr (List.nil_lt_cons _ _))
    | cons t ts =>
      rw [listLe]
      by_cases h : s = t
      · rw [if_pos h, ih, h, cons_le_cons_self_iff]
      · rw [if_neg h, le_iff, cons_le_cons_iff_of_ne h]

end TestScribe.Text
