import TestScribe.Proofs.Table.Spots

/-!
# A table line by line

Where no carriage return occurs, two things can happen at the start of a line. If the line is blank
and blank lines are passed over, the reading goes on behind it (`linesFrom_of_blank`). Otherwise its
cells are read, and the reading goes on behind them (`linesFrom_of_fields`). In both cases what
follows is an end of the text, so there is an induction along the lines as they are read:

> `lines_induction`: what holds at the end of a text, in front of a blank line if it holds behind it,
> and in front of any other line if it holds behind its cells, holds of every text.
-/

namespace TestScribe.Table

variable {p : Spot} {c : Char} {s : Text}

/-! ## Blank lines -/

theorem afterBlankLine?_padding (hc : isPadding c = true) (s : Text) :
    afterBlankLine? (c :: s) = afterBlankLine? s := by
  rw [afterBlankLine?, afterBlankLine?, List.dropWhile_cons_of_pos hc]

theorem afterBlankLine?_newline (s : Text) : afterBlankLine? ('\n' :: s) = some s := rfl

theorem afterLineEnd?_other (hnewline : c ≠ '\n') (hreturn : c ≠ '\r') (s : Text) :
    afterLineEnd? (c :: s) = none := by
  unfold afterLineEnd?
  split <;> simp_all

theorem afterBlankLine?_other (hc : isPadding c = false) (hnewline : c ≠ '\n') (hreturn : c ≠ '\r')
    (s : Text) : afterBlankLine? (c :: s) = none := by
  rw [afterBlankLine?, List.dropWhile_cons_of_neg (by rw [hc]; exact Bool.false_ne_true)]
  exact afterLineEnd?_other hnewline hreturn s

theorem newline_ne_of_isPadding (hc : isPadding c = true) : c ≠ '\n' := by
  rintro rfl
  cases hc

/-- A blank line goes on with padding, or it ends. -/
theorem afterBlankLine?_cons_cases {r : Text} (hreturn : c ≠ '\r')
    (h : afterBlankLine? (c :: s) = some r) :
    isPadding c = true ∧ afterBlankLine? s = some r ∨ c = '\n' ∧ r = s := by
  by_cases hc : isPadding c = true
  · rw [afterBlankLine?_padding hc] at h
    exact .inl ⟨hc, h⟩
  · by_cases hnewline : c = '\n'
    · rw [hnewline, afterBlankLine?_newline] at h
      exact .inr ⟨hnewline, (Option.some.inj h).symm⟩
    · rw [afterBlankLine?_other (Bool.eq_false_iff.mpr hc) hnewline hreturn] at h
      cases h

theorem afterBlankLine?_suffix {r : Text} (hs : '\r' ∉ s) (h : afterBlankLine? s = some r) :
    r <:+ s := by
  induction s with
  | nil =>
    cases h
    exact List.suffix_rfl
  | cons c s ih =>
    rw [List.mem_cons, not_or] at hs
    rcases afterBlankLine?_cons_cases (Ne.symm hs.1) h with ⟨-, h⟩ | ⟨-, rfl⟩
    · exact (ih hs.2 h).trans (List.suffix_cons c s)
    · exact List.suffix_cons c r

/-- No blank line comes back. -/
theorem passedOver_nil (hs : '\r' ∉ s) : passedOver [] s = [] := by
  have hrest : '\r' ∉ s.dropWhile isPadding := fun hmem => hs ((List.dropWhile_sublist _).mem hmem)
  unfold passedOver
  split
  · rfl
  · rename_i r _ hr
    exact absurd (hr ▸ List.mem_cons_self) hrest
  · rfl

theorem linesFrom_of_blank {number : Nat} {r : Text} (hs : '\r' ∉ c :: s)
    (h : afterBlankLine? (c :: s) = some r) :
    linesFrom true number [] (c :: s) = linesFrom true (number + 1) [] r := by
  rw [linesFrom]
  split
  · rename_i hblank
    rw [if_pos rfl, h] at hblank
    obtain rfl := Option.some.inj hblank
    rw [passedOver_nil hs]
  · rename_i hblank
    rw [if_pos rfl, h] at hblank
    cases hblank

/-! ## Lines with cells -/

/-- The line with these cells, and the lines after it. -/
def lineThen (skip : Bool) (number : Nat) : Option (List Text × Option Text) →
    List Line × Option Nat
  | none => ([], some number)
  | some (fs, none) => ([⟨number, fs⟩], none)
  | some (fs, some r) =>
    (⟨number, fs⟩ :: (linesFrom skip (number + 1) [] r).1, (linesFrom skip (number + 1) [] r).2)

theorem backBefore_nil (number : Nat) (c : Char) : backBefore number [] c = ([], number) := by
  rw [backBefore]
  split <;> rfl

theorem linesFrom_of_fields {skip : Bool} {number : Nat}
    (hblank : skip = true → afterBlankLine? (c :: s) = none) (hnewline : c ≠ '\n')
    (hreturn : c ≠ '\r') :
    linesFrom skip number [] (c :: s) = lineThen skip number (fieldsFrom .lineStart (c :: s)) := by
  have hskip : (if skip = true then afterBlankLine? (c :: s) else none) = none := by
    split
    · rename_i hs
      exact hblank hs
    · rfl
  rw [linesFrom, ← fields?_eq]
  split
  · rename_i r hr
    rw [hskip] at hr
    cases hr
  · split
    · rename_i r hr
      rw [afterLineEnd?_other hnewline hreturn] at hr
      cases hr
    · rw [backBefore_nil]
      dsimp only
      split <;> simp_all [lineThen]

/-- What follows a line is an end of the text. -/
theorem fieldsFrom_suffix {fs : List Text} {r : Text} (hs : '\r' ∉ s)
    (h : fieldsFrom p s = some (fs, some r)) : r <:+ s := by
  induction s generalizing p fs with
  | nil =>
    by_cases hp : p = .quoted
    · rw [hp] at h
      cases h
    · rw [fieldsFrom_nil hp] at h
      cases h
  | cons c s ih =>
    rw [List.mem_cons, not_or] at hs
    rcases fieldsFrom_cons_cases (Ne.symm hs.1) h with ⟨-, hr⟩ | ⟨-, gs, hgs, -⟩
    · rw [Option.some.inj hr]
      exact List.suffix_cons c s
    · exact (ih hs.2 hgs).trans (List.suffix_cons c s)

/-! ## All lines -/

/-- Induction along the lines as they are read: a line is passed over, or its cells are read. -/
theorem lines_induction {motive : (s : Text) → '\r' ∉ s → Prop} (nil : motive [] List.not_mem_nil)
    (blank : ∀ {c s r} (hs : '\r' ∉ c :: s) (hr : '\r' ∉ r),
      afterBlankLine? (c :: s) = some r → motive r hr → motive (c :: s) hs)
    (line : ∀ {c s} (hs : '\r' ∉ c :: s), c ≠ '\n' → c ≠ '\r' → afterBlankLine? (c :: s) = none →
      (∀ fs r, fieldsFrom .lineStart (c :: s) = some (fs, some r) → ∃ hr, motive r hr) →
      motive (c :: s) hs)
    (s : Text) (hs : '\r' ∉ s) : motive s hs := by
  induction hlength : s.length using Nat.strongRecOn generalizing s with
  | ind k ih =>
    subst hlength
    cases s with
    | nil => exact nil
    | cons c s =>
      cases hblank : afterBlankLine? (c :: s) with
      | some r =>
        have hr : '\r' ∉ r := fun hmem => hs ((afterBlankLine?_suffix hs hblank).mem hmem)
        exact blank hs hr hblank (ih r.length (afterBlankLine?_length_lt hblank) r hr rfl)
      | none =>
        have hnewline : c ≠ '\n' := by
          rintro rfl
          cases hblank
        refine line hs hnewline (fun h => hs (h ▸ List.mem_cons_self)) hblank fun fs r hfields => ?_
        have hr : '\r' ∉ r := fun hmem => hs ((fieldsFrom_suffix hs hfields).mem hmem)
        exact ⟨hr, ih r.length (fields?_length_lt ((fields?_eq _).trans hfields)) r hr rfl⟩

/-- A line that is read where blank lines are passed over has cells. -/
theorem fields_ne_nil (hs : '\r' ∉ s) :
    ∀ number, ∀ l ∈ (linesFrom true number [] s).1, l.fields ≠ [] := by
  induction s, hs using lines_induction with
  | nil =>
    intro number
    rw [linesFrom]
    exact List.forall_mem_nil _
  | blank hs hr hblank ih =>
    intro number
    rw [linesFrom_of_blank hs hblank]
    exact ih (number + 1)
  | line hs hnewline hreturn hblank ih =>
    intro number
    rw [linesFrom_of_fields (fun _ => hblank) hnewline hreturn]
    cases hfields : fieldsFrom .lineStart _ with
    | none => exact List.forall_mem_nil _
    | some fs =>
      have hne := fieldsFrom_ne_nil hfields
      obtain ⟨fs, _ | r⟩ := fs
      · exact List.forall_mem_singleton.mpr hne
      · obtain ⟨-, hrest⟩ := ih fs r hfields
        exact List.forall_mem_cons.mpr ⟨hne, hrest (number + 1)⟩

end TestScribe.Table
