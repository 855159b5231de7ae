import TestScribe.Text.Basic

/-!
# Pieces between separators

Cutting a text at a separator and joining pieces with it undo each other. Joining what was cut
always gives the text back; the other way round the pieces must not hold the separator
themselves, and there must be one, since a text without a separator is one piece
(`splitAt_joinWith`). What stands before the first separator only makes the first piece longer
(`splitAt_append`), which is how a text is cut from the left.
-/

namespace TestScribe.Text

/-- What stands before the first separator goes into the first piece. -/
theorem splitAt_append {sep : Char} {x : Text} (hx : sep ∉ x) (r : Text) :
    ∃ piece pieces, splitAt sep r = piece :: pieces ∧
      splitAt sep (x ++ r) = (x ++ piece) :: pieces := by
  induction x with
  | nil =>
    cases h : splitAt sep r with
    | nil => exact absurd h (splitAt_ne_nil sep r)
    | cons piece pieces => exact ⟨piece, pieces, rfl, h⟩
  | cons c x ih =>
    obtain ⟨piece, pieces, hr, hxr⟩ := ih fun h => hx (List.mem_cons_of_mem _ h)
    have hc : c ≠ sep := fun h => hx (h ▸ List.mem_cons_self)
    refine ⟨piece, pieces, hr, ?_⟩
    rw [List.cons_append, splitAt, if_neg hc, hxr]
    rfl

/-- The pieces hold no character that the text does not hold. -/
theorem mem_of_mem_splitAt {sep : Char} {s : Text} :
    ∀ piece ∈ splitAt sep s, ∀ c ∈ piece, c ∈ s := by
  induction s with
  | nil =>
    intro piece hp c hc
    rw [splitAt, List.mem_singleton] at hp
    rw [hp] at hc
    cases hc
  | cons d s ih =>
    intro piece hp c hc
    by_cases hd : d = sep
    · rw [splitAt, if_pos hd] at hp
      rcases List.mem_cons.mp hp with rfl | hp
      · cases hc
      · exact List.mem_cons_of_mem _ (ih piece hp c hc)
    · rw [splitAt, if_neg hd] at hp
      cases hs : splitAt sep s with
      | nil => exact absurd hs (splitAt_ne_nil sep s)
      | cons q qs =>
        rw [hs] at hp ih
        -- Only the first piece has become longer, by the character itself.
        rcases List.mem_cons.mp hp with rfl | hp
        · rcases List.mem_cons.mp hc with rfl | hc
          · exact List.mem_cons_self
          · exact List.mem_cons_of_mem _ (ih q List.mem_cons_self c hc)
        · exact List.mem_cons_of_mem _ (ih piece (List.mem_cons_of_mem _ hp) c hc)

/-- A piece up to a separator is the first piece. -/
theorem splitAt_append_cons {sep : Char} {x : Text} (hx : sep ∉ x) (r : Text) :
    splitAt sep (x ++ sep :: r) = x :: splitAt sep r := by
  obtain ⟨piece, pieces, hr, hxr⟩ := splitAt_append hx (sep :: r)
  rw [splitAt, if_pos rfl] at hr
  obtain ⟨rfl, rfl⟩ := List.cons.inj hr
  rw [hxr, List.append_nil]

/-- Pieces without a separator in them are what their join is cut into. -/
theorem splitAt_joinWith {sep : Char} {ts : List Text} (hne : ts ≠ [])
    (h : ∀ t ∈ ts, sep ∉ t) : splitAt sep (joinWith [sep] ts) = ts := by
  induction ts with
  | nil => exact absurd rfl hne
  | cons t ts ih =>
    obtain ⟨ht, hts⟩ := List.forall_mem_cons.mp h
    cases ts with
    | nil => exact splitAt_of_not_mem ht
    | cons u us =>
      have hjoin : joinWith [sep] (t :: u :: us) = t ++ sep :: joinWith [sep] (u :: us) := by
        rw [joinWith, List.append_assoc]
        · rfl
        · exact List.cons_ne_nil u us
      rw [hjoin, splitAt_append_cons ht, ih (List.cons_ne_nil u us) hts]

end TestScribe.Text
