import TestScribe.Proofs.Recording.Recorded

/-!
# The ASCII form read back

The ASCII form is made character by character, so it goes with texts that are put together, and
ASCII is left alone, so making it again changes nothing. What was written can be read back in one
scan from left to right (`characters`): a reference is an ampersand, a number sign, digits and a
semicolon. The semicolon ends the digits, whatever follows it, and the scan goes on behind it; so
digits, semicolons and references next to a reference are none of its business.

Two things are not in the form. A byte order mark is dropped, and an ampersand that stood in the
text already cannot be told from that of a reference. Without the ampersand nothing but the marks
is lost:

> `characters_asciiForm`: reading the form back gives the text without its byte order marks.
-/

namespace TestScribe.Recording

open Markup Reference

/-! ## The scan -/

/-- The reference by number that follows an ampersand: its character, and what stands behind the
semicolon. A number that no character has makes no reference. -/
def numberedReference? : Text → Option (Char × Text)
  | '#' :: s =>
    let digits := s.takeWhile isDecimal
    match s.dropWhile isDecimal with
    | ';' :: rest =>
      if digits ≠ [] ∧ (value 10 digits).isValidChar then
        some (Char.ofNat (value 10 digits), rest)
      else none
    | _ => none
  | _ => none

theorem numberedReference?_length_lt {s rest : Text} {c : Char}
    (h : numberedReference? s = some (c, rest)) : rest.length < s.length := by
  unfold numberedReference? at h
  split at h
  · rename_i t
    have hdrop := Text.length_dropWhile_le isDecimal t
    dsimp only at h
    split at h
    · rename_i u hu
      split at h
      · cases h
        rw [hu, List.length_cons] at hdrop
        rw [List.length_cons]
        omega
      · cases h
    · cases h
  · cases h

/-- The text with the character in the place of every reference by number, from left to right. -/
def characters (s : Text) : Text :=
  match s with
  | [] => []
  | c :: cs =>
    match _h : if c = '&' then numberedReference? cs else none with
    | some (d, rest) => d :: characters rest
    | none => c :: characters cs
termination_by s.length
decreasing_by
  · split at _h
    · exact Nat.lt_succ_of_lt (numberedReference?_length_lt _h)
    · cases _h
  · exact Nat.lt_succ_self _

theorem characters_of_ne {c : Char} (hc : c ≠ '&') (s : Text) :
    characters (c :: s) = c :: characters s := by
  rw [characters]
  split
  · rename_i h
    rw [if_neg hc] at h
    cases h
  · rfl

theorem characters_of_reference {s rest : Text} {c : Char}
    (h : numberedReference? s = some (c, rest)) :
    characters ('&' :: s) = c :: characters rest := by
  rw [characters]
  split
  · rename_i d r hd
    rw [if_pos rfl, h] at hd
    cases hd
    rfl
  · rename_i hd
    rw [if_pos rfl, h] at hd
    cases hd

/-! ## The form -/

/-- A reference that was written is found, whatever stands behind it. -/
theorem numberedReference?_ofNat (c : Char) (rest : Text) :
    numberedReference? ('#' :: (Text.ofNat c.toNat ++ ';' :: rest)) = some (c, rest) := by
  have hvalid : c.toNat.isValidChar := c.valid
  rw [numberedReference?, takeWhile_ofNat, dropWhile_ofNat, value_ofNat, Char.ofNat_toNat]
  exact if_pos ⟨ofNat_ne_nil _, hvalid⟩

/-- What is read back from the form of one character. -/
theorem characters_asciiChar {c : Char} (hc : c ≠ '&') (rest : Text) :
    characters (asciiChar c ++ rest) =
      if c = '\uFEFF' then characters rest else c :: characters rest := by
  unfold asciiChar
  by_cases hmark : c = '\uFEFF'
  · rw [if_pos hmark, if_pos hmark, List.nil_append]
  · rw [if_neg hmark, if_neg hmark]
    by_cases hsmall : c.toNat < 0x80
    · rw [if_pos hsmall, List.singleton_append, characters_of_ne hc]
    · have hwritten : decimal c ++ rest = '&' :: '#' :: (Text.ofNat c.toNat ++ ';' :: rest) := by
        simp [decimal]
      rw [if_neg hsmall, hwritten, characters_of_reference (numberedReference?_ofNat c rest)]

/-- Reading the form back gives the text without its byte order marks. -/
theorem characters_asciiForm {s : Text} (h : '&' ∉ s) :
    characters (asciiForm s) = s.filter (· ≠ '\uFEFF') := by
  induction s with
  | nil =>
    rw [asciiForm, List.flatMap_nil, characters]
    rfl
  | cons c s ih =>
    have hc : c ≠ '&' := fun hc => h (hc ▸ List.mem_cons_self)
    rw [asciiForm, List.flatMap_cons, characters_asciiChar hc, ← asciiForm,
      ih fun hs => h (List.mem_cons_of_mem _ hs)]
    by_cases hmark : c = '\uFEFF'
    · rw [if_pos hmark, List.filter_cons_of_neg (by simpa using hmark)]
    · rw [if_neg hmark, List.filter_cons_of_pos (by simpa using hmark)]

theorem isAscii_of_mem_asciiForm {s : Text} {d : Char} (h : d ∈ asciiForm s) :
    isAscii d = true := by
  obtain ⟨c, -, hd⟩ := List.mem_flatMap.mp h
  unfold asciiChar at hd
  split at hd
  · cases hd
  · split at hd
    · rename_i hsmall
      rw [List.mem_singleton.mp hd]
      exact decide_eq_true hsmall
    · rcases mem_decimal hd with rfl | rfl | rfl | hdigit
      · rfl
      · rfl
      · rfl
      · have hlast : d.toNat ≤ '9'.toNat := by
          rw [isDecimal, Bool.and_eq_true, decide_eq_true_eq, decide_eq_true_eq] at hdigit
          exact hdigit.2
        exact decide_eq_true (Nat.lt_of_le_of_lt hlast (by decide))

/-- The ASCII form has nothing but ASCII in it, the form of a text is that of its parts put
together, and the form of the form is the form itself. Where a text has neither ampersands nor byte
order marks, it is read back from its form; so no other such text has the same one. -/
theorem asciiForm_faithful (s t : Text) :
    (∀ c ∈ asciiForm s, c.toNat < 0x80) ∧
      asciiForm (s ++ t) = asciiForm s ++ asciiForm t ∧
      asciiForm (asciiForm s) = asciiForm s ∧
      ('&' ∉ s → '\uFEFF' ∉ s → characters (asciiForm s) = s ∧
        ('&' ∉ t → '\uFEFF' ∉ t → asciiForm s = asciiForm t → s = t)) := by
  have hback : ∀ {s : Text}, '&' ∉ s → '\uFEFF' ∉ s → characters (asciiForm s) = s := by
    intro s hand hmark
    rw [characters_asciiForm hand, List.filter_eq_self]
    intro c hc
    exact decide_eq_true fun he => hmark (he ▸ hc)
  have hascii : ∀ c ∈ asciiForm s, isAscii c = true := fun c => isAscii_of_mem_asciiForm
  refine ⟨fun c hc => of_decide_eq_true (hascii c hc), asciiForm_append s t,
    asciiForm_of_isAscii (List.all_eq_true.mpr hascii), fun hand hmark => ⟨hback hand hmark, ?_⟩⟩
  intro hand' hmark' hforms
  rw [← hback hand hmark, hforms, hback hand' hmark']

/-- Characters beyond ASCII beside digits, semicolons, number signs and one another. -/
def neighbouringText : Text := "#233é1;;üß#8364;€".toList

/-- The text is read back from its form. -/
theorem asciiForm_faithful_neighbours :
    '&' ∉ neighbouringText ∧ '\uFEFF' ∉ neighbouringText ∧
      asciiForm neighbouringText = "#233&#233;1;;&#252;&#223;#8364;&#8364;".toList ∧
      characters (asciiForm neighbouringText) = neighbouringText := by
  have hand : '&' ∉ neighbouringText := by decide
  have hmark : '\uFEFF' ∉ neighbouringText := by decide
  have hform : asciiForm neighbouringText =
      "#233&#233;1;;&#252;&#223;#8364;&#8364;".toList := by decide +kernel
  exact ⟨hand, hmark, hform, ((asciiForm_faithful neighbouringText []).2.2.2 hand hmark).1⟩

end TestScribe.Recording
