import TestScribe.TestClass.Naming

/-!
# What the names of classes are made of

A plain file name is a stem, a point and the extension, and the stem is made of letters,
digits and underscores with a letter in front (`exists_stem`). Camel case drops the
underscores and leaves one word of letters and digits:

> `camelCase_stem`: the camel case of a stem is a letter followed by letters and digits.

So nothing that means something in a path can get into the name of a class by way of the
name of a document.
-/

namespace TestScribe.TestClass

/-- A letter or a digit of the ASCII alphabet. -/
def isWordChar (c : Char) : Bool := isFileNameChar c && !isWordBreak c

/-! ## Stems -/

/-- A plain file name is its stem and its extension. -/
theorem exists_stem {extension name : Text} (h : isFileName extension name = true) :
    ∃ c cs, name = (c :: cs) ++ '.' :: extension ∧ stem extension name = c :: cs ∧
      Markup.isLetter c = true ∧ cs.all isFileNameChar = true := by
  cases name with
  | nil => cases h
  | cons c rest =>
    simp only [isFileName, Bool.and_eq_true, beq_iff_eq] at h
    obtain ⟨⟨hc, -⟩, hrest⟩ := h
    have hname : c :: rest = (c :: rest.takeWhile isFileNameChar) ++ '.' :: extension := by
      rw [← hrest, List.cons_append, List.takeWhile_append_dropWhile]
    refine ⟨c, rest.takeWhile isFileNameChar, hname, ?_, hc, List.all_takeWhile⟩
    rw [stem, hname, Text.beforeSuffix?_append]
    rfl

/-- A plain file name ends in the extension. -/
theorem suffix_of_isFileName {extension name : Text} (h : isFileName extension name = true) :
    '.' :: extension <:+ name := by
  obtain ⟨c, cs, hname, -⟩ := exists_stem h
  exact ⟨c :: cs, hname.symm⟩

/-! ## Capital letters -/

private theorem upperCase_ascii : ∀ n < 128, isWordChar (Char.ofNat n) = true →
    (upperCase (Char.ofNat n)).all isWordChar = true ∧
      (Markup.isLetter (Char.ofNat n) = true →
        (upperCase (Char.ofNat n)).head?.any Markup.isLetter = true) := by
  decide +kernel

/-- A character of a word is an ASCII character. -/
theorem toNat_lt_of_isWordChar {c : Char} (h : isWordChar c = true) : c.toNat < 128 := by
  have hle : ∀ a b : Char, a ≤ b → a.toNat ≤ b.toNat := fun a b hab => hab
  simp only [isWordChar, isFileNameChar, Markup.isLetter, Bool.and_eq_true, Bool.or_eq_true,
    decide_eq_true_eq] at h
  rcases h.1 with ((⟨-, h⟩ | ⟨-, h⟩) | ⟨-, h⟩) | h
  · exact Nat.lt_of_le_of_lt (hle _ _ h) (by decide)
  · exact Nat.lt_of_le_of_lt (hle _ _ h) (by decide)
  · exact Nat.lt_of_le_of_lt (hle _ _ h) (by decide)
  · rw [h]
    decide

theorem all_upperCase {c : Char} (h : isWordChar c = true) :
    (upperCase c).all isWordChar = true := by
  have h' := upperCase_ascii c.toNat (toNat_lt_of_isWordChar h)
  rw [Char.ofNat_toNat] at h'
  exact (h' h).1

/-- A letter stays a letter. -/
theorem upperCase_letter {c : Char} (h : isWordChar c = true) (hc : Markup.isLetter c = true) :
    ∃ d ds, upperCase c = d :: ds ∧ Markup.isLetter d = true := by
  have h' := upperCase_ascii c.toNat (toNat_lt_of_isWordChar h)
  rw [Char.ofNat_toNat] at h'
  have hhead := (h' h).2 hc
  cases hu : upperCase c with
  | nil => rw [hu] at hhead; cases hhead
  | cons d ds => rw [hu] at hhead; exact ⟨d, ds, rfl, hhead⟩

theorem all_capitalize {w : Text} (h : w.all isWordChar = true) :
    (Text.capitalize w).all isWordChar = true := by
  cases w with
  | nil => rfl
  | cons c cs =>
    rw [List.all_cons, Bool.and_eq_true] at h
    rw [Text.capitalize, List.all_append, all_upperCase h.1, h.2]
    rfl

/-! ## Words -/

theorem words_cons_of_not_break {c : Char} (hc : isWordBreak c = false) (cs : Text) :
    ∃ w ws, words cs = w :: ws ∧ words (c :: cs) = (c :: w) :: ws := by
  have hne : words cs ≠ [] := by
    cases cs with
    | nil => simp [words]
    | cons d ds =>
      unfold words
      split
      · simp
      · split <;> simp
  cases hw : words cs with
  | nil => exact absurd hw hne
  | cons w ws => exact ⟨w, ws, rfl, by simp [words, hc, hw]⟩

/-- The words of a stem are made of letters and digits. -/
theorem all_words {s : Text} (h : s.all isFileNameChar = true) :
    ∀ w ∈ words s, w.all isWordChar = true := by
  induction s with
  | nil =>
    intro w hw
    rw [words, List.mem_singleton] at hw
    rw [hw]
    rfl
  | cons c cs ih =>
    rw [List.all_cons, Bool.and_eq_true] at h
    by_cases hc : isWordBreak c = true
    · intro w hw
      rw [words, if_pos hc] at hw
      rcases List.mem_cons.mp hw with rfl | hw
      · rfl
      · exact ih h.2 w hw
    · have hc' : isWordBreak c = false := Bool.eq_false_iff.mpr hc
      -- The character joins the first word of the rest.
      obtain ⟨v, vs, hv, hcv⟩ := words_cons_of_not_break hc' cs
      intro w hw
      rw [hcv] at hw
      rcases List.mem_cons.mp hw with rfl | hw
      · have hv' := ih h.2 v (hv ▸ List.mem_cons_self)
        rw [List.all_cons, hv', isWordChar, h.1, hc']
        rfl
      · exact ih h.2 w (hv ▸ List.mem_cons_of_mem _ hw)

theorem all_camelCase {s : Text} (h : s.all isFileNameChar = true) :
    (camelCase s).all isWordChar = true := by
  rw [camelCase, List.all_flatMap, List.all_eq_true]
  intro w hw
  exact all_capitalize (all_words h w hw)

/-- The camel case of a word is its first letter in upper case and the rest. -/
theorem camelCase_cons_of_not_break {c : Char} (hc : isWordBreak c = false) (s : Text) :
    ∃ rest, camelCase (c :: s) = upperCase c ++ rest := by
  obtain ⟨w, ws, -, hcw⟩ := words_cons_of_not_break hc s
  refine ⟨w ++ ws.flatMap Text.capitalize, ?_⟩
  rw [camelCase, hcw, List.flatMap_cons, Text.capitalize, List.append_assoc]

theorem not_break_of_isLetter {c : Char} (h : Markup.isLetter c = true) :
    isWordBreak c = false := by
  rw [Bool.eq_false_iff]
  intro hb
  simp only [isWordBreak, Bool.or_eq_true, decide_eq_true_eq] at hb
  rcases hb with (rfl | rfl) | rfl <;> revert h <;> decide

theorem isWordChar_of_isLetter {c : Char} (h : Markup.isLetter c = true) :
    isWordChar c = true := by
  rw [isWordChar, isFileNameChar, h, not_break_of_isLetter h]
  rfl

/-- The camel case of a stem is a letter followed by letters and digits. -/
theorem camelCase_stem {c : Char} {cs : Text} (hc : Markup.isLetter c = true)
    (hcs : cs.all isFileNameChar = true) :
    ∃ d ds, camelCase (c :: cs) = d :: ds ∧ Markup.isLetter d = true ∧
      (d :: ds).all isWordChar = true := by
  have hw := isWordChar_of_isLetter hc
  have hall : (c :: cs).all isFileNameChar = true := by
    rw [List.all_cons, hcs, Bool.and_true]
    exact (Bool.and_eq_true_iff.mp hw).1
  obtain ⟨rest, hrest⟩ := camelCase_cons_of_not_break (not_break_of_isLetter hc) cs
  obtain ⟨d, ds, hd, hletter⟩ := upperCase_letter hw hc
  have hcamel : camelCase (c :: cs) = d :: (ds ++ rest) := by
    rw [hrest, hd, List.cons_append]
  exact ⟨d, ds ++ rest, hcamel, hletter, hcamel ▸ all_camelCase hall⟩

/-- The class of a plain file name begins with one word of letters and digits, the suffix
follows. -/
theorem className_of_isFileName {extension name : Text} (suffix : Text)
    (h : isFileName extension name = true) :
    ∃ d ds, camelCase (stem extension name) = d :: ds ∧ Markup.isLetter d = true ∧
      (d :: ds).all isWordChar = true ∧ className extension suffix name = d :: ds ++ suffix := by
  obtain ⟨c, cs, -, hstem, hc, hcs⟩ := exists_stem h
  obtain ⟨d, ds, hd, hletter, hall⟩ := camelCase_stem hc hcs
  refine ⟨d, ds, hstem ▸ hd, hletter, hall, ?_⟩
  rw [className, hstem, hd]

end TestScribe.TestClass
