import TestScribe.Proofs.Text.Capitals
import TestScribe.Proofs.TestClass.Naming

/-!
# Camel case and word breaks

The words of a name are what stands between its word breaks, so a word break in a name cuts its
words into those before and those behind (`words_append_break`), and the camel case of the whole is
that of the two parts put together. A word break that has another beside it only adds an empty
word, and which of the three it is makes no difference.

Letter by letter, camel case drops a word break, puts a letter behind a word break in its capital
form and keeps every other letter (`camelCase_eq_letterwise`). No capital form has a word break in
it, and every capital form is done:

> `camelCase_camelCase`: the camel case of a name in camel case is the name.
-/

namespace TestScribe.TestClass

/-! ## Words -/

/-- The name with a blank for every word break. -/
def blanked (s : Text) : Text := s.map fun c => if isWordBreak c then ' ' else c

/-- The words are the pieces between blanks, once every word break is a blank. -/
theorem words_eq_splitOn (s : Text) : words s = (blanked s).splitOn ' ' := by
  induction s with
  | nil => rw [blanked, List.map_nil, List.splitOn_nil, words]
  | cons c cs ih =>
    have hblanked : blanked (c :: cs) = (if isWordBreak c then ' ' else c) :: blanked cs := rfl
    rw [List.splitOn] at ih ⊢
    rw [hblanked, List.splitOnP_cons_eq_if_modifyHead, ← ih]
    by_cases hc : isWordBreak c = true
    · rw [words, if_pos hc, if_pos hc]
      rfl
    · have hne : c ≠ ' ' := by
        rintro rfl
        exact hc rfl
      obtain ⟨w, ws, hw, hcw⟩ := words_cons_of_not_break (Bool.eq_false_iff.mpr hc) cs
      rw [if_neg hc, if_neg (by simpa using hne), hw, hcw]
      rfl

/-- A word break stands between the words before it and the words behind it. -/
theorem words_append_break {c : Char} (hc : isWordBreak c = true) (a b : Text) :
    words (a ++ c :: b) = words a ++ words b := by
  have hblanked : blanked (a ++ c :: b) = blanked a ++ ' ' :: blanked b := by
    rw [blanked, List.map_append, List.map_cons, if_pos hc]
    rfl
  rw [words_eq_splitOn, words_eq_splitOn a, words_eq_splitOn b, hblanked]
  exact List.splitOnP_append_cons _ _ rfl

/-- A name without word breaks is one word. -/
theorem words_of_no_break {s : Text} (h : ∀ c ∈ s, isWordBreak c = false) : words s = [s] := by
  induction s with
  | nil => rfl
  | cons c cs ih =>
    obtain ⟨hc, hcs⟩ := List.forall_mem_cons.mp h
    obtain ⟨w, ws, hw, hcw⟩ := words_cons_of_not_break hc cs
    rw [ih hcs] at hw
    cases hw
    exact hcw

/-! ## Camel case -/

/-- The camel case of two names with a word break between them. -/
theorem camelCase_append_break {c : Char} (hc : isWordBreak c = true) (a b : Text) :
    camelCase (a ++ c :: b) = camelCase a ++ camelCase b := by
  rw [camelCase, words_append_break hc, List.flatMap_append]
  rfl

/-- A word break in front is passed over. -/
theorem camelCase_cons_break {c : Char} (hc : isWordBreak c = true) (s : Text) :
    camelCase (c :: s) = camelCase s :=
  camelCase_append_break hc [] s

/-- Camel case begins with a capital form. -/
theorem capitalize_camelCase (s : Text) : Text.capitalize (camelCase s) = camelCase s := by
  induction s with
  | nil => rfl
  | cons c s ih =>
    by_cases hc : isWordBreak c = true
    · rw [camelCase_cons_break hc, ih]
    · obtain ⟨rest, hrest⟩ := camelCase_cons_of_not_break (Bool.eq_false_iff.mpr hc) s
      rw [hrest, Text.capitalize_upperCase]

/-! ## Letter by letter -/

/-- What becomes of a character that stands behind another. -/
def inPlace (before c : Char) : Text :=
  if isWordBreak c then [] else if isWordBreak before then upperCase c else [c]

/-- The name with every character as it becomes behind the one before it, the first one behind
`before`. -/
def letterwise (before : Char) (s : Text) : Text := (List.zipWith inPlace (before :: s) s).flatten

theorem letterwise_cons (before c : Char) (s : Text) :
    letterwise before (c :: s) = inPlace before c ++ letterwise c s := rfl

/-- Behind a word break the first word begins with its capital, behind a letter it goes on. -/
theorem letterwise_eq (s : Text) : ∃ w ws, words s = w :: ws ∧ ∀ before, letterwise before s =
    (if isWordBreak before then Text.capitalize w else w) ++ ws.flatMap Text.capitalize := by
  induction s with
  | nil => exact ⟨[], [], rfl, fun before => by split <;> rfl⟩
  | cons c s ih =>
    obtain ⟨w, ws, hw, hrest⟩ := ih
    by_cases hc : isWordBreak c = true
    · refine ⟨[], w :: ws, by rw [words, if_pos hc, hw], fun before => ?_⟩
      rw [letterwise_cons, inPlace, if_pos hc, hrest, if_pos hc, List.flatMap_cons]
      split <;> rfl
    · obtain ⟨w', ws', hw', hcw⟩ := words_cons_of_not_break (Bool.eq_false_iff.mpr hc) s
      cases hw.symm.trans hw'
      refine ⟨c :: w, ws, hcw, fun before => ?_⟩
      rw [letterwise_cons, inPlace, if_neg hc, hrest, if_neg hc]
      split
      · rw [Text.capitalize, List.append_assoc]
      · rfl

/-- Camel case takes a name letter by letter, with a word break in front. -/
theorem camelCase_eq_letterwise (s : Text) : camelCase s = letterwise ' ' s := by
  obtain ⟨w, ws, hw, hrest⟩ := letterwise_eq s
  rw [camelCase, hw, hrest]
  rfl

/-- Of the character in front only matters whether it is a word break. -/
theorem letterwise_congr {before before' : Char} (h : isWordBreak before = isWordBreak before')
    (s : Text) : letterwise before s = letterwise before' s := by
  obtain ⟨w, ws, -, hrest⟩ := letterwise_eq s
  rw [hrest, hrest, h]

/-- Word breaks and nothing else, one at least. -/
def isGap (g : Text) : Bool := !g.isEmpty && g.all isWordBreak

/-- A gap in front leaves nothing, but what follows stands behind a word break. -/
theorem letterwise_gap {g : Text} (hg : isGap g = true) (before : Char) (s : Text) :
    letterwise before (g ++ s) = letterwise ' ' s := by
  rw [isGap, Bool.and_eq_true] at hg
  obtain ⟨hne, hbreaks⟩ := hg
  induction g generalizing before with
  | nil => cases hne
  | cons c g ih =>
    rw [List.all_cons, Bool.and_eq_true] at hbreaks
    rw [List.cons_append, letterwise_cons, inPlace, if_pos hbreaks.1, List.nil_append]
    cases g with
    | nil => exact letterwise_congr hbreaks.1 s
    | cons d g => exact ih c rfl hbreaks.2

/-- The second name is the first one with other gaps in the place of its gaps. -/
inductive Respaced : Text → Text → Prop
  | nil : Respaced [] []
  | letter {c : Char} {s t : Text} (hc : isWordBreak c = false) (rest : Respaced s t) :
    Respaced (c :: s) (c :: t)
  | gap (g g' : Text) {s t : Text} (hg : isGap g = true) (hg' : isGap g' = true)
    (rest : Respaced s t) : Respaced (g ++ s) (g' ++ t)

theorem Respaced.letterwise_eq {s t : Text} (h : Respaced s t) {before before' : Char}
    (hbefore : isWordBreak before = isWordBreak before') :
    letterwise before s = letterwise before' t := by
  induction h generalizing before before' with
  | nil => rfl
  | letter hc _ ih => rw [letterwise_cons, letterwise_cons, inPlace, inPlace, hbefore, ih rfl]
  | gap _ _ hg hg' _ ih => rw [letterwise_gap hg, letterwise_gap hg', ih rfl]

/-! ## Camel case of camel case -/

/-- The tables have no word break in any capital form. -/
theorem isWordBreak_of_mem_capitalCodes {c : Char} (h : c.toNat ∈ capitalCodes) :
    isWordBreak c = false := by
  have hdisjoint : ∀ n ∈ capitalCodes, n ∉ ['_', '-', ' '].map Char.toNat := fun n =>
    not_mem_of_bitsOf (by decide +kernel)
  rw [Bool.eq_false_iff]
  intro hc
  refine hdisjoint c.toNat h (List.mem_map_of_mem ?_)
  simpa [isWordBreak, or_assoc] using hc

theorem isWordBreak_of_mem_inPlace {before c d : Char} (h : d ∈ inPlace before c) :
    isWordBreak d = false := by
  unfold inPlace at h
  split at h
  · cases h
  · rename_i hc
    have hc' : isWordBreak c = false := Bool.eq_false_iff.mpr hc
    split at h
    · rcases of_mem_upperCase h with ⟨rfl, -⟩ | hcode
      · exact hc'
      · exact isWordBreak_of_mem_capitalCodes hcode
    · rw [List.mem_singleton.mp h]
      exact hc'

theorem isWordBreak_of_mem_letterwise {s : Text} {before d : Char} (h : d ∈ letterwise before s) :
    isWordBreak d = false := by
  induction s generalizing before with
  | nil => cases h
  | cons c s ih =>
    rw [letterwise_cons, List.mem_append] at h
    rcases h with h | h
    · exact isWordBreak_of_mem_inPlace h
    · exact ih h

/-- There is no word break in camel case. -/
theorem isWordBreak_of_mem_camelCase {s : Text} {c : Char} (h : c ∈ camelCase s) :
    isWordBreak c = false := by
  rw [camelCase_eq_letterwise] at h
  exact isWordBreak_of_mem_letterwise h

/-- The camel case of a name in camel case is the name. -/
theorem camelCase_camelCase (s : Text) : camelCase (camelCase s) = camelCase s := by
  have hwords : words (camelCase s) = [camelCase s] :=
    words_of_no_break fun c hc => isWordBreak_of_mem_camelCase hc
  rw [camelCase, hwords, List.flatMap_singleton, capitalize_camelCase]

/-- Camel case makes one name of two that a word break stands between. So it leaves no word break,
it is the same for all word breaks and however many stand beside one another, and it drops nothing
else: a letter behind a word break, and the first one, is put in its capital form, which may have
several letters, and all others stay as they are. A name in camel case has been treated so
already. -/
theorem camelCase_homomorphic (s : Text) :
    (∀ (a b : Text) (c : Char), c = '_' ∨ c = '-' ∨ c = ' ' →
      camelCase (a ++ c :: b) = camelCase a ++ camelCase b) ∧
      (∀ c ∈ camelCase s, c ≠ '_' ∧ c ≠ '-' ∧ c ≠ ' ') ∧
      (∀ t, Respaced s t → camelCase t = camelCase s) ∧
      camelCase s = (List.zipWith inPlace (' ' :: s) s).flatten ∧
      camelCase (camelCase s) = camelCase s := by
  have hbreak : ∀ c, isWordBreak c = true ↔ c = '_' ∨ c = '-' ∨ c = ' ' := fun c => by
    simp [isWordBreak, or_assoc]
  refine ⟨fun a b c hc => camelCase_append_break ((hbreak c).mpr hc) a b, fun c hc => ?_,
    fun t ht => ?_, camelCase_eq_letterwise s, camelCase_camelCase s⟩
  · have hno : ¬ isWordBreak c = true := Bool.eq_false_iff.mp (isWordBreak_of_mem_camelCase hc)
    rwa [hbreak, not_or, not_or] at hno
  · rw [camelCase_eq_letterwise, camelCase_eq_letterwise, ht.letterwise_eq rfl]

/-- A name that begins and ends with word breaks, with letters whose capital forms are two. -/
def unevenName : Text := ['-', 'ß', 'a', '_', '_', 'ŉ', 'b', ' ']

/-- The same name with other gaps. -/
def respacedName : Text := ['_', ' ', 'ß', 'a', '-', 'ŉ', 'b', '_', '_']

/-- Both have the same camel case, and it is its own. -/
theorem camelCase_homomorphic_uneven :
    Respaced unevenName respacedName ∧ camelCase unevenName = "SSaʼNb".toList ∧
      camelCase respacedName = camelCase unevenName ∧
      camelCase (camelCase unevenName) = camelCase unevenName := by
  have hend : Respaced ['ŉ', 'b', ' '] ['ŉ', 'b', '_', '_'] :=
    .letter (by decide) (.letter (by decide) (.gap [' '] ['_', '_'] (by decide) (by decide) .nil))
  have hmiddle : Respaced ['ß', 'a', '_', '_', 'ŉ', 'b', ' '] ['ß', 'a', '-', 'ŉ', 'b', '_', '_'] :=
    .letter (by decide) (.letter (by decide) (.gap ['_', '_'] ['-'] (by decide) (by decide) hend))
  have hrespaced : Respaced unevenName respacedName :=
    .gap ['-'] ['_', ' '] (by decide) (by decide) hmiddle
  obtain ⟨-, -, hsame, -, hagain⟩ := camelCase_homomorphic unevenName
  exact ⟨hrespaced, by decide +kernel, hsame _ hrespaced, hagain⟩

end TestScribe.TestClass
