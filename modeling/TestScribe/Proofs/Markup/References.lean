import Mathlib.Algebra.Group.Nat.Defs
import TestScribe.Markup.Written

/-!
# Reading references back

Two forms of text are read back here: the ASCII form, in which every character beyond ASCII
is a decimal reference, and the written form, in which the characters that markup would
take for its own are named. In running text a reference is one step of a scan
(`step_decimal`, `step_named`). In an attribute value it is resolved, and resolving goes
through a value piece by piece, so a piece is described by what it yields (`Yields`).

A number is read back from its digits (`value_ofNat`), of which a character's number has at
most seven, far fewer than a number may have.
-/

namespace TestScribe.Markup

/-! ## The names of markup characters -/

namespace CharacterName

theorem lookup_amp : lookup ['a', 'm', 'p'] = some ['&'] := by decide +kernel

theorem lookup_lt : lookup ['l', 't'] = some ['<'] := by decide +kernel

theorem lookup_gt : lookup ['g', 't'] = some ['>'] := by decide +kernel

theorem lookup_quot : lookup ['q', 'u', 'o', 't'] = some ['"'] := by decide +kernel

end CharacterName

namespace Reference

/-! ## Digits -/

theorem isDecimal_of_mem_ofNat {n : Nat} {c : Char} (h : c ∈ Text.ofNat n) :
    isDecimal c = true :=
  Nat.isDigit_of_mem_toDigits (by decide) (by decide) h

theorem digitValue_le_nine {c : Char} (h : isDecimal c = true) : digitValue c ≤ 9 := by
  have hc : c ≤ '9' := of_decide_eq_true (Bool.and_eq_true_iff.mp h).2
  have hle : c.toNat ≤ 57 := hc
  rw [digitValue, if_pos h]
  omega

/-- A number has at most the digits that it is written with. -/
theorem value_lt {digits : Text} (h : ∀ c ∈ digits, isDecimal c = true) :
    value 10 digits < 10 ^ digits.length := by
  have hfold : ∀ n, digits.foldl (fun n c => n * 10 + digitValue c) n <
      (n + 1) * 10 ^ digits.length := by
    induction digits with
    | nil =>
      intro n
      simp
    | cons c digits ih =>
      intro n
      have hc := digitValue_le_nine (h c List.mem_cons_self)
      have hrest := ih (fun d hd => h d (List.mem_cons_of_mem _ hd)) (n * 10 + digitValue c)
      refine Nat.lt_of_lt_of_le hrest ?_
      rw [List.length_cons, Nat.pow_succ', ← Nat.mul_assoc]
      exact Nat.mul_le_mul_right _ (by omega)
  simpa [value] using hfold 0

theorem value_eq_ofDigitChars {digits : Text} (h : ∀ c ∈ digits, isDecimal c = true) :
    ∀ n, digits.foldl (fun n c => n * 10 + digitValue c) n = Nat.ofDigitChars 10 digits n := by
  induction digits with
  | nil => exact fun n => rfl
  | cons c digits ih =>
    intro n
    have hc : digitValue c = c.toNat - '0'.toNat := if_pos (h c List.mem_cons_self)
    rw [List.foldl_cons, ih (fun d hd => h d (List.mem_cons_of_mem _ hd)), hc,
      Nat.ofDigitChars_cons, Nat.mul_comm]

/-- The digits of a number denote it. -/
theorem value_ofNat (n : Nat) : value 10 (Text.ofNat n) = n := by
  rw [value, value_eq_ofDigitChars fun c => isDecimal_of_mem_ofNat]
  exact Nat.ofDigitChars_ten_toDigits

theorem ofNat_ne_nil (n : Nat) : Text.ofNat n ≠ [] := Nat.toDigits_ne_nil

/-- The number of a character has few digits. -/
theorem length_ofNat_toNat (c : Char) : (Text.ofNat c.toNat).length ≤ 7 := by
  refine (Nat.length_toDigits_le_iff (by decide) (by decide)).mpr ?_
  have hvalid : c.toNat < 0x110000 := by
    rcases c.valid with h | h
    · exact Nat.lt_trans h (by decide)
    · exact h.2
  omega

theorem takeWhile_ofNat (n : Nat) (s : Text) :
    (Text.ofNat n ++ ';' :: s).takeWhile isDecimal = Text.ofNat n := by
  rw [List.takeWhile_append_of_pos fun c => isDecimal_of_mem_ofNat,
    List.takeWhile_cons_of_neg (by decide), List.append_nil]

theorem dropWhile_ofNat (n : Nat) (s : Text) :
    (Text.ofNat n ++ ';' :: s).dropWhile isDecimal = ';' :: s := by
  rw [List.dropWhile_append_of_pos fun c => isDecimal_of_mem_ofNat,
    List.dropWhile_cons_of_neg (by decide)]

/-- A reference to a character is never too long. -/
theorem isLongNumber_ofNat (c : Char) (s : Text) :
    isLongNumber ('#' :: (Text.ofNat c.toNat ++ ';' :: s)) = false := by
  rw [isLongNumber, takeWhile_ofNat, decide_eq_false_iff_not, Nat.not_lt]
  exact Nat.le_trans (length_ofNat_toNat c) (by decide)

/-! ## Attribute values -/

/-- Resolving a piece of a value gives this text, whatever follows the piece. -/
def Yields (piece text : Text) : Prop :=
  ∀ rest, resolve? (piece ++ rest) = (resolve? rest).map (text ++ ·)

theorem Yields.nil : Yields [] [] := by
  intro rest
  rw [List.nil_append]
  exact Option.map_id_apply.symm

theorem Yields.append {p q s t : Text} (hp : Yields p s) (hq : Yields q t) :
    Yields (p ++ q) (s ++ t) := by
  intro rest
  rw [List.append_assoc, hp, hq, Option.map_map]
  congr 1
  funext r
  exact (List.append_assoc s t r).symm

/-- Pieces for the characters of a text make up the pieces for the text. -/
theorem Yields.flatMap {piece text : Char → Text} (h : ∀ c, Yields (piece c) (text c))
    (s : Text) : Yields (s.flatMap piece) (s.flatMap text) := by
  induction s with
  | nil => exact Yields.nil
  | cons c s ih =>
    rw [List.flatMap_cons, List.flatMap_cons]
    exact (h c).append ih

theorem resolve?_of_yields {piece text : Text} (h : Yields piece text) :
    resolve? piece = some text := by
  have h' := h []
  rw [List.append_nil, resolve?] at h'
  rw [h', Option.map_some, List.append_nil]

theorem yields_char {c : Char} (hc : c ≠ '&') : Yields [c] [c] := by
  intro rest
  rw [List.singleton_append, resolve?, if_neg hc]
  rfl

/-- A reference that is found is resolved. -/
theorem yields_reference {r text : Text} (hshort : ∀ rest, isLongNumber (r ++ rest) = false)
    (hfound : ∀ rest, attributeReference? (r ++ rest) = some (text, rest)) :
    Yields ('&' :: r) text := by
  intro rest
  rw [List.cons_append, resolve?, if_pos rfl, if_neg (by rw [hshort]; exact Bool.false_ne_true)]
  split
  · rename_i t rest' h
    rw [hfound] at h
    cases h
    rfl
  · rename_i h
    rw [hfound] at h
    cases h

/-- A named reference is taken as a whole. -/
theorem yields_named (c : Char) (name text : Text) (hc : c ≠ '#')
    (hname : (c :: name).all isAttributeNameChar = true) (hlen : (c :: name).length < longestName)
    (hlookup : CharacterName.lookup (c :: name) = some text) :
    Yields ('&' :: (c :: name ++ [';'])) text := by
  have hchars := List.all_eq_true.mp hname
  refine yields_reference (fun rest => ?_) fun rest => ?_
  · rw [List.cons_append, List.cons_append, isLongNumber]
    exact fun r h => hc (List.cons.inj h).1
  · -- Names are looked for in so many characters, and this one ends before they do.
    have hcut : (((c :: name) ++ [';'] ++ rest).take longestName).takeWhile isAttributeNameChar =
        c :: name := by
      obtain ⟨n, hn⟩ := Nat.exists_eq_add_of_lt hlen
      rw [List.append_assoc, List.take_append, List.take_of_length_le (Nat.le_of_lt hlen), hn,
        Nat.add_assoc, Nat.add_sub_cancel_left, List.singleton_append, List.take_succ_cons,
        List.takeWhile_append_of_pos hchars, List.takeWhile_cons_of_neg (by decide),
        List.append_nil]
    have hdrop : ((c :: name) ++ [';'] ++ rest).drop (c :: name).length = ';' :: rest := by
      rw [List.append_assoc, List.drop_left, List.singleton_append]
    rw [List.cons_append, List.cons_append, attributeReference?]
    · rw [if_pos (hchars c List.mem_cons_self)]
      dsimp only
      rw [← List.cons_append, ← List.cons_append, hcut, hdrop]
      have hclosed : decide ((';' :: rest).head? = some ';') = true := decide_eq_true rfl
      rw [hclosed, ofAttributeName, if_pos rfl, hlookup]
      rfl
    · exact hc

theorem attributeReference?_decimal {x : Char} (hx : isDecimal x = true) (h : Text) :
    attributeReference? ('#' :: x :: h) =
      some (ofAttributeNumber (value 10 ((x :: h).takeWhile isDecimal)),
        dropSemicolon ((x :: h).dropWhile isDecimal)) :=
  if_pos hx

/-- A reference by number stands for what a value keeps of the character. -/
theorem yields_decimal (c : Char) : Yields (decimal c) (ofAttributeNumber c.toNat) := by
  have happend : ∀ rest : Text, '#' :: (Text.ofNat c.toNat ++ [';']) ++ rest =
      '#' :: (Text.ofNat c.toNat ++ ';' :: rest) := by
    intro rest
    rw [List.cons_append, List.append_assoc, List.singleton_append]
  have hdecimal : decimal c = '&' :: '#' :: (Text.ofNat c.toNat ++ [';']) := rfl
  rw [hdecimal]
  refine yields_reference (fun rest => ?_) fun rest => ?_
  · rw [happend]
    exact isLongNumber_ofNat c rest
  · rw [happend]
    cases hd : Text.ofNat c.toNat with
    | nil => exact absurd hd (ofNat_ne_nil _)
    | cons x h =>
      have hx : isDecimal x = true := isDecimal_of_mem_ofNat (hd ▸ List.mem_cons_self)
      rw [List.cons_append, attributeReference?_decimal hx, ← List.cons_append, ← hd,
        takeWhile_ofNat, dropWhile_ofNat, value_ofNat]
      rfl

/-- A markup character is resolved from its name. -/
theorem yields_escapeChar (c : Char) : Yields (escapeChar c) [c] := by
  unfold escapeChar
  split
  · rename_i h
    rw [h]
    exact yields_named 'a' ['m', 'p'] _ (by decide) (by decide) (by decide) CharacterName.lookup_amp
  · split
    · rename_i h
      rw [h]
      exact yields_named 'l' ['t'] _ (by decide) (by decide) (by decide) CharacterName.lookup_lt
    · split
      · rename_i h
        rw [h]
        exact yields_named 'g' ['t'] _ (by decide) (by decide) (by decide) CharacterName.lookup_gt
      · exact yields_char ‹_›

theorem yields_quot : Yields "&quot;".toList ['"'] :=
  yields_named 'q' ['u', 'o', 't'] _ (by decide) (by decide) (by decide) CharacterName.lookup_quot

end Reference

/-! ## Running text -/

open Reference

theorem numericReference?_decimal {x : Char} (hx : isDecimal x = true) (h : Text) :
    numericReference? (x :: h) =
      closedNumber? 10 ((x :: h).takeWhile isDecimal) ((x :: h).dropWhile isDecimal) := by
  have hne : (decide (x = 'x') || decide (x = 'X')) = false := by
    rw [Bool.or_eq_false_iff, decide_eq_false_iff_not, decide_eq_false_iff_not]
    constructor
    · rintro rfl
      revert hx
      decide
    · rintro rfl
      revert hx
      decide
  rw [numericReference?, hne]
  rfl

/-- A reference by number is one step. -/
theorem step_decimal (last : Bool) (c : Char) (rest : Text) :
    step last '&' ('#' :: (Text.ofNat c.toNat ++ ';' :: rest)) =
      .ok (.go [.text [ofNumber c.toNat]] rest) := by
  have hnumber : numericReference? (Text.ofNat c.toNat ++ ';' :: rest) =
      some (ofNumber c.toNat, rest) := by
    -- The semicolon ends the digits, also where they could be hexadecimal ones.
    have hne : (decide (Text.ofNat c.toNat = []) || isHex ';') = false := by
      rw [decide_eq_false (ofNat_ne_nil _)]
      rfl
    have hclosed : closedNumber? 10 (Text.ofNat c.toNat) (';' :: rest) =
        some (ofNumber c.toNat, rest) := by
      rw [closedNumber?, hne, value_ofNat]
      rfl
    have htake := takeWhile_ofNat c.toNat rest
    have hdrop := dropWhile_ofNat c.toNat rest
    cases hd : Text.ofNat c.toNat with
    | nil => exact absurd hd (ofNat_ne_nil _)
    | cons x h =>
      have hx : isDecimal x = true := isDecimal_of_mem_ofNat (hd ▸ List.mem_cons_self)
      rw [hd] at htake hdrop hclosed
      rw [List.cons_append, numericReference?_decimal hx, ← List.cons_append, htake, hdrop,
        hclosed]
  have hand : ampersand last ('#' :: (Text.ofNat c.toNat ++ ';' :: rest)) =
      numberSign (Text.ofNat c.toNat ++ ';' :: rest) := rfl
  rw [step, if_neg (by decide), if_pos rfl, hand, numberSign, hnumber]
  dsimp only
  rw [isLongNumber_ofNat]
  rfl

/-- A named reference is one step. -/
theorem step_named (last : Bool) {c : Char} {name text : Text} (hc : isLetter c = true)
    (hname : (c :: name).all isReferenceNameChar = true)
    (hlookup : CharacterName.lookup (c :: name) = some text) (rest : Text) :
    step last '&' (c :: name ++ ';' :: rest) = .ok (.go [.text text] rest) := by
  have hchars := List.all_eq_true.mp hname
  have hfound : namedReference? (c :: name ++ ';' :: rest) = some (c :: name, rest) := by
    have htake : (c :: name ++ ';' :: rest).takeWhile isReferenceNameChar = c :: name := by
      rw [List.takeWhile_append_of_pos hchars, List.takeWhile_cons_of_neg (by decide),
        List.append_nil]
    have hdrop : (c :: name ++ ';' :: rest).dropWhile isReferenceNameChar = ';' :: rest := by
      rw [List.dropWhile_append_of_pos hchars, List.dropWhile_cons_of_neg (by decide)]
    rw [namedReference?, htake, hdrop]
    rfl
  have hne : c ≠ '#' := by
    rintro rfl
    revert hc
    decide
  rw [step, if_neg (by decide), if_pos rfl, List.cons_append, ampersand]
  · rw [if_pos hc, ← List.cons_append, hfound]
    dsimp only
    rw [ofName, hlookup]
    rfl
  · exact hne

end TestScribe.Markup
