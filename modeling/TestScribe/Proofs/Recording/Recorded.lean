import TestScribe.Proofs.Recording.Breaks

/-!
# What a recorder writes

A recorder writes its document as XHTML: in front the two prologues, each on a line of its
own, then the tree, with attributes in the order in which they come, every value in double
quotation marks, and a blank before the slash of an empty tag (`record`).

On its way to the reader the document is reduced to ASCII. In this form the texts and values
still spell characters, and nearly always the same ones (`arrive`): a byte order mark is
gone, and a few numbers name another character than the one they were made from.

> `read_record`: reading what was recorded gives the tree with its texts and values as they
> arrive, settled.

The prologues are removed by replacement in a text, so it has to be shown that nothing else
is hit: in a recorded tree a `<` is always followed by a letter or a slash.
-/

namespace TestScribe.Recording

open Markup Reference

/-! ## Recording -/

/-- An attribute as recorders write it. -/
def recordAttribute (a : Text × Text) : Text :=
  ' ' :: (a.1 ++ '=' :: '"' :: (escapeValue a.2 ++ ['"']))

/-- Attributes as recorders write them, for an element of any name. -/
def recordAttributes (_ : Text) (as : Attributes) : Text := as.flatMap recordAttribute

/-- Trees as recorders write them. -/
def record (ts : List Tree) : Text := writeWith escape recordAttributes " />".toList ts

/-! ## Reduced to ASCII -/

theorem asciiForm_append (s t : Text) : asciiForm (s ++ t) = asciiForm s ++ asciiForm t :=
  List.flatMap_append

/-- A character of ASCII. -/
def isAscii (c : Char) : Bool := c.toNat < 0x80

theorem asciiChar_of_isAscii {c : Char} (h : isAscii c = true) : asciiChar c = [c] := by
  have hmark : c ≠ '\uFEFF' := by
    rintro rfl
    revert h
    decide
  rw [asciiChar, if_neg hmark, if_pos (of_decide_eq_true h)]

theorem asciiForm_cons {c : Char} (h : isAscii c = true) (s : Text) :
    asciiForm (c :: s) = c :: asciiForm s := by
  rw [asciiForm, List.flatMap_cons, asciiChar_of_isAscii h]
  rfl

/-- ASCII stays as it is. -/
theorem asciiForm_of_isAscii {s : Text} (h : s.all isAscii = true) : asciiForm s = s := by
  induction s with
  | nil => rfl
  | cons c s ih =>
    rw [List.all_cons, Bool.and_eq_true] at h
    rw [asciiForm_cons h.1, ih h.2]

theorem asciiForm_of_isName {name : Text} (h : isName name = true) : asciiForm name = name :=
  asciiForm_of_isAscii (List.all_eq_true.mpr fun c hc =>
    decide_eq_true (nameChar_of_mem h c hc).ascii)

theorem mem_decimal {c d : Char} (h : d ∈ decimal c) :
    d = '&' ∨ d = '#' ∨ d = ';' ∨ isDecimal d = true := by
  unfold decimal at h
  simp only [List.cons_append, List.mem_cons, List.mem_append, List.not_mem_nil, or_false] at h
  rcases h with h | h | h | h
  · exact .inl h
  · exact .inr (.inl h)
  · exact .inr (.inr (.inr (isDecimal_of_mem_ofNat h)))
  · exact .inr (.inr (.inl h))

/-- The ASCII form has no characters of its own but those of references. -/
theorem not_mem_asciiForm {d : Char} (hd : d = '"' ∨ d = '<') {s : Text} (h : d ∉ s) :
    d ∉ asciiForm s := by
  intro hmem
  obtain ⟨c, hc, hdc⟩ := List.mem_flatMap.mp hmem
  unfold asciiChar at hdc
  split at hdc
  · cases hdc
  · split at hdc
    · exact h (List.mem_singleton.mp hdc ▸ hc)
    · have hcases := mem_decimal hdc
      rcases hd with rfl | rfl
      · revert hcases
        decide
      · revert hcases
        decide

/-- What a character written as `piece` is in the ASCII form, where only ASCII is written
in another way. -/
theorem asciiForm_piece {piece : Char → Text}
    (hsmall : ∀ c, isAscii c = true → (piece c).all isAscii = true)
    (hlarge : ∀ c, isAscii c = false → piece c = [c]) (c : Char) :
    asciiForm (piece c) =
      if c.toNat < 0x80 then piece c else if c = '\uFEFF' then [] else decimal c := by
  by_cases hc : c.toNat < 0x80
  · rw [if_pos hc]
    exact asciiForm_of_isAscii (hsmall c (decide_eq_true hc))
  · rw [if_neg hc, hlarge c (decide_eq_false hc), asciiForm, List.flatMap_singleton, asciiChar,
      if_neg hc]

theorem isAscii_escapeChar {c : Char} (hc : isAscii c = true) :
    (escapeChar c).all isAscii = true := by
  unfold escapeChar
  split
  · decide
  · split
    · decide
    · split
      · decide
      · rw [List.all_cons, hc]
        rfl

theorem ne_of_isAscii {c d : Char} (hc : isAscii c = false) (hd : isAscii d = true) : c ≠ d := by
  rintro rfl
  rw [hc] at hd
  cases hd

theorem escapeChar_of_not_isAscii {c : Char} (hc : isAscii c = false) : escapeChar c = [c] := by
  rw [escapeChar, if_neg (ne_of_isAscii hc (by decide)), if_neg (ne_of_isAscii hc (by decide)),
    if_neg (ne_of_isAscii hc (by decide))]

theorem isAscii_escapeValueChar {c : Char} (hc : isAscii c = true) :
    (escapeValueChar c).all isAscii = true := by
  unfold escapeValueChar
  split
  · decide
  · exact isAscii_escapeChar hc

theorem escapeValueChar_of_not_isAscii {c : Char} (hc : isAscii c = false) :
    escapeValueChar c = [c] := by
  rw [escapeValueChar, if_neg (ne_of_isAscii hc (by decide)), escapeChar_of_not_isAscii hc]

/-! ## As it arrives -/

/-- A text as it arrives, given what the number of a character beyond ASCII stands for. -/
def arrive (number : Nat → Text) (s : Text) : Text :=
  s.flatMap fun c =>
    if c.toNat < 0x80 then [c] else if c = '\uFEFF' then [] else number c.toNat

/-- A text as it arrives. -/
def arriveText (s : Text) : Text := arrive (fun n => [ofNumber n]) s

/-- Attributes as they arrive, for an element of any name. -/
def arriveAttributes (_ : Text) (as : Attributes) : Attributes :=
  as.map fun a => (a.1, arrive ofAttributeNumber a.2)

/-- Trees as they arrive. -/
def arrived (ts : List Tree) : List Tree := rework arriveText arriveAttributes ts

/-- In the ASCII form an escaped text spells the text as it arrives. -/
theorem spellsText_asciiForm (s : Text) : SpellsText (asciiForm (escape s)) (arriveText s) := by
  rw [asciiForm, escape, List.flatMap_assoc]
  refine SpellsText.flatMap (fun c => ?_) s
  rw [← asciiForm,
    asciiForm_piece (fun c => isAscii_escapeChar) (fun c => escapeChar_of_not_isAscii)]
  split
  · exact .char (spellsChar_escapeChar c)
  · split
    · exact .nil
    · exact .char (.decimal c)

/-- In the ASCII form an escaped value yields the value as it arrives. -/
theorem yields_asciiForm (s : Text) :
    Yields (asciiForm (escapeValue s)) (arrive ofAttributeNumber s) := by
  rw [asciiForm, escapeValue, List.flatMap_assoc]
  refine Yields.flatMap (fun c => ?_) s
  rw [← asciiForm,
    asciiForm_piece (fun c => isAscii_escapeValueChar) (fun c => escapeValueChar_of_not_isAscii)]
  split
  · exact yields_escapeValueChar c
  · split
    · exact .nil
    · exact yields_decimal c

theorem asciiForm_recordAttribute {a : Text × Text} (h : isName a.1 = true) :
    asciiForm (recordAttribute a) =
      ' ' :: (a.1 ++ '=' :: '"' :: (asciiForm (escapeValue a.2) ++ ['"'])) := by
  rw [recordAttribute, asciiForm_cons (by decide), asciiForm_append, asciiForm_of_isName h,
    asciiForm_cons (by decide), asciiForm_cons (by decide), asciiForm_append,
    asciiForm_cons (by decide)]
  rfl

theorem spellsAttributes_asciiForm {as : Attributes} (name : Text)
    (hnames : ∀ a ∈ as, isName a.1 = true) :
    SpellsAttributes (asciiForm (recordAttributes name as)) (arriveAttributes name as) := by
  rw [asciiForm, recordAttributes, List.flatMap_assoc]
  refine spellsAttributes_flatMap fun a ha => ?_
  rw [← asciiForm, asciiForm_recordAttribute (hnames a ha)]
  exact .intro (isAttributeName_of_isName (hnames a ha)) (by decide)
    (not_mem_asciiForm (.inl rfl) (not_mem_escapeValue a.2))
    (resolve?_of_yields (yields_asciiForm a.2))

theorem keys_arriveAttributes (name : Text) (as : Attributes) :
    (arriveAttributes name as).keys = as.keys := by
  rw [arriveAttributes, Dictionary.keys, Dictionary.keys, List.map_map]
  rfl

theorem Sound.arrived {ts : List Tree} (h : Sound ts) : Sound (arrived ts) :=
  h.rework fun name as => by rw [keys_arriveAttributes]

/-- The ASCII form of what was recorded. -/
theorem asciiForm_record {ts : List Tree} (h : Sound ts) :
    asciiForm (record ts) = writeWith (fun s => asciiForm (escape s))
      (fun name as => asciiForm (recordAttributes name as)) " />".toList ts := by
  unfold record
  induction h with
  | nil =>
    rw [writeWith, writeWith]
    rfl
  | @text s ts hs ih => rw [writeWith, writeWith, asciiForm_append, ih]
  | @element name as children ts hname hraw hnames hkeys hvoid hchildren hs ihc ih =>
    rw [writeWith, writeWith, asciiForm_append, ih, asciiForm_cons (by decide), asciiForm_append,
      asciiForm_of_isName hname, asciiForm_append]
    by_cases hv : voidElements.contains name = true
    · rw [if_pos hv, if_pos hv, @asciiForm_of_isAscii " />".toList (by decide)]
    · rw [if_neg hv, if_neg hv, asciiForm_cons (by decide), asciiForm_append, ihc,
        asciiForm_cons (by decide), asciiForm_cons (by decide), asciiForm_append,
        asciiForm_of_isName hname, asciiForm_cons (by decide)]
      rfl

/-- Reading what was recorded gives the trees as they arrive, settled. -/
theorem read_record {ts : List Tree} (h : Sound ts) :
    Tree.read (asciiForm (record ts)) = .ok (settled false [] (arrived ts)) := by
  have hspells : SpellsTrees (asciiForm (record ts)) (arrived ts) := by
    rw [asciiForm_record h]
    exact spellsTrees_writeWith spellsText_asciiForm
      (fun name as => spellsAttributes_asciiForm name)
      (fun name as => by rw [keys_arriveAttributes]) .blankSlash h
  rw [read_of_spells (spells_of_spellsTrees hspells), ofTokens_tokensOf (Sound.arrived h)]

end TestScribe.Recording
