import TestScribe.Markup.Lexer
import TestScribe.Proofs.Dictionary

/-!
# Reading tags back

A tag that is written out plainly is read as what it says. Each attribute stands behind one
blank and has its value in quotation marks; the tag ends at once, or after one blank and a
slash. The names may be any that tags of loosely written documents have (`IsTagName`,
`IsAttributeName`). Plain ones are made of small letters, digits and the marks that XML names
have (`isName`), and end tags give them back as they are.

> `startTag_of_spells`: such a start tag is read as its name and its attributes.
> `endTag_of_isTagName`: an end tag is read as its name, but for blanks at its end (`endName`).

Attributes are described by a relation between their text and what they mean
(`SpellsAttributes`), so nothing here depends on who wrote them or which references stand in
their values.
-/

namespace TestScribe.Markup

/-! ## Names -/

/-- A character of a plainly written name: a small letter, a digit, or one of the marks
that XML names have. -/
def isNameChar (c : Char) : Bool := isEndNameChar c && c.toLower == c

/-- A plainly written name begins with a letter. -/
def isName : Text → Bool
  | [] => false
  | c :: cs => isLetter c && (c :: cs).all isNameChar

theorem toNat_lt_of_isNameChar {c : Char} (h : isNameChar c = true) : c.toNat < 128 := by
  have hle : ∀ a b : Char, a ≤ b → a.toNat ≤ b.toNat := fun a b hab => hab
  simp only [isNameChar, isEndNameChar, isLetter, Reference.isDecimal, Bool.and_eq_true,
    Bool.or_eq_true, decide_eq_true_eq, List.contains_eq_mem] at h
  rcases h.1 with ((⟨-, h⟩ | ⟨-, h⟩) | ⟨-, h⟩) | h
  · exact Nat.lt_of_le_of_lt (hle _ _ h) (by decide)
  · exact Nat.lt_of_le_of_lt (hle _ _ h) (by decide)
  · exact Nat.lt_of_le_of_lt (hle _ _ h) (by decide)
  · have hmarks : "-.:_".toList.all (fun d => decide (d.toNat < 128)) = true := by decide
    exact of_decide_eq_true (List.all_eq_true.mp hmarks c h)

/-- What the characters of names are taken for. -/
structure NameChar (c : Char) : Prop where
  ascii : c.toNat < 128
  inTag : isTagNameChar c = true
  inAttribute : isAttributeNameChar c = true
  inEndTag : isEndNameChar c = true
  notBlank : isBlank c = false
  small : c.toLower = c
  notLess : c ≠ '<'
  notMore : c ≠ '>'
  notSlash : c ≠ '/'

private theorem nameChar_ascii : ∀ n < 128, isNameChar (Char.ofNat n) = true →
    isTagNameChar (Char.ofNat n) = true ∧ isAttributeNameChar (Char.ofNat n) = true ∧
      isEndNameChar (Char.ofNat n) = true ∧ isBlank (Char.ofNat n) = false ∧
      (Char.ofNat n).toLower = Char.ofNat n ∧ Char.ofNat n ≠ '<' ∧ Char.ofNat n ≠ '>' ∧
      Char.ofNat n ≠ '/' := by
  decide +kernel

theorem nameChar_of_isNameChar {c : Char} (h : isNameChar c = true) : NameChar c := by
  have hascii := toNat_lt_of_isNameChar h
  have h' := nameChar_ascii c.toNat hascii
  rw [Char.ofNat_toNat] at h'
  obtain ⟨h₁, h₂, h₃, h₄, h₅, h₆, h₇, h₈⟩ := h' h
  exact ⟨hascii, h₁, h₂, h₃, h₄, h₅, h₆, h₇, h₈⟩

section
variable {name : Text} (h : isName name = true)
include h

theorem isName_ne_nil : name ≠ [] := by
  rintro rfl
  cases h

theorem nameChar_of_mem : ∀ c ∈ name, NameChar c := by
  cases name with
  | nil => cases h
  | cons c cs =>
    rw [isName, Bool.and_eq_true] at h
    exact fun d hd => nameChar_of_isNameChar (List.all_eq_true.mp h.2 d hd)

theorem isLetter_of_isName : (name.head?.map isLetter).getD false = true := by
  cases name with
  | nil => cases h
  | cons c cs =>
    rw [isName, Bool.and_eq_true] at h
    exact h.1

theorem lower_of_isName : Text.lower name = name := by
  rw [Text.lower]
  calc name.map Char.toLower = name.map id :=
        List.map_congr_left fun c hc => (nameChar_of_mem h c hc).small
    _ = name := List.map_id name

theorem dropWhile_isBlank_of_isName : name.dropWhile isBlank = name := by
  cases hname : name with
  | nil => exact absurd hname (isName_ne_nil h)
  | cons c cs =>
    have hc := (nameChar_of_mem h c (hname ▸ List.mem_cons_self)).notBlank
    rw [List.dropWhile_cons_of_neg (by rw [hc]; exact Bool.false_ne_true)]

end

/-! ## Names of any document -/

/-- A name as start tags give it, however loosely they are written. -/
structure IsTagName (name : Text) : Prop where
  head : (name.head?.map isLetter).getD false = true
  chars : ∀ c ∈ name, isTagNameChar c = true
  small : Text.lower name = name

theorem isTagName_of_isName {name : Text} (h : isName name = true) : IsTagName name :=
  ⟨isLetter_of_isName h, fun c hc => (nameChar_of_mem h c hc).inTag, lower_of_isName h⟩

/-- A name as attributes have it, however loosely they are written. -/
structure IsAttributeName (name : Text) : Prop where
  head : (name.head?.map isAttributeStart).getD false = true
  tail : ∀ c ∈ name.tail, isAttributeNameChar c = true
  small : Text.lower name = name

theorem isAttributeName_of_isName {name : Text} (h : isName name = true) :
    IsAttributeName name := by
  have hchars := nameChar_of_mem h
  refine ⟨?_, fun c hc => (hchars c (List.mem_of_mem_tail hc)).inAttribute, lower_of_isName h⟩
  cases name with
  | nil => cases h
  | cons c cs =>
    have hc := hchars c List.mem_cons_self
    show isAttributeStart c = true
    simp [isAttributeStart, hc.notBlank, hc.notSlash, hc.notMore]

theorem skipGap_of_isAttributeName {name : Text} (h : IsAttributeName name) (s : Text) :
    skipGap (name ++ s) = name ++ s := by
  cases name with
  | nil => cases h.head
  | cons c cs =>
    have hc : isAttributeStart c = true := h.head
    rw [isAttributeStart, Bool.not_eq_true', Bool.or_eq_false_iff, Bool.or_eq_false_iff] at hc
    rw [List.cons_append, skipGap, if_neg]
    rw [gapAt, hc.1.1, hc.1.2]
    exact Bool.false_ne_true

/-! ## Attributes -/

/-- The text of an attribute, and the attribute: behind a blank the name, and between
quotation marks what resolves to the value. -/
inductive SpellsAttribute : Text → Text × Text → Prop
  | intro {name inside value : Text} {mark : Char} (hname : IsAttributeName name)
      (hmark : isQuote mark = true) (hinside : mark ∉ inside)
      (hvalue : Reference.resolve? inside = some value) :
      SpellsAttribute (' ' :: (name ++ '=' :: mark :: (inside ++ [mark]))) (name, value)

/-- The text of several attributes, one after the other. -/
inductive SpellsAttributes : Text → Attributes → Prop
  | nil : SpellsAttributes [] []
  | cons {s t : Text} {a : Text × Text} {as : Attributes} (ha : SpellsAttribute s a)
      (has : SpellsAttributes t as) : SpellsAttributes (s ++ t) (a :: as)

/-- The attributes of a tag are over, and the tag ends: at once, after a slash, or after a
blank and a slash, as XHTML is written. -/
inductive EndsTag : Text → Text → Prop
  | more (rest : Text) : EndsTag ('>' :: rest) ('>' :: rest)
  | slash (rest : Text) : EndsTag ('/' :: '>' :: rest) ('/' :: '>' :: rest)
  | blankSlash (rest : Text) : EndsTag (' ' :: '/' :: '>' :: rest) ('/' :: '>' :: rest)

theorem skipGap_of_endsTag {s close : Text} (h : EndsTag s close) : skipGap s = close := by
  cases h with
  | more rest => rfl
  | slash rest => rfl
  | blankSlash rest => rfl

theorem attributesFrom_of_endsTag {s close : Text} (h : EndsTag s close) (separated : Bool) :
    attributesFrom separated close = ([], close) := by
  cases h with
  | more rest =>
    rw [attributesFrom, if_neg]
    simp [isAttributeStart]
  | slash rest =>
    rw [attributesFrom, if_neg]
    simp [isAttributeStart]
  | blankSlash rest =>
    rw [attributesFrom, if_neg]
    simp [isAttributeStart]

/-- A value in quotation marks is read up to the second one. -/
theorem value?_quoted {mark : Char} {inside : Text} (hmark : isQuote mark = true)
    (hinside : mark ∉ inside) (rest : Text) :
    value? ('=' :: mark :: (inside ++ mark :: rest)) = some ⟨inside, true, rest⟩ := by
  have hne : mark ≠ '=' := by
    rintro rfl
    revert hmark
    decide
  have hblank : isBlank mark = false := by
    rw [isQuote, Bool.or_eq_true, decide_eq_true_eq, decide_eq_true_eq] at hmark
    rcases hmark with rfl | rfl
    · decide
    · decide
  have htake : ('=' :: mark :: (inside ++ mark :: rest)).takeWhile (· = '=') = ['='] := by
    simp [hne]
  have hdrop : ('=' :: mark :: (inside ++ mark :: rest)).dropWhile (· = '=') =
      mark :: (inside ++ mark :: rest) := by
    simp [hne]
  unfold value?
  dsimp only
  rw [List.dropWhile_cons_of_neg (by decide), htake, hdrop, if_neg (by simp),
    List.takeWhile_cons_of_neg (by rw [hblank]; exact Bool.false_ne_true),
    List.dropWhile_cons_of_neg (by rw [hblank]; exact Bool.false_ne_true), valueAt?,
    if_pos hmark, Text.cutAt?_append hinside]

/-- The first attribute is read, and the reading goes on after it. -/
theorem attributesFrom_cons {name inside : Text} {mark : Char} (hname : IsAttributeName name)
    (hmark : isQuote mark = true) (hinside : mark ∉ inside) (rest : Text) :
    attributesFrom true (name ++ '=' :: mark :: (inside ++ mark :: rest)) =
      ((name, inside) :: (attributesFrom true (skipGap rest)).1,
        (attributesFrom true (skipGap rest)).2) := by
  have hlower := hname.small
  cases name with
  | nil => cases hname.head
  | cons c cs =>
    -- The first character is taken as it is, the others as long as names go on.
    have hcs : ∀ d ∈ cs, isAttributeNameChar d = true := hname.tail
    have hstart : (true && isAttributeStart c) = true := hname.head
    have htake : (cs ++ '=' :: mark :: (inside ++ mark :: rest)).takeWhile isAttributeNameChar =
        cs := by
      rw [List.takeWhile_append_of_pos hcs, List.takeWhile_cons_of_neg (by decide),
        List.append_nil]
    have hdrop : (cs ++ '=' :: mark :: (inside ++ mark :: rest)).dropWhile isAttributeNameChar =
        '=' :: mark :: (inside ++ mark :: rest) := by
      rw [List.dropWhile_append_of_pos hcs, List.dropWhile_cons_of_neg (by decide)]
    rw [List.cons_append, attributesFrom, if_pos hstart]
    dsimp only
    split
    · rename_i v hv
      rw [hdrop, value?_quoted hmark hinside] at hv
      cases hv
      rw [htake, hlower, Bool.true_or]
    · rename_i hv
      rw [hdrop, value?_quoted hmark hinside] at hv
      cases hv

/-- The attributes of a tag are read as what they say, up to the end of the tag. -/
theorem attributesFrom_of_spells {s t close : Text} {as : Attributes}
    (hs : SpellsAttributes s as) (ht : EndsTag t close) (separated : Bool)
    (hsep : s ≠ [] → separated = true) :
    ∃ raw, attributesFrom separated (skipGap (s ++ t)) = (raw, close) ∧
      raw.mapM (fun a => (Reference.resolve? a.2).map fun v => (a.1, v)) = some as := by
  induction hs generalizing separated with
  | nil =>
    refine ⟨[], ?_, rfl⟩
    rw [List.nil_append, skipGap_of_endsTag ht]
    exact attributesFrom_of_endsTag ht separated
  | @cons s u a as ha has ih =>
    obtain @⟨name, inside, value, mark, hname, hmark, hinside, hvalue⟩ := ha
    obtain ⟨raw, hraw, hvalues⟩ := ih true fun _ => rfl
    obtain rfl : separated = true := hsep (by simp)
    have hskip : skipGap (' ' :: (name ++ '=' :: mark :: (inside ++ [mark])) ++ u ++ t) =
        name ++ '=' :: mark :: (inside ++ mark :: (u ++ t)) := by
      have hflat : ' ' :: (name ++ '=' :: mark :: (inside ++ [mark])) ++ u ++ t =
          ' ' :: (name ++ '=' :: mark :: (inside ++ mark :: (u ++ t))) := by simp
      rw [hflat, skipGap, if_pos (by rfl), skipGap_of_isAttributeName hname]
    refine ⟨(name, inside) :: raw, ?_, ?_⟩
    · rw [hskip, attributesFrom_cons hname hmark hinside, hraw]
    · rw [List.mapM_cons, hvalue, hvalues]
      rfl

/-! ## Whole tags -/

/-- What follows a name in a start tag is no part of the name. -/
theorem takeWhile_isTagNameChar {name s t close : Text} {as : Attributes}
    (hname : IsTagName name) (hs : SpellsAttributes s as) (ht : EndsTag t close) :
    (name ++ (s ++ t)).takeWhile isTagNameChar = name ∧
      (name ++ (s ++ t)).dropWhile isTagNameChar = s ++ t := by
  have hhead : ∃ c r, s ++ t = c :: r ∧ isTagNameChar c = false := by
    cases hs with
    | nil =>
      cases ht with
      | more rest => exact ⟨'>', rest, rfl, by decide⟩
      | slash rest => exact ⟨'/', '>' :: rest, rfl, by decide⟩
      | blankSlash rest => exact ⟨' ', '/' :: '>' :: rest, rfl, by decide⟩
    | @cons s u a as ha has =>
      obtain ⟨hname, hmark, hinside, hvalue⟩ := ha
      exact ⟨' ', _, rfl, by decide⟩
  obtain ⟨c, r, hst, hc⟩ := hhead
  rw [hst, List.takeWhile_append_of_pos hname.chars, List.dropWhile_append_of_pos hname.chars,
    List.takeWhile_cons_of_neg (by rw [hc]; exact Bool.false_ne_true),
    List.dropWhile_cons_of_neg (by rw [hc]; exact Bool.false_ne_true), List.append_nil]
  exact ⟨rfl, rfl⟩

/-- What a start tag comes to, by the way that it ends. -/
theorem startTag_of_endsTag {name s t close : Text} {as : Attributes} {reading : Reading}
    (hname : IsTagName name) (hs : SpellsAttributes s as) (hkeys : as.keys.Nodup)
    (ht : EndsTag t close)
    (hend : ∀ written, endOfTag written name as close = reading) (hread : reading ≠ .incomplete) :
    startTag (name ++ (s ++ t)) = .ok reading := by
  obtain ⟨htake, hdrop⟩ := takeWhile_isTagNameChar hname hs ht
  have hsep : s ≠ [] → (endsApart name || gapAt (s ++ t)) = true := by
    intro hne
    cases hs with
    | nil => exact absurd rfl hne
    | cons ha has =>
      obtain ⟨hname, hmark, hinside, hvalue⟩ := ha
      exact Bool.or_eq_true_iff.mpr (.inr rfl)
  obtain ⟨raw, hraw, hvalues⟩ := attributesFrom_of_spells hs ht _ hsep
  have hresolve : resolveValues? raw = some as := by
    rw [resolveValues?, hvalues, Option.map_some, Dictionary.ofPairs_of_nodup hkeys]
  rw [startTag, htake, hdrop, hraw, hname.small]
  dsimp only
  rw [hresolve, Option.getD_some, hend]
  cases reading with
  | incomplete => exact absurd rfl hread
  | complete tokens rest => rfl

/-- A start tag is read as its name and its attributes. -/
theorem startTag_of_spells {name s : Text} {as : Attributes} (hname : IsTagName name)
    (hs : SpellsAttributes s as) (hkeys : as.keys.Nodup) (rest : Text) :
    startTag (name ++ (s ++ '>' :: rest)) = .ok (.complete [.opening name as] rest) :=
  startTag_of_endsTag hname hs hkeys (.more rest) (fun _ => rfl) nofun

/-- A tag with a slash is read as that of an empty element. -/
theorem startTag_of_spells_empty {name s t rest : Text} {as : Attributes}
    (hname : IsTagName name) (hs : SpellsAttributes s as) (hkeys : as.keys.Nodup)
    (ht : EndsTag t ('/' :: '>' :: rest)) :
    startTag (name ++ (s ++ t)) = .ok (.complete [.emptyTag name as] rest) :=
  startTag_of_endsTag hname hs hkeys ht (fun _ => rfl) nofun

/-- What is read from an end tag that is written with this name. A name that ends in blanks is
read without them. -/
def endName (name : Text) : Text := (endTagName? name).getD name

/-- An end tag is read up to its `>`. -/
theorem endTag_of_isTagName {name : Text} (hname : IsTagName name) (rest : Text) :
    endTag (name ++ '>' :: rest) = .complete [.closing (endName name)] rest := by
  have hmore : '>' ∉ name := fun h => absurd (hname.chars _ h) (by decide)
  have hfound : endTagName? name = some (endName name) := by
    unfold endName endTagName?
    rw [hname.head]
    dsimp only
    split
    · rfl
    · rfl
  rw [endTag, Text.cutAt?_append hmore]
  dsimp only
  rw [hfound]

theorem endName_of_isName {name : Text} (hname : isName name = true) : endName name = name := by
  have hall : ∀ c ∈ name, isEndNameChar c = true := fun c hc =>
    (nameChar_of_mem hname c hc).inEndTag
  have htake : name.takeWhile isEndNameChar = name := by
    rw [← List.append_nil name, List.takeWhile_append_of_pos hall, List.takeWhile_nil]
  have hdrop : name.dropWhile isEndNameChar = [] := by
    rw [← List.append_nil name, List.dropWhile_append_of_pos hall, List.dropWhile_nil]
  rw [endName, endTagName?, dropWhile_isBlank_of_isName hname, htake, hdrop,
    isLetter_of_isName hname, lower_of_isName hname]
  rfl

end TestScribe.Markup
