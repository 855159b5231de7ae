import TestScribe.Proofs.Markup.References
import TestScribe.Proofs.Markup.Scanning
import TestScribe.Proofs.Markup.Tags

/-!
# Markup that is read as it is meant

`Spells` says what a carefully written document means: its text, character by character,
each as it stands or as a reference, and its tags. How a reference or an attribute is
written is left open, so the relation holds of the ASCII form of a document and of its
written form alike. Such a document is read completely and never rejected:

> `read_of_spells`: the tree is that of the tokens which the document spells.
-/

namespace TestScribe.Markup

/-- The text of a character: the character itself, or a reference to it. -/
inductive SpellsChar : Text → Char → Prop
  | plain {c : Char} (hc : isPlain c = true) : SpellsChar [c] c
  | named {c d : Char} {name : Text} (hd : isLetter d = true)
      (hname : (d :: name).all isReferenceNameChar = true)
      (hlookup : CharacterName.lookup (d :: name) = some [c]) :
      SpellsChar ('&' :: (d :: name ++ [';'])) c
  | decimal (c : Char) : SpellsChar (Reference.decimal c) (Reference.ofNumber c.toNat)

/-- The text of a document, and the tokens that it means. -/
inductive Spells : Text → List Token → Prop
  | nil : Spells [] []
  | char {t s : Text} {c : Char} {ts : List Token} (hc : SpellsChar t c) (hs : Spells s ts) :
      Spells (t ++ s) (.text [c] :: ts)
  | opening {name a s : Text} {as : Attributes} {ts : List Token} (hname : isName name = true)
      (hraw : rawElements.contains name = false) (ha : SpellsAttributes a as)
      (hkeys : as.keys.Nodup) (hs : Spells s ts) :
      Spells ('<' :: (name ++ (a ++ '>' :: s))) (.opening name as :: ts)
  | emptyTag {name a t s : Text} {as : Attributes} {ts : List Token} (hname : isName name = true)
      (ha : SpellsAttributes a as) (hkeys : as.keys.Nodup) (ht : EndsTag t ('/' :: '>' :: s))
      (hs : Spells s ts) : Spells ('<' :: (name ++ (a ++ t))) (.emptyTag name as :: ts)
  | closing {name s : Text} {ts : List Token} (hname : isName name = true) (hs : Spells s ts) :
      Spells ('<' :: '/' :: (name ++ '>' :: s)) (.closing name :: ts)

/-! ## Steps -/

/-- A `<` before a letter begins a start tag. -/
theorem lessThan_of_startTag {last : Bool} {name s : Text} {tokens : List Token} {rest : Text}
    (hname : IsTagName name)
    (htag : startTag (name ++ s) = .ok (.complete tokens rest)) :
    step last '<' (name ++ s) = .ok (continueAfter tokens rest) := by
  cases name with
  | nil => cases hname.head
  | cons c cs =>
    have hc : isLetter c = true := hname.head
    rw [step, if_pos rfl, List.cons_append, lessThan, if_pos hc, ← List.cons_append, htag]
    rfl

section
variable (last : Bool) {name a s t : Text} {as : Attributes}

theorem step_opening (hname : IsTagName name) (hraw : rawElements.contains name = false)
    (ha : SpellsAttributes a as) (hkeys : as.keys.Nodup) :
    step last '<' (name ++ (a ++ '>' :: s)) = .ok (.go [.opening name as] s) := by
  rw [lessThan_of_startTag hname (startTag_of_spells hname ha hkeys s), continueAfter, if_neg]
  rw [hraw]
  exact Bool.false_ne_true

theorem step_emptyTag (hname : IsTagName name) (ha : SpellsAttributes a as)
    (hkeys : as.keys.Nodup) (ht : EndsTag t ('/' :: '>' :: s)) :
    step last '<' (name ++ (a ++ t)) = .ok (.go [.emptyTag name as] s) := by
  rw [lessThan_of_startTag hname (startTag_of_spells_empty hname ha hkeys ht)]
  rfl

theorem step_closing (hname : IsTagName name) :
    step last '<' ('/' :: (name ++ '>' :: s)) = .ok (.go [.closing (endName name)] s) := by
  rw [step, if_pos rfl, lessThan, if_neg (by decide), if_pos rfl, endTag_of_isTagName hname]
  rfl

end

/-! ## Whole documents -/

/-- The text of a character can be put in front. -/
theorem reads_spellsChar {t s : Text} {c : Char} {ts : List Token} (hc : SpellsChar t c)
    (h : Reads s ts) : Reads (t ++ s) (.text [c] :: ts) := by
  cases hc with
  | plain hc => exact h.plain hc
  | @named c d name hd hname hlookup =>
    have h' := Reads.step (fun last => step_named last hd hname hlookup s) h
    simpa using h'
  | decimal c =>
    have h' := Reads.step (fun last => step_decimal last c s) h
    simpa [Reference.decimal] using h'

/-- A document is read as the tokens that it spells. -/
theorem reads_of_spells {s : Text} {ts : List Token} (h : Spells s ts) : Reads s ts := by
  induction h with
  | nil => exact Reads.nil
  | char hc hs ih => exact reads_spellsChar hc ih
  | opening hname hraw ha hkeys hs ih =>
    exact Reads.step (fun last => step_opening last (isTagName_of_isName hname) hraw ha hkeys) ih
  | emptyTag hname ha hkeys ht hs ih =>
    exact Reads.step (fun last => step_emptyTag last (isTagName_of_isName hname) ha hkeys ht) ih
  | @closing name s ts hname hs ih =>
    have hstep := fun last => step_closing last (s := s) (isTagName_of_isName hname)
    rw [endName_of_isName hname] at hstep
    exact Reads.step hstep ih

/-- The tree of a document is that of the tokens which it spells. -/
theorem read_of_spells {s : Text} {ts : List Token} (h : Spells s ts) :
    Tree.read s = .ok (Tree.ofTokens ts) := read_of_reads (reads_of_spells h)

end TestScribe.Markup
