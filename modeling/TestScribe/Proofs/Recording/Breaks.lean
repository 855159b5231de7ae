import TestScribe.Recording
import TestScribe.Proofs.Markup.Rereading
import TestScribe.Proofs.Text.Replacing

/-!
# Line breaks in the written form

Between the two rounds of reading, every `<br/>` in the written form gives way to a token of
two characters. This is a replacement in a text, and it happens without regard to what the
text means. But in tags these five characters stand only for a line break without attributes,
so it is nearly the same as to replace these elements in the tree:

> `replace_writeDocument`: replacing the written line breaks gives the written form of the
> tree in which each line break without attributes is a text.

Not quite, since comments and raw content may hold the characters as well, and there they are
replaced, too (`unbroken`). And a special construct that ends with `>` must not end like a line
break (`EndsApart`), or its own end is taken for that of the line break.

In sound trees there are no such places, and only the elements are replaced (`breaksAsText`).
-/

namespace TestScribe.Recording

open Markup

/-- The name of a line break. -/
def breakName : Text := "br".toList

/-- The trees with each line break without attributes as a text. -/
def breaksAsText : List Tree → List Tree
  | [] => []
  | .text s :: ts => .text s :: breaksAsText ts
  | .special kind s :: ts => .special kind s :: breaksAsText ts
  | .element name as children :: ts =>
    (if name = breakName ∧ as = [] then .text breakToken
      else .element name as (breaksAsText children)) :: breaksAsText ts

/-- A text with its written line breaks as tokens. -/
def withTokens (s : Text) : Text := Text.replace strictBreak breakToken s

/-- The trees with each line break without attributes as a text, and with the written line
breaks replaced where the characters of a text stand for themselves. -/
def unbroken (raw : Bool) : List Tree → List Tree
  | [] => []
  | .text s :: ts => .text (if raw then withTokens s else s) :: unbroken raw ts
  | .special kind s :: ts => .special kind (withTokens s) :: unbroken raw ts
  | .element name as children :: ts =>
    (if name = breakName ∧ as = [] then .text breakToken
      else .element name as (unbroken (rawElements.contains name) children)) :: unbroken raw ts

/-- What comes before the last character of a written line break. -/
def breakStart : Text := "<br/".toList

/-- The special construct ends where it is written to end, whether line breaks are replaced or
not. A declaration holds no `>`, since it is read as an instruction when it was written, and
where the end is written `>` no line break has begun. -/
def EndsApart : Special → Text → Prop
  | .comment, _ => True
  | .cdata, _ => True
  | .declaration, s => '>' ∉ s
  | .doctype, s => ¬ breakStart <:+ s
  | .instruction, s => ¬ breakStart <:+ s

/-! ## Sound trees -/

theorem Sound.breaksAsText {ts : List Tree} (h : Sound ts) : Sound (breaksAsText ts) := by
  induction h with
  | nil =>
    rw [Recording.breaksAsText]
    exact .nil
  | text hs ih =>
    rw [Recording.breaksAsText]
    exact .text ih
  | @element name as children ts hname hraw hnames hkeys hvoid hchildren hs ihc ih =>
    rw [Recording.breaksAsText]
    split
    · exact .text ih
    · refine .element hname hraw hnames hkeys (fun hv => ?_) ihc ih
      rw [hvoid hv, Recording.breaksAsText]

/-- An element that stays one: any but a line break without attributes. -/
def isKept (e : Element) : Bool := !(e.name = breakName ∧ e.attributes = [] : Bool)

/-- The elements that are left, with what is left of their contents. -/
theorem elementsOf_breaksAsText (ts : List Tree) :
    elementsOf (breaksAsText ts) = ((elementsOf ts).filter isKept).map fun e =>
      ⟨e.name, e.attributes, breaksAsText e.children⟩ := by
  induction ts with
  | nil =>
    rw [breaksAsText]
    rfl
  | cons t ts ih =>
    cases t with
    | text s =>
      rw [breaksAsText]
      exact ih
    | special kind s =>
      rw [breaksAsText]
      exact ih
    | element name as children =>
      rw [breaksAsText, elementsOf_element, List.filter_cons]
      by_cases hb : name = breakName ∧ as = []
      · rw [if_pos hb, elementsOf_text, ih]
        simp [isKept, hb]
      · rw [if_neg hb, elementsOf_element, ih]
        simp [isKept, hb]

/-- In sound trees line breaks are written for elements only. -/
theorem unbroken_of_sound {ts : List Tree} (h : Sound ts) :
    unbroken false ts = breaksAsText ts := by
  induction h with
  | nil => rw [unbroken, breaksAsText]
  | text hs ih =>
    rw [unbroken, breaksAsText, ih, if_neg Bool.false_ne_true]
  | element hname hraw hnames hkeys hvoid hchildren hs ihc ih =>
    rw [unbroken, breaksAsText, ih, hraw, ihc]

theorem eachSpecial_of_sound {ts : List Tree} (h : Sound ts) (p : Special → Text → Prop) :
    EachSpecial p ts := by
  induction h with
  | nil => exact eachSpecial_nil
  | text hs ih => exact eachSpecial_text.mpr ih
  | element hname hraw hnames hkeys hvoid hchildren hs ihc ih =>
    exact eachSpecial_element.mpr ⟨ihc, ih⟩

/-! ## Where a line break is written -/

theorem less_not_mem_escapeChar (c : Char) : '<' ∉ escapeChar c := by
  unfold escapeChar
  split
  · decide
  · split
    · decide
    · split
      · decide
      · exact fun h => ‹¬ c = '<'› (List.mem_singleton.mp h).symm

theorem less_not_mem_escape (s : Text) : '<' ∉ escape s := by
  intro h
  obtain ⟨c, -, hc⟩ := List.mem_flatMap.mp h
  exact less_not_mem_escapeChar c hc

theorem less_not_mem_escapeValue (s : Text) : '<' ∉ escapeValue s := by
  intro h
  obtain ⟨c, -, hc⟩ := List.mem_flatMap.mp h
  unfold escapeValueChar at hc
  split at hc
  · revert hc
    decide
  · exact less_not_mem_escapeChar c hc

theorem less_not_mem_quote (s : Text) : '<' ∉ quote (escape s) := by
  unfold quote
  rw [replace_quot_escape]
  split
  · split
    · simp [less_not_mem_escapeValue s]
    · simp [less_not_mem_escape s]
  · simp [less_not_mem_escape s]

theorem less_not_mem_name {name : Text} (h : isName name = true) : '<' ∉ name := fun hm =>
  (nameChar_of_mem h _ hm).notLess rfl

theorem slash_not_mem_tagName {name : Text} (h : IsTagName name) : '/' ∉ name := fun hm =>
  absurd (h.chars _ hm) (by decide)

theorem slash_not_mem_attributeName {name : Text} (h : IsAttributeName name) : '/' ∉ name := by
  intro hm
  cases name with
  | nil => cases hm
  | cons c cs =>
    rcases List.mem_cons.mp hm with rfl | hm
    · have hstart : isAttributeStart '/' = true := h.head
      revert hstart
      decide
    · exact absurd (h.tail _ hm) (by decide)

/-- A start tag is spelled like a line break only if it is one. -/
theorem beginsWith_strictBreak {name a t close : Text} {as : Attributes}
    (hname : IsTagName name) (ha : SpellsAttributes a as) (ht : EndsTag t close)
    {rest : Text} (h : Text.afterPrefix? strictBreak ('<' :: (name ++ (a ++ t))) = some rest) :
    name = breakName ∧ as = [] := by
  have heq := Text.eq_append_of_afterPrefix? h
  have htail : name ++ (a ++ t) = 'b' :: 'r' :: '/' :: '>' :: rest := (List.cons.inj heq).2
  obtain ⟨htake, hdrop⟩ := takeWhile_isTagNameChar hname ha ht
  rw [htail] at htake hdrop
  refine ⟨htake.symm, ?_⟩
  have hslash : a ++ t = '/' :: '>' :: rest := hdrop.symm
  cases ha with
  | nil => rfl
  | cons hfirst has =>
    obtain ⟨hname, hmark, hinside, hvalue⟩ := hfirst
    cases hslash

/-! ## Pieces of the written form -/

theorem strictBreak_eq : strictBreak = '<' :: (['b', 'r'] ++ '/' :: ['>']) := rfl

theorem withTokens_break (s : Text) :
    withTokens (strictBreak ++ s) = breakToken ++ withTokens s := by
  rw [withTokens, strictBreak_eq]
  exact Text.replace_append _ _

theorem withTokens_nil : withTokens [] = [] := by
  rw [withTokens, Text.replace]

/-- Replacing goes over a piece in which no tag begins. -/
theorem withTokens_over {a : Text} (ha : '<' ∉ a) (s : Text) :
    withTokens (a ++ s) = a ++ withTokens s :=
  Text.replace_append_of_not_mem ha _ _ _

theorem withTokens_char {c : Char} (hc : c ≠ '<') (s : Text) :
    withTokens (c :: s) = c :: withTokens s :=
  Text.replace_cons_of_ne hc _ _ _

theorem withTokens_less {c : Char} (hc : c ≠ 'b') (s : Text) :
    withTokens ('<' :: c :: s) = '<' :: withTokens (c :: s) := by
  refine Text.replace_cons _ ?_
  rw [strictBreak_eq, Text.afterPrefix?, if_pos rfl]
  exact if_neg (Ne.symm hc)

/-- Replacing goes through a piece on its own if what follows does not end a line break. -/
theorem withTokens_append_cons {c : Char} (hc : c ∉ ['b', 'r', '/', '>']) (t s : Text) :
    withTokens (t ++ c :: s) = withTokens t ++ withTokens (c :: s) :=
  Text.replace_append_cons hc _ _ _

/-- Replacing goes over a part of a tag that holds no slash. -/
theorem withTokens_part {c : Char} {a : Text} (ha : '/' ∉ a) (hc : c ∉ ['b', 'r', '/'])
    (s : Text) : withTokens (a ++ c :: s) = a ++ withTokens (c :: s) := by
  rw [withTokens, withTokens, strictBreak_eq]
  exact Text.replace_over ha hc breakToken s

theorem withTokens_of_not_mem {s : Text} (h : '>' ∉ s) : withTokens s = s :=
  Text.replace_of_not_mem (by decide) h _

/-- Replacing goes over the attributes of a tag. -/
theorem withTokens_writeAttributes {name : Text} {as : Attributes} (h : IsAttributes as)
    (s : Text) : withTokens (writeAttributes name as ++ s) =
      writeAttributes name as ++ withTokens s := by
  have hnames : ∀ a ∈ restatedAttributes name as, '/' ∉ ' ' :: a.1 := by
    intro a ha
    have hkey : a.1 ∈ as.keys :=
      (keys_restatedAttributes name as).mem_iff.mp (List.mem_map.mpr ⟨a, ha, rfl⟩)
    obtain ⟨b, hb, hba⟩ := List.mem_map.mp hkey
    rw [List.mem_cons, not_or]
    exact ⟨by decide, slash_not_mem_attributeName (hba ▸ h.names b hb)⟩
  have hwritten : writeAttributes name as = (restatedAttributes name as).flatMap writeAttribute :=
    rfl
  rw [hwritten]
  generalize restatedAttributes name as = bs at hnames
  induction bs with
  | nil => rfl
  | cons a bs ih =>
    have hquote : '<' ∉ '=' :: quote (escape a.2) := by
      rw [List.mem_cons, not_or]
      exact ⟨by decide, less_not_mem_quote a.2⟩
    have hsplit : ∀ t : Text, writeAttribute a ++ t =
        (' ' :: a.1) ++ '=' :: (quote (escape a.2) ++ t) := by
      intro t
      simp [writeAttribute]
    rw [List.flatMap_cons, List.append_assoc, hsplit, hsplit,
      withTokens_part (hnames a List.mem_cons_self) (by decide), ← List.cons_append,
      withTokens_over hquote, ih fun b hb => hnames b (List.mem_cons_of_mem _ hb)]
    simp

section
variable {name : Text} {as : Attributes} (hname : IsTagName name) (has : IsAttributes as)
  (s : Text)
include hname

/-- Replacing goes over an end tag. -/
theorem withTokens_endTag : withTokens ('<' :: '/' :: (name ++ '>' :: s)) =
    '<' :: '/' :: (name ++ '>' :: withTokens s) := by
  rw [withTokens_less (by decide), withTokens_char (by decide),
    withTokens_part (slash_not_mem_tagName hname) (by decide), withTokens_char (by decide)]

include has

/-- Replacing goes over a start tag that does not end its element. -/
theorem withTokens_startTag :
    withTokens ('<' :: (name ++ (writeAttributes name as ++ '>' :: s))) =
      '<' :: (name ++ (writeAttributes name as ++ '>' :: withTokens s)) := by
  have hslash : '/' ∉ '<' :: name := by
    rw [List.mem_cons, not_or]
    exact ⟨by decide, slash_not_mem_tagName hname⟩
  -- Behind the name comes a blank or the end of the tag.
  have hhead : ∃ c t, writeAttributes name as ++ '>' :: s = c :: t ∧ c ∉ ['b', 'r', '/'] := by
    have hwritten : writeAttributes name as = (restatedAttributes name as).flatMap writeAttribute :=
      rfl
    rw [hwritten]
    cases restatedAttributes name as with
    | nil => exact ⟨'>', s, rfl, by decide⟩
    | cons a bs => exact ⟨' ', _, rfl, by decide⟩
  obtain ⟨c, t, hct, hc⟩ := hhead
  have htag : withTokens (('<' :: name) ++ (writeAttributes name as ++ '>' :: s)) =
      ('<' :: name) ++ withTokens (writeAttributes name as ++ '>' :: s) := by
    rw [hct]
    exact withTokens_part hslash hc t
  rw [← List.cons_append, htag, withTokens_writeAttributes has, withTokens_char (by decide)]
  rfl

/-- Replacing goes over the tag of an element that has no content, unless it is a line break
without attributes. -/
theorem withTokens_emptyTag (hvoid : voidElements.contains name = true)
    (hb : ¬ (name = breakName ∧ as = [])) :
    withTokens ('<' :: (name ++ (writeAttributes name as ++ '/' :: '>' :: s))) =
      '<' :: (name ++ (writeAttributes name as ++ '/' :: '>' :: withTokens s)) := by
  have hless : '<' ∉ name := by
    have hnames : ∀ n ∈ voidElements, '<' ∉ n := by decide
    exact hnames name (List.contains_iff_mem.mp hvoid)
  have hnone : Text.afterPrefix? strictBreak
      ('<' :: (name ++ (writeAttributes name as ++ '/' :: '>' :: s))) = none := by
    cases hfound : Text.afterPrefix? strictBreak
        ('<' :: (name ++ (writeAttributes name as ++ '/' :: '>' :: s))) with
    | none => rfl
    | some rest =>
      obtain ⟨hbreak, hnil⟩ := beginsWith_strictBreak hname (spellsAttributes_write name has.names)
        (.slash s) hfound
      exact absurd ⟨hbreak, restatedAttributes_eq_nil_iff.mp hnil⟩ hb
  rw [withTokens, Text.replace_cons _ hnone, ← withTokens, withTokens_over hless,
    withTokens_writeAttributes has, withTokens_char (by decide), withTokens_char (by decide)]

end

/-! ## Special constructs -/

/-- Replacing goes over what a special construct begins with. -/
theorem withTokens_head {c : Char} {first : Text} (hc : c ≠ 'b') (hfirst : '<' ∉ c :: first)
    (s : Text) : withTokens ('<' :: c :: first ++ s) = '<' :: c :: first ++ withTokens s := by
  show withTokens ('<' :: c :: (first ++ s)) = _
  rw [withTokens_less hc, ← List.cons_append, withTokens_over hfirst]
  rfl

/-- Replacing goes through a special construct whose end does not end a line break. -/
theorem withTokens_enclosed {c d : Char} (first last : Text) (hc : c ≠ 'b')
    (hfirst : '<' ∉ c :: first) (hd : d ∉ ['b', 'r', '/', '>']) (hlast : '<' ∉ d :: last)
    (t s : Text) : withTokens ('<' :: c :: first ++ t ++ d :: last ++ s) =
      '<' :: c :: first ++ withTokens t ++ d :: last ++ withTokens s := by
  have hsplit : ∀ u : Text, '<' :: c :: first ++ u ++ d :: last ++ s =
      '<' :: c :: first ++ (u ++ d :: (last ++ s)) := fun u => by simp
  rw [hsplit, withTokens_head hc hfirst, withTokens_append_cons hd, ← List.cons_append,
    withTokens_over hlast]
  simp

/-- Replacing goes over a special construct that ends with `>`. -/
theorem withTokens_closed {c : Char} {t : Text} (first : Text) (hc : c ≠ 'b')
    (hfirst : '<' ∉ c :: first) (ht : '>' ∉ t) (hend : ¬ breakStart <:+ t) (s : Text) :
    withTokens ('<' :: c :: first ++ t ++ '>' :: s) =
      '<' :: c :: first ++ withTokens t ++ '>' :: withTokens s := by
  have hup : withTokens (t ++ '>' :: s) = t ++ withTokens ('>' :: s) :=
    Text.replace_up_to (p := breakStart) (by decide) (by decide) ht hend breakToken s
  rw [List.append_assoc, withTokens_head hc hfirst, hup, withTokens_char (by decide),
    withTokens_of_not_mem ht, List.append_assoc]

theorem withTokens_writeSpecial {kind : Special} {inside : Text} (hs : MayHold kind inside)
    (hend : EndsApart kind inside) (s : Text) :
    withTokens (writeSpecial kind inside ++ s) =
      writeSpecial kind (withTokens inside) ++ withTokens s := by
  cases kind with
  | comment =>
    exact withTokens_enclosed ['-', '-'] ['-', '>'] (by decide : '!' ≠ 'b') (by decide)
      (by decide : '-' ∉ _) (by decide) inside s
  | cdata =>
    exact withTokens_enclosed "[CDATA[".toList [']', '>'] (by decide : '!' ≠ 'b') (by decide)
      (by decide : ']' ∉ _) (by decide) inside s
  | declaration =>
    exact withTokens_enclosed [] ['>'] (by decide : '?' ≠ 'b') (by decide) (by decide : '?' ∉ _)
      (by decide) inside s
  | doctype =>
    have hsplit : ∀ t u : Text, writeSpecial .doctype t ++ u =
        "<!DOCTYPE ".toList ++ t ++ '>' :: '\n' :: u := fun t u => List.append_assoc _ _ _
    have h := withTokens_closed "DOCTYPE ".toList (by decide : '!' ≠ 'b') (by decide) hs hend
      ('\n' :: s)
    rw [withTokens_char (by decide)] at h
    rw [hsplit, hsplit]
    exact h
  | instruction =>
    have hsplit : ∀ t u : Text, writeSpecial .instruction t ++ u =
        "<?".toList ++ t ++ '>' :: u := fun t u => List.append_assoc _ _ _
    rw [hsplit, hsplit]
    exact withTokens_closed [] (by decide : '?' ≠ 'b') (by decide) hs hend s

/-! ## Trees -/

/-- Replacing works on the trees: their written form, whatever follows it, becomes that of the
trees without line breaks. -/
theorem withTokens_write {ts : List Tree} (h : Grown ts) : ∀ (_ : EachSpecial EndsApart ts)
    (s : Text), withTokens (Tree.write.go false ts ++ s) =
      Tree.write.go false (unbroken false ts) ++ withTokens s := by
  induction h with
  | nil =>
    intro _ s
    rw [unbroken, Tree.write.go]
    rfl
  | @text t ts h ih =>
    intro hend s
    rw [eachSpecial_text] at hend
    rw [unbroken, if_neg Bool.false_ne_true, Tree.write.go, Tree.write.go, Tree.write,
      if_neg Bool.false_ne_true, List.append_assoc, withTokens_over (less_not_mem_escape t),
      ih hend, List.append_assoc]
  | @special kind t ts ht h ih =>
    intro hend s
    rw [eachSpecial_special] at hend
    rw [unbroken, Tree.write.go, Tree.write.go, Tree.write, Tree.write, List.append_assoc,
      withTokens_writeSpecial ht hend.1, ih hend.2, List.append_assoc]
  | @element name as children ts hname has hraw hvoid hchildren h ihc ih =>
    intro hend s
    rw [eachSpecial_element] at hend
    rw [unbroken, hraw]
    by_cases hv : voidElements.contains name = true
    · rw [hvoid hv, write_void _ _ _ _ hv]
      by_cases hb : name = breakName ∧ as = []
      · -- These are the characters that are replaced.
        obtain ⟨rfl, rfl⟩ := hb
        have hattributes : writeAttributes breakName [] = [] := by
          simp [writeAttributes, writtenAttributes]
        have htoken : escape breakToken = breakToken := by decide
        rw [if_pos ⟨rfl, rfl⟩, hattributes, Tree.write.go, Tree.write, if_neg Bool.false_ne_true,
          htoken, List.append_assoc, ← ih hend.2]
        exact withTokens_break _
      · have hnone : unbroken false [] = [] := by rw [unbroken]
        rw [if_neg hb, withTokens_emptyTag hname has _ hv hb, ih hend.2, hnone,
          write_void _ _ _ _ hv]
    · have hb : ¬ (name = breakName ∧ as = []) := fun hb => hv (by rw [hb.1]; decide)
      have hopen := Bool.eq_false_iff.mpr hv
      rw [if_neg hb, write_open _ _ _ _ _ hopen, write_open _ _ _ _ _ hopen, hraw,
        withTokens_startTag hname has, ihc hend.1, withTokens_endTag hname, ih hend.2]
  | @raw name as children ts hname has hraw hchildren h ih =>
    intro hend s
    rw [eachSpecial_element] at hend
    have hopen := voidElements_of_raw hraw
    have hb : ¬ (name = breakName ∧ as = []) := by
      rintro ⟨rfl, -⟩
      revert hraw
      decide
    -- Behind the content comes the `<` of the end tag.
    have hcontent : ∀ t, withTokens (Tree.write.go true children ++ '<' :: t) =
        Tree.write.go true (unbroken true children) ++ withTokens ('<' :: t) := by
      intro t
      cases hchildren with
      | nothing =>
        rw [unbroken, Tree.write.go]
        rfl
      | @text inside hinside =>
        have hwrite : ∀ u : Text, Tree.write.go true [.text u] = u := by
          intro u
          rw [Tree.write.go, Tree.write.go, Tree.write, if_pos rfl, List.append_nil]
        rw [unbroken, unbroken, if_pos rfl, hwrite, hwrite,
          withTokens_append_cons (by decide)]
    rw [unbroken, if_neg hb, write_open _ _ _ _ _ hopen, write_open _ _ _ _ _ hopen, hraw,
      withTokens_startTag hname has, hcontent, withTokens_endTag hname, ih hend.2]

/-- Replacing the written line breaks gives the written form of the trees without them. -/
theorem withTokens_writeDocument {ts : List Tree} (h : Grown ts)
    (hend : EachSpecial EndsApart ts) :
    withTokens (writeDocument ts) = writeDocument (unbroken false ts) := by
  have hreplace := withTokens_write h hend []
  rwa [List.append_nil, withTokens_nil, List.append_nil] at hreplace

theorem Sound.grown {ts : List Tree} (h : Sound ts) : Grown ts := by
  induction h with
  | nil => exact .nil
  | text hs ih => exact .text ih
  | element hname hraw hnames hkeys hvoid hchildren hs ihc ih =>
    refine .element (isTagName_of_isName hname) ⟨fun a ha => ?_, hkeys⟩ hraw hvoid ihc ih
    exact isAttributeName_of_isName (hnames a ha)

/-- In sound trees only the elements are replaced. -/
theorem replace_writeDocument {ts : List Tree} (h : Sound ts) :
    Text.replace strictBreak breakToken (writeDocument ts) = writeDocument (breaksAsText ts) := by
  have hreplace := withTokens_writeDocument (Sound.grown h) (eachSpecial_of_sound h EndsApart)
  rwa [unbroken_of_sound h] at hreplace

end TestScribe.Recording
