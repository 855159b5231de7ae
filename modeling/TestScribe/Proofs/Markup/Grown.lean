import TestScribe.Proofs.Markup.Growth
import TestScribe.Proofs.Markup.Lexing

/-!
# What grows from a document

The tree of a document has the names, the attributes and the special constructs that a scan
can find, and besides that a shape of its own: an element that can have no content has none,
and an element with raw content has at most one text in it, which does not end it (`Grown`).

> `grown_of_read`: the tree of every document is like this.

Elements without content and elements with raw content never stay open, whatever the document
does: the end of the former is at their start tag, and the latter come with their end tag. So
all that is on the stack between two tokens are ordinary elements (`WellGrown`), and this is
kept by every token. Only at the very end of a document can an element with raw content be
left open; nothing is in it then, and it is closed like an empty one (`finish_opening`).
-/

namespace TestScribe.Markup

/-! ## Trees -/

/-- The contents of an element with raw content: nothing, or a text that does not end it. -/
inductive RawContent (name : Text) : List Tree → Prop
  | nothing : RawContent name []
  | text {s : Text} (hs : Unclosed (rawEnd? name) s) : RawContent name [.text s]

/-- Trees as they grow from documents. -/
inductive Grown : List Tree → Prop
  | nil : Grown []
  | text {s : Text} {ts : List Tree} (h : Grown ts) : Grown (.text s :: ts)
  | special {kind : Special} {s : Text} {ts : List Tree} (hs : MayHold kind s) (h : Grown ts) :
      Grown (.special kind s :: ts)
  | element {name : Text} {as : Attributes} {children ts : List Tree} (hname : IsTagName name)
      (has : IsAttributes as) (hraw : rawElements.contains name = false)
      (hvoid : voidElements.contains name = true → children = []) (hchildren : Grown children)
      (h : Grown ts) : Grown (.element name as children :: ts)
  | raw {name : Text} {as : Attributes} {children ts : List Tree} (hname : IsTagName name)
      (has : IsAttributes as) (hraw : rawElements.contains name = true)
      (hchildren : RawContent name children) (h : Grown ts) :
      Grown (.element name as children :: ts)

theorem Grown.append {ts us : List Tree} (ht : Grown ts) (hu : Grown us) : Grown (ts ++ us) := by
  induction ht with
  | nil => exact hu
  | text h ih => exact .text ih
  | special hs h ih => exact .special hs ih
  | element hname has hraw hvoid hchildren h _ ih =>
    exact .element hname has hraw hvoid hchildren ih
  | raw hname has hraw hchildren h ih => exact .raw hname has hraw hchildren ih

/-- An element without content. -/
theorem grown_empty {name : Text} {as : Attributes} (hname : IsTagName name)
    (has : IsAttributes as) : Grown [.element name as []] := by
  cases hraw : rawElements.contains name with
  | true => exact .raw hname has hraw .nothing .nil
  | false => exact .element hname has hraw (fun _ => rfl) .nil .nil

theorem voidElements_of_raw {name : Text} (h : rawElements.contains name = true) :
    voidElements.contains name = false := by
  rcases eq_of_raw h with rfl | rfl
  · decide
  · decide

/-! ## Condensed texts -/

theorem condense_cases (s : Text) : condense s = s ∨ condense s = ['\n'] ∨ condense s = [' '] := by
  unfold condense
  split
  · split
    · exact .inr (.inl rfl)
    · exact .inr (.inr rfl)
  · exact .inl rfl

/-- Condensing makes no end. -/
theorem Unclosed.condense {closes : Text → Option Text} (hc : Stable closes)
    (hline : closes ['\n'] = none) (hblank : closes [' '] = none) {s : Text}
    (h : Unclosed closes s) : Unclosed closes (condense s) := by
  rcases condense_cases s with he | he | he
  · rw [he]
    exact h
  · rw [he]
    exact unclosed_cons.mpr ⟨hline, hc.unclosed_nil⟩
  · rw [he]
    exact unclosed_cons.mpr ⟨hblank, hc.unclosed_nil⟩

theorem mayHold_condense {kind : Special} {s : Text} (h : MayHold kind s) :
    MayHold kind (condense s) := by
  have hmore : '>' ∉ s → '>' ∉ condense s := by
    intro hs
    rcases condense_cases s with he | he | he
    · rw [he]
      exact hs
    · rw [he]
      decide
    · rw [he]
      decide
  cases kind with
  | comment => exact h.condense closer_comment.toStable rfl rfl
  | cdata => exact h.condense closer_section.toStable rfl rfl
  | declaration => trivial
  | doctype => exact hmore h
  | instruction => exact hmore h

theorem rawContent_ended {name s : Text} (hraw : rawElements.contains name = true)
    (h : Unclosed (rawEnd? name) s) (keep : Bool) : RawContent name (ended keep s) := by
  unfold ended
  split
  · exact .nothing
  · split
    · exact .text h
    · have hraw' := closer_raw hraw
      exact .text (h.condense hraw'.toStable (hraw'.start [] (by decide))
        (hraw'.start [] (by decide)))

/-! ## Trees under construction -/

/-- An element that stays open between two tokens. -/
structure OpenFrame (f : Frame) : Prop where
  name : IsTagName f.name
  attributes : IsAttributes f.attributes
  notRaw : rawElements.contains f.name = false
  notVoid : voidElements.contains f.name = false
  children : Grown f.children.reverse

/-- A tree under construction as it is between two tokens. -/
structure WellGrown (g : Growing) : Prop where
  stack : ∀ f ∈ g.stack, OpenFrame f
  contents : Grown g.contents.reverse
  closed : ∀ name ∈ g.closed, voidElements.contains name = true

namespace WellGrown

open Growing

variable {g : Growing}

theorem add {t : Tree} (ht : Grown [t]) (h : WellGrown g) : WellGrown (g.add t) := by
  obtain ⟨stack, contents, pending, closed⟩ := g
  cases stack with
  | nil =>
    refine ⟨h.stack, ?_, h.closed⟩
    show Grown (t :: contents).reverse
    rw [List.reverse_cons]
    exact h.contents.append ht
  | cons f fs =>
    refine ⟨fun f' hf' => ?_, h.contents, h.closed⟩
    rcases List.mem_cons.mp hf' with rfl | hf'
    · obtain ⟨hname, has, hraw, hvoid, hchildren⟩ := h.stack f List.mem_cons_self
      refine ⟨hname, has, hraw, hvoid, ?_⟩
      show Grown (t :: f.children).reverse
      rw [List.reverse_cons]
      exact hchildren.append ht
    · exact h.stack f' (List.mem_cons_of_mem _ hf')

theorem endText (h : WellGrown g) : WellGrown g.endText := by
  unfold Growing.endText
  split
  · exact h
  · exact WellGrown.add (.text .nil) ⟨h.stack, h.contents, h.closed⟩

theorem closeInnermost (h : WellGrown g) : WellGrown g.closeInnermost := by
  obtain ⟨stack, contents, pending, closed⟩ := g
  cases stack with
  | nil => exact h
  | cons f fs =>
    obtain ⟨hname, has, hraw, hvoid, hchildren⟩ := h.stack f List.mem_cons_self
    have hvoid' : voidElements.contains f.name = true → f.children.reverse = [] := by
      intro hv
      rw [hvoid] at hv
      cases hv
    exact WellGrown.add (.element hname has hraw hvoid' hchildren .nil)
      ⟨fun f' hf' => h.stack f' (List.mem_cons_of_mem _ hf'), h.contents, h.closed⟩

theorem closeMany (n : Nat) : ∀ {g : Growing}, WellGrown g → WellGrown (g.closeMany n) := by
  induction n with
  | zero => exact fun h => h
  | succ n ih => exact fun h => ih h.closeInnermost

theorem closeElement (name : Text) (h : WellGrown g) : WellGrown (g.closeElement name) := by
  unfold Growing.closeElement
  dsimp only
  split
  · exact h.endText
  · exact h.endText.closeMany _

theorem endTag (name : Text) (h : WellGrown g) : WellGrown (g.endTag name) := by
  unfold Growing.endTag
  split
  · exact ⟨h.stack, h.contents, fun n hn => h.closed n (List.mem_of_mem_erase hn)⟩
  · exact h.closeElement name

theorem openElement {name : Text} {as : Attributes} (hname : IsTagName name)
    (has : IsAttributes as) (hraw : rawElements.contains name = false)
    (hvoid : voidElements.contains name = false) (h : WellGrown g) :
    WellGrown (g.openElement name as) := by
  refine ⟨fun f hf => ?_, h.endText.contents, h.endText.closed⟩
  rcases List.mem_cons.mp hf with rfl | hf
  · exact ⟨hname, has, hraw, hvoid, .nil⟩
  · exact h.endText.stack f hf

theorem finish (h : WellGrown g) : Grown g.finish := (h.endText.closeMany _).contents

end WellGrown

/-! ## Elements that do not stay open -/

namespace Growing

/-- An element with raw content is added with its text. -/
theorem take_raw {name : Text} (as : Attributes) (s : Text) {g : Growing}
    (hraw : rawElements.contains name = true) (hclosed : g.closed.contains name = false) :
    ((((g.take (.opening name as)).take (.text s)).take (.closing name)) =
      g.endText.add (.element name as (ended (g.openElement name as).keepsSpacing s))) := by
  obtain ⟨stack, contents, hend⟩ := exists_endText_eq g
  have hnone : ¬ g.closed.contains name = true := by
    rw [hclosed]
    exact Bool.false_ne_true
  rw [take_opening as g (voidElements_of_raw hraw), openElement, hend, take, take, endTag,
    if_neg hnone]
  dsimp only
  have hread := endText_eq ⟨⟨name, as, []⟩ :: stack, contents, s.reverse ++ [], g.closed⟩
  rw [List.append_nil, List.reverse_reverse, clear, addAll_of_stack, List.append_nil] at hread
  rw [List.append_nil, closeElement_of_endText hread rfl]
  exact closeElement_innermost name as _ stack contents g.closed

/-- An element that the document ends in is closed as if it were empty. -/
theorem finish_opening {name : Text} (as : Attributes) (g : Growing)
    (hopen : voidElements.contains name = false) :
    (g.take (.opening name as)).finish = (g.take (.emptyTag name as)).finish := by
  obtain ⟨stack, contents, hend⟩ := exists_endText_eq g
  rw [take_opening as g hopen, take, closeElement_openElement, openElement, hend]
  have hpending : ((⟨stack, contents, [], g.closed⟩ : Growing).add (.element name as [])).endText =
      (⟨stack, contents, [], g.closed⟩ : Growing).add (.element name as []) :=
    if_pos (pending_add _ _)
  unfold finish
  rw [hpending]
  dsimp only
  rw [length_stack_add]
  rfl

end Growing

/-! ## Documents -/

/-- Whatever state the tokens of a document come in, the tree that is finished after them is
like this. -/
theorem Lexed.grown_finish {ts : List Token} (h : Lexed ts) :
    ∀ {g : Growing}, WellGrown g → Grown (ts.foldl Growing.take g).finish := by
  induction h with
  | nil => exact fun hg => hg.finish
  | text h ih => exact fun hg => ih ⟨hg.stack, hg.contents, hg.closed⟩
  | @special kind s ts hs h ih =>
    intro g hg
    refine ih (hg.endText.add (.special ?_ .nil))
    unfold Growing.settle
    split
    · exact hs
    · exact mayHold_condense hs
  | closing h ih => exact fun hg => ih (hg.endTag _)
  | @emptyTag name as ts hname has h ih =>
    intro g hg
    rw [List.foldl_cons, Growing.take, Growing.closeElement_openElement]
    exact ih (hg.endText.add (grown_empty hname has))
  | @opening name as ts hname has hraw h ih =>
    intro g hg
    rw [List.foldl_cons, Growing.take]
    by_cases hv : voidElements.contains name = true
    · -- It is closed at once, and its end tag may still come.
      rw [if_pos hv, Growing.closeElement_openElement]
      have hadded := hg.endText.add (grown_empty hname has)
      refine ih ⟨hadded.stack, hadded.contents, fun n hn => ?_⟩
      rcases List.mem_cons.mp hn with rfl | hn
      · exact hv
      · exact hadded.closed n hn
    · rw [if_neg hv]
      exact ih (hg.openElement hname has hraw (Bool.eq_false_iff.mpr hv))
  | @raw name s as ts hname has hraw hs h ih =>
    intro g hg
    have hclosed : g.closed.contains name = false := by
      refine Bool.eq_false_iff.mpr fun hmem => ?_
      have hvoid := hg.closed name (List.contains_iff_mem.mp hmem)
      rw [voidElements_of_raw hraw] at hvoid
      cases hvoid
    rw [List.foldl_cons, List.foldl_cons, List.foldl_cons, Growing.take_raw as s hraw hclosed]
    exact ih (hg.endText.add (.raw hname has hraw (rawContent_ended hraw hs _) .nil))
  | @cut name as hname has hraw =>
    intro g hg
    rw [List.foldl_cons, List.foldl_nil, Growing.finish_opening as g (voidElements_of_raw hraw),
      Growing.take, Growing.closeElement_openElement]
    exact (hg.endText.add (grown_empty hname has)).finish

/-- The tree of any document. -/
theorem grown_of_read {s : Text} {ts : List Tree} (h : Tree.read s = .ok ts) : Grown ts := by
  obtain ⟨tokens, htokens, rfl⟩ := exists_of_map_eq_ok h
  exact (lexed_of_tokens htokens).grown_finish ⟨nofun, .nil, nofun⟩

end TestScribe.Markup
