import Mathlib.Data.List.Forall2
import TestScribe.Action.Statement
import TestScribe.Proofs.Outline.Depicting
import TestScribe.Proofs.Recording.Navigation

/-!
# Markup in cells

A recorder writes a cell as plain text, but a cell can have attributes, and markup around parts
of its text. The outline of such a cell is another kind of node, and still the cell reads the
same: whatever it is, all its text is read in document order. The one exception is a bare cell
that is blank. It is the placeholder and reads as nothing, while blanks in a cell with attributes
or child elements are read as they are (`cellText_ofElement`).

> `cell_text_agrees_iff`: two cells with the same text read the same, unless it is blanks and
> just one of them is bare, which reads as nothing then and the other as the blanks; so rows of
> cells that read the same have the same statements.
-/

namespace TestScribe

namespace Markup.Element

instance (e : Element) : Decidable e.IsBare :=
  inferInstanceAs (Decidable (e.attributes = [] ∧ elementsOf e.children = []))

/-- The cells of a row. -/
def cells (row : Element) : List Element := row.childrenNamed "td".toList

/-- The two cells hold the same text and, if it is made of blanks, both are bare or neither
is. -/
def ReadsAs (a b : Element) : Prop :=
  a.wholeText = b.wholeText ∧
    (Text.blank a.wholeText = true → a.wholeText = [] ∨ (a.IsBare ↔ b.IsBare))

end Markup.Element

open Markup

namespace Action

/-- A cell reads as all its text, or as nothing if it is bare and blank. -/
theorem cellText_ofElement (e : Element) : cellText (.ofElement e) =
    if e.IsBare ∧ Text.blank e.wholeText = true then [] else e.wholeText := by
  have hdepicts := Outline.depicts_ofElement e
  have hown : e.IsBare → e.wholeText = e.ownText := Element.wholeText_of_isBare
  rw [cellText, Outline.cellText?]
  by_cases h : e.IsBare ∧ Text.blank e.wholeText = true
  · have hempty := hdepicts.isEmpty_iff.mpr ⟨h.1, hown h.1 ▸ h.2⟩
    rw [if_pos h, hempty]
    rfl
  · have hempty : (Outline.ofElement e).isEmpty = false := by
      refine Bool.eq_false_iff.mpr fun hempty => h ?_
      obtain ⟨hbare, hblank⟩ := hdepicts.isEmpty_iff.mp hempty
      exact ⟨hbare, (hown hbare).symm ▸ hblank⟩
    rw [if_neg h, hempty]
    exact hdepicts.content_eq hempty

/-- Two cells with the same text read the same unless it is made of blanks and one of them is
bare. -/
theorem cellText_eq_iff {a b : Element} (h : a.wholeText = b.wholeText) :
    cellText (.ofElement a) = cellText (.ofElement b) ↔ a.ReadsAs b := by
  rw [cellText_ofElement, cellText_ofElement, ← h, Element.ReadsAs, and_iff_right h]
  by_cases hblank : Text.blank a.wholeText = true
  · simp only [hblank, and_true, forall_const]
    by_cases ha : a.IsBare <;> by_cases hb : b.IsBare <;> simp [ha, hb]
  · simp [hblank]

theorem cellText_eq_of_readsAs {a b : Element} (h : a.ReadsAs b) :
    cellText (.ofElement a) = cellText (.ofElement b) := (cellText_eq_iff h.1).mpr h

/-- Rows of cells that read the same have the same action. -/
theorem ofRow?_eq_of_readsAs {row row' : Element}
    (h : List.Forall₂ Element.ReadsAs row.cells row'.cells) :
    ofRow? (.ofElement row) = ofRow? (.ofElement row') := by
  have hchildren : ∀ r : Element, (Outline.ofElement r).children "td".toList =
      r.cells.map Outline.ofElement := fun r => Outline.children_ofElement r _
  rw [ofRow?, ofRow?, hchildren, hchildren]
  generalize row.cells = cs at h ⊢
  generalize row'.cells = cs' at h ⊢
  -- An action is made of three cells.
  cases h with
  | nil => rfl
  | cons hcommand h =>
    cases h with
    | nil => rfl
    | cons htarget h =>
      cases h with
      | nil => rfl
      | cons hvalue h =>
        simp only [List.map_cons, cellText_eq_of_readsAs hcommand,
          cellText_eq_of_readsAs htarget, cellText_eq_of_readsAs hvalue]

/-- Recordings whose rows read the same have the same statements. -/
theorem translate_eq_of_readsAs {rows rows' : List Element}
    (h : List.Forall₂ (fun r r' => List.Forall₂ Element.ReadsAs r.cells r'.cells) rows rows') :
    translate (rows.map Outline.ofElement) = translate (rows'.map Outline.ofElement) := by
  induction h with
  | nil => rfl
  | cons hrow _ ih =>
    unfold translate at ih ⊢
    rw [List.map_cons, List.map_cons, List.flatMap_cons, List.flatMap_cons, rowLines, rowLines,
      ofRow?_eq_of_readsAs hrow, ih]

end Action

namespace Recording

/-- Two cells with the same text read the same exactly if the text can be seen, or is empty, or
both cells are bare, or neither is. If it is blank and one of them alone is bare, this one reads
as nothing, and the other one as the blank text. Documents whose rows have cells that read the
same have the same statements, whatever attributes and markup the cells have. -/
theorem cell_text_agrees_iff :
    (∀ a b : Element, a.wholeText = b.wholeText →
      (Action.cellText (.ofElement a) = Action.cellText (.ofElement b) ↔
        Text.blank a.wholeText = false ∨ a.wholeText = [] ∨ (a.IsBare ↔ b.IsBare)) ∧
      (Text.blank a.wholeText = true → a.IsBare → ¬ b.IsBare →
        Action.cellText (.ofElement a) = [] ∧
          Action.cellText (.ofElement b) = a.wholeText)) ∧
      ∀ root root' : Element,
        List.Forall₂ (fun r r' => List.Forall₂ Element.ReadsAs r.cells r'.cells)
          root.rows root'.rows →
        Action.translate (Recording.rows root.rootOutline) =
          Action.translate (Recording.rows root'.rootOutline) := by
  refine ⟨fun a b h => ⟨?_, fun hblank ha hb => ⟨?_, ?_⟩⟩, fun root root' h => ?_⟩
  · rw [Action.cellText_eq_iff h, Element.ReadsAs, and_iff_right h]
    cases Text.blank a.wholeText <;> simp
  · rw [Action.cellText_ofElement, if_pos ⟨ha, hblank⟩]
  · rw [Action.cellText_ofElement, if_neg fun hempty => hb hempty.1, h]
  · rw [rows_rootOutline, rows_rootOutline]
    exact Action.translate_eq_of_readsAs h

/-- A cell in a document. -/
def cell (attributes : Attributes) (children : List Tree) : Element :=
  ⟨"td".toList, attributes, children⟩

/-- A row that types what its third cell says. -/
def typingInto (value : Element) : Element :=
  ⟨"tr".toList, [], [(cell [] [.text "type".toList]).tree, (cell [] [.text "id=a".toList]).tree,
    value.tree]⟩

/-- The attribute of a marked cell. -/
def mark : Attributes := [("class".toList, "x".toList)]

/-- A text with an attribute and markup reads the same as without. -/
theorem cell_text_agrees_marked :
    Action.cellText (.ofElement (cell mark [.text "a".toList,
        .element "b".toList [] [.text "b".toList]])) =
      Action.cellText (.ofElement (cell [] [.text "ab".toList])) := by
  have hmarked : (cell mark [.text "a".toList,
      .element "b".toList [] [.text "b".toList]]).wholeText = "ab".toList := by
    simp [Element.wholeText, cell, plainTextsWithin]
  have hplain : (cell [] [.text "ab".toList]).wholeText = "ab".toList := by
    simp [Element.wholeText, cell, plainTextsWithin]
  have hvisible : Text.blank "ab".toList = false := by decide
  have hsame := (cell_text_agrees_iff.1 _ _ (hmarked.trans hplain.symm)).1
  exact hsame.mpr (.inl (hmarked ▸ hvisible))

/-- A blank cell without attributes reads as nothing, and with an attribute as its blank. -/
theorem cell_text_depends_on_mark :
    Tree.read "<td> </td><td class='x'> </td>".toList =
        .ok [(cell [] [.text [' ']]).tree, (cell mark [.text [' ']]).tree] ∧
      (cell [] [.text [' ']]).wholeText = (cell mark [.text [' ']]).wholeText ∧
      Action.cellText (.ofElement (cell [] [.text [' ']])) = [] ∧
      Action.cellText (.ofElement (cell mark [.text [' ']])) = [' '] ∧
      Action.translate [.ofElement (typingInto (cell [] [.text [' ']]))] =
        ["$I->fillField('#a', '');".toList] ∧
      Action.translate [.ofElement (typingInto (cell mark [.text [' ']]))] =
        ["$I->fillField('#a', ' ');".toList] := by
  have htokens : tokens "<td> </td><td class='x'> </td>".toList =
      .ok [.opening "td".toList [], .text [' '], .closing "td".toList,
        .opening "td".toList mark, .text [' '], .closing "td".toList] := by
    decide +kernel
  refine ⟨?_, rfl, by decide +kernel, by decide +kernel, by decide +kernel, by decide +kernel⟩
  rw [Tree.read, htokens]
  rfl

end Recording
end TestScribe
