import TestScribe.Generate.File
import TestScribe.Proofs.Outline.Elements

/-!
# Finding the parts of a recording

The outline of a document files the children of an element by tag, and an element that is
nothing but text becomes that text. None of this matters for what is looked for in a
recording: the address and the rows that the outline gives are those that are found in the
document itself, by going from an element to its first child of a name, without ever coming
back. The statement is about any element as the root, and every document that can be read
has one (`exists_root_of_outline`).

> `extraction_navigates`: the address of an outline is the address of the document, and its
> rows are the outlines of the rows of the document, in order; so the failures are those of a
> document without address or without rows, and documents with the same rows have the same
> statements.
-/

namespace TestScribe

namespace Markup.Element

/-- The first child element of a name. -/
def first? (e : Element) (name : Text) : Option Element := (e.childrenNamed name).head?

/-- The address of a document: that of the first link in the first head. -/
def address? (root : Element) : Option Text := do
  let head ← root.first? "head".toList
  let link ← head.first? "link".toList
  link.attributes.get? "href".toList

/-- The part of a document that holds its rows. -/
def rowsPart? (root : Element) : Option Element := do
  let body ← root.first? "body".toList
  let table ← body.first? "table".toList
  table.first? "tbody".toList

/-- The rows of a document. -/
def rows (root : Element) : List Element :=
  match root.rowsPart? with
  | none => []
  | some part => part.childrenNamed "tr".toList

/-- The element as a tree. -/
def tree (e : Element) : Tree := .element e.name e.attributes e.children

/-- The outline of a document with this root. -/
def rootOutline (root : Element) : Outline := .ofRoot root.attributes root.children

/-! ## Paths -/

theorem walk_cons (e : Element) (name : Text) (path : List Text) :
    e.walk (name :: path) = (e.first? name).bind fun child => child.walk path := rfl

theorem walk_one (e : Element) (a : Text) : e.walk [a] = e.first? a := by
  rw [walk_cons]
  cases e.first? a with
  | none => rfl
  | some c => rfl

theorem walk_two (e : Element) (a b : Text) :
    e.walk [a, b] = (e.first? a).bind fun c => c.first? b := by
  simp only [walk_cons e, walk_one]

theorem walk_three (e : Element) (a b c : Text) :
    e.walk [a, b, c] = (e.first? a).bind fun x => (x.first? b).bind fun y => y.first? c := by
  simp only [walk_cons e, walk_two]

end Markup.Element

open Markup

namespace Outline

/-- An element without attributes has none in outline, whatever the outline is. -/
theorem attribute?_ofElement_of_nil {e : Element} (h : e.attributes = []) (name : Text) :
    (ofElement e).attribute? name = none := by
  unfold ofElement ofParts
  rw [h]
  split
  · split
    · rfl
    · rfl
  · rfl

/-- The attributes of the outline are those of the element. -/
theorem attribute?_eq_get? (e : Element) (name : Text) :
    (ofElement e).attribute? name = e.attributes.get? name := by
  by_cases h : e.attributes = []
  · rw [attribute?_ofElement_of_nil h, h]
    rfl
  · exact attribute?_ofElement h name

theorem ofTree?_tree (e : Element) : ofTree? e.tree = some (ofElement e) := by
  rw [Element.tree, ofTree?]
  rfl

end Outline

namespace Recording

/-- The outline of every document that can be read is that of an element. -/
theorem exists_root_of_outline {markup : Text} {o : Outline}
    (h : Recording.outline markup = .ok o) : ∃ root : Element, root.rootOutline = o := by
  unfold Recording.outline at h
  split at h
  · cases h
  · rename_i strict _
    cases hread : Tree.read strict with
    | error e =>
      rw [hread] at h
      cases h
    | ok ts =>
      rw [hread] at h
      obtain rfl := Except.ok.inj h
      unfold Recording.rootOutline
      split
      · rename_i attributes children _
        exact ⟨⟨"html".toList, attributes, children⟩, rfl⟩
      · exact ⟨⟨"html".toList, [], ts⟩, rfl⟩

/-- The address of the outline is that of the document. -/
theorem address?_rootOutline (root : Element) :
    Recording.address? root.rootOutline = root.address? := by
  rw [Recording.address?, addressPath, Element.rootOutline, Outline.walk_ofRoot,
    Element.walk_two, Element.address?]
  cases root.first? "head".toList with
  | none => rfl
  | some head =>
    show ((head.first? "link".toList).map Outline.ofElement).bind _ = (head.first? _).bind _
    cases head.first? "link".toList with
    | none => rfl
    | some link => exact Outline.attribute?_eq_get? link _

/-- The rows of the outline are the outlines of the rows of the document. -/
theorem rows_rootOutline (root : Element) :
    Recording.rows root.rootOutline = root.rows.map Outline.ofElement := by
  have hpart : root.walk rowsPath = root.rowsPart? := Element.walk_three root _ _ _
  rw [Recording.rows, rowsPath, Element.rootOutline, Outline.walk_ofRoot, ← rowsPath, hpart,
    Element.rows]
  cases root.rowsPart? with
  | none => rfl
  | some part => exact Outline.children_ofElement part _

/-- What an outline without address or without rows comes to, and what any other does. -/
theorem statements_of_outline {markup : Text} {o : Outline}
    (h : Recording.outline markup = .ok o) :
    Generate.statements markup =
      if Recording.address? o = none then .error (.failure .noAddress)
      else if Recording.rows o = [] then .error (.failure .noRows)
      else .ok (Action.translate (Recording.rows o)) := by
  rw [Generate.statements, h]
  dsimp only
  cases Recording.address? o with
  | none => rfl
  | some address =>
    dsimp only
    cases Recording.rows o with
    | nil => rfl
    | cons row rows => rfl

/-- What is looked for in the outline of a document is what is found in the document
itself: its address, and its rows as the outlines of all rows there, in order. So a document
is refused for its address or its rows exactly where there are none, and nothing but the rows
decides about the statements. -/
theorem extraction_navigates (root : Element) :
    Recording.address? root.rootOutline = root.address? ∧
      (Recording.rows root.rootOutline).map some =
        root.rows.map (fun row => Outline.ofTree? row.tree) ∧
      (∀ markup, Recording.outline markup = .ok root.rootOutline →
        (Generate.statements markup = .error (.failure .noAddress) ↔ root.address? = none) ∧
        (Generate.statements markup = .error (.failure .noRows) ↔
          root.address? ≠ none ∧ root.rows = []) ∧
        ∀ ls, Generate.statements markup = .ok ls ↔ root.address? ≠ none ∧ root.rows ≠ [] ∧
          ls = Action.translate (Recording.rows root.rootOutline)) ∧
      ∀ other : Element, other.rows = root.rows →
        Action.translate (Recording.rows other.rootOutline) =
          Action.translate (Recording.rows root.rootOutline) := by
  have hrows := rows_rootOutline root
  refine ⟨address?_rootOutline root, ?_, ?_, ?_⟩
  · rw [hrows, List.map_map]
    exact List.map_congr_left fun row _ => (Outline.ofTree?_tree row).symm
  · intro markup hread
    have hnone : Recording.rows root.rootOutline = [] ↔ root.rows = [] := by
      rw [hrows, List.map_eq_nil_iff]
    rw [statements_of_outline hread, address?_rootOutline]
    by_cases haddress : root.address? = none
    · simp [haddress]
    · rw [if_neg haddress]
      by_cases hempty : root.rows = []
      · rw [if_pos (hnone.mpr hempty)]
        simp [haddress, hempty]
      · rw [if_neg fun h => hempty (hnone.mp h)]
        simp [haddress, hempty, eq_comm]
  · intro other h
    rw [hrows, rows_rootOutline, h]

end Recording
end TestScribe
