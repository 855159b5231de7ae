import TestScribe.Text.Blank
import TestScribe.Outline.Basic
import TestScribe.Markup.Tree

/-!
# Filing a tree by tag

Turns the tree of a document into its outline. The children of an element are filed
under their tags, the tags in the order in which they first appear.
-/

namespace TestScribe.Outline

open Markup

/-- Elements filed under their tags: the tags in order of first appearance, and under
each tag its elements in order. -/
def fileByTag : List Outline → List (Text × List Outline)
  | [] => []
  | o :: os =>
    let groups := fileByTag os
    (o.tag, o :: (groups.lookup o.tag).getD []) :: groups.filter fun g => g.1 ≠ o.tag

/-- A text, or nothing in place of a blank one. -/
def unlessBlank (s : Text) : Text := if Text.blank s then [] else s

/-- The outline of an element, from the outlines of its child elements. Without
attributes and child elements it is its text, or the placeholder if that is blank. -/
def ofParts (name : Text) (attributes : Attributes) (elements : List Outline)
    (text content : Text) : Outline :=
  if attributes.isEmpty && elements.isEmpty then
    if Text.blank text then placeholder name else .text name text
  else .element name attributes (fileByTag elements) (unlessBlank text) content

/-- The outline of a tree: none for text and special constructs, one for an element. -/
def ofTree? : Tree → Option Outline
  | .text _ => none
  | .special _ _ => none
  | .element name attributes children =>
    some (ofParts name attributes (elements children) (Tree.directText children)
      (Tree.fullText.go children))
where
  /-- The outlines of the elements among the trees. -/
  elements : List Tree → List Outline
    | [] => []
    | t :: ts =>
      match ofTree? t with
      | none => elements ts
      | some o => o :: elements ts

/-- The outline of a document from its root: always an element, whatever it holds. -/
def ofRoot (attributes : Attributes) (children : List Tree) : Outline :=
  .element "html".toList attributes (fileByTag (ofTree?.elements children))
    (unlessBlank (Tree.directText children)) (Tree.fullText.go children)

end TestScribe.Outline
