import TestScribe.Dictionary

/-!
# Outlines

The outline of a document is what is left of its tree once comments and the order
between differently named siblings are forgotten: an element knows its children only
by tag. An element that holds nothing but text is kept as that text.

The questions that the rest of the library asks of an outline are here: its children
of a tag, the first of them, an attribute, whether it is the empty placeholder, its
text, and the node at the end of a path of tags.
-/

namespace TestScribe

/-- An element of a document in outline. -/
inductive Outline
  /-- An element without attributes and child elements, whose text is not blank. -/
  | text (tag : Text) (text : Text)
  /-- Any other element: its attributes, its child elements filed by tag, the text
  directly inside, and all text inside. -/
  | element (tag : Text) (attributes : Dictionary Text Text)
      (groups : List (Text × List Outline)) (text : Text) (content : Text)
deriving Repr

namespace Outline

/-- The tag of the element. -/
def tag : Outline → Text
  | .text t _ => t
  | .element t _ _ _ _ => t

/-- The element with nothing in it. -/
def placeholder (tag : Text) : Outline := .element tag [] [] [] []

instance : Inhabited Outline := ⟨placeholder []⟩

/-- The child elements of a tag, in document order. -/
def children (o : Outline) (tag : Text) : List Outline :=
  match o with
  | .text _ _ => []
  | .element _ _ groups _ _ => (groups.lookup tag).getD []

/-- The first child element of a tag. -/
def first? (o : Outline) (tag : Text) : Option Outline := (o.children tag).head?

/-- The value of an attribute. -/
def attribute? (o : Outline) (name : Text) : Option Text :=
  match o with
  | .text _ _ => none
  | .element _ attributes _ _ _ => attributes.get? name

/-- The empty placeholder: no attributes, no child elements, no text of its own. -/
def isEmpty : Outline → Bool
  | .text _ _ => false
  | .element _ attributes groups own _ => attributes.isEmpty && groups.isEmpty && own.isEmpty

/-- All text of the element. -/
def content : Outline → Text
  | .text _ t => t
  | .element _ _ _ _ t => t

/-- The element reached by going to the first child of each tag in turn. -/
def walk (o : Outline) : List Text → Option Outline
  | [] => some o
  | tag :: path => (o.first? tag).bind fun child => child.walk path

/-- The text of a table cell; the empty placeholder has none. -/
def cellText? (o : Outline) : Option Text := if o.isEmpty then none else some o.content

end Outline
end TestScribe
