import TestScribe.Outline.Filing
import TestScribe.Proofs.Markup.Forest

/-!
# Outlines and elements

The questions asked of an outline are answered by the element that it is the outline of.
Its children of a tag are the outlines of the element's children of that name, in document
order (`children_ofElement`); the filing by tag only finds them faster. So a path through
the outline is a path through the elements:

> `walk_ofElement`: walking an outline ends at the outline of the element where walking the
> element ends.

The root of a document is an outline of its own kind, and the same is true of it.
-/

namespace TestScribe

namespace Markup.Element

/-- The child elements of a name, in document order. -/
def childrenNamed (e : Element) (name : Text) : List Element :=
  (elementsOf e.children).filter fun c => c.name = name

/-- The element reached by going to the first child of each name in turn. -/
def walk (e : Element) : List Text → Option Element
  | [] => some e
  | name :: path => (e.childrenNamed name).head?.bind fun child => child.walk path

end Markup.Element

open Markup

/-- Without the elements named otherwise, the first element of a name is found at once. -/
theorem find?_go_of_elementsOf {name : Text} {ts : List Tree} {e : Element} {es : List Element}
    (h : elementsOf ts = e :: es) (hname : e.name = name) :
    Tree.find?.go name ts = some (e.attributes, e.children) := by
  induction ts with
  | nil => cases h
  | cons t ts ih =>
    cases t with
    | text s =>
      rw [find?_go_text]
      exact ih h
    | special kind s =>
      rw [find?_go_special]
      exact ih h
    | element n as children =>
      obtain ⟨rfl, -⟩ := List.cons.inj h
      rw [find?_go_element, if_pos hname, Option.some_or]

namespace Outline

/-- The outline of an element. -/
def ofElement (e : Element) : Outline :=
  ofParts e.name e.attributes (ofTree?.elements e.children) (Tree.directText e.children)
    (Tree.fullText.go e.children)

theorem elements_eq_map (ts : List Tree) :
    ofTree?.elements ts = (elementsOf ts).map ofElement := by
  induction ts with
  | nil =>
    rw [ofTree?.elements]
    rfl
  | cons t ts ih =>
    cases t with
    | text s =>
      rw [ofTree?.elements, ofTree?]
      exact ih
    | special kind s =>
      rw [ofTree?.elements, ofTree?]
      exact ih
    | element name as children =>
      rw [ofTree?.elements, ofTree?]
      exact congrArg (List.cons _) ih

theorem tag_ofElement (e : Element) : (ofElement e).tag = e.name := by
  unfold ofElement ofParts
  split
  · split
    · rfl
    · rfl
  · rfl

/-- An element with nothing but a text that can be seen is that text. -/
theorem ofElement_text (name : Text) {s : Text} (h : Text.blank s = false) :
    ofElement ⟨name, [], [.text s]⟩ = .text name s := by
  have hfull : Tree.fullText.go [.text s] = s := by
    rw [Tree.fullText.go, Tree.fullText, Tree.fullText.go, List.append_nil]
  have helements : ofTree?.elements [.text s] = [] := elements_eq_map _
  have hleaf : (List.isEmpty ([] : Attributes) && List.isEmpty ([] : List Outline)) = true := rfl
  rw [ofElement]
  dsimp only
  rw [hfull, helements, Tree.directText, Tree.directText, List.append_nil, ofParts,
    if_pos hleaf, if_neg (by rw [h]; exact Bool.false_ne_true)]

/-! ## Filing -/

/-- Taking the groups of one tag away leaves the other groups where they are. -/
theorem lookup_filter_ne {s t : Text} (h : t ≠ s) (groups : List (Text × List Outline)) :
    (groups.filter fun g => g.1 ≠ s).lookup t = groups.lookup t := by
  induction groups with
  | nil => rfl
  | cons g groups ih =>
    obtain ⟨u, os⟩ := g
    by_cases hu : u = s
    · have htu : (t == u) = false := beq_false_of_ne (hu ▸ h)
      rw [List.filter_cons_of_neg (by simp [hu]), ih, List.lookup_cons, htu]
    · rw [List.filter_cons_of_pos (by simp [hu]), List.lookup_cons, List.lookup_cons, ih]

/-- Under a tag are filed the outlines with this tag. -/
theorem lookup_fileByTag (os : List Outline) (t : Text) :
    ((fileByTag os).lookup t).getD [] = os.filter fun o => o.tag = t := by
  induction os with
  | nil => rfl
  | cons o os ih =>
    rw [fileByTag, List.lookup_cons]
    -- The group of the first tag is made anew in front, and the others are kept.
    by_cases ht : t = o.tag
    · rw [beq_iff_eq.mpr ht, List.filter_cons_of_pos (by simp [ht]), ← ih, ht]
      rfl
    · have htag : (t == o.tag) = false := beq_false_of_ne ht
      rw [htag, List.filter_cons_of_neg (by simp [Ne.symm ht]), ← ih, lookup_filter_ne ht]

/-! ## Children and paths -/

/-- The outlines of the child elements with a tag. -/
theorem filter_tag_elements (e : Element) (tag : Text) :
    ((fileByTag (ofTree?.elements e.children)).lookup tag).getD [] =
      (e.childrenNamed tag).map ofElement := by
  have htag : ((fun o => decide (o.tag = tag)) ∘ ofElement) = fun e => decide (e.name = tag) := by
    funext c
    rw [Function.comp_apply, tag_ofElement]
  rw [lookup_fileByTag, elements_eq_map, List.filter_map, htag]
  rfl

/-- The children of the outline are the outlines of the children. -/
theorem children_ofElement (e : Element) (tag : Text) :
    (ofElement e).children tag = (e.childrenNamed tag).map ofElement := by
  rw [← filter_tag_elements, ofElement, ofParts]
  split
  · -- Without child elements nothing is filed.
    rename_i hnone
    rw [Bool.and_eq_true, List.isEmpty_iff, List.isEmpty_iff] at hnone
    rw [hnone.2]
    split
    · rfl
    · rfl
  · rfl

theorem walk_cons (o : Outline) (tag : Text) (path : List Text) :
    o.walk (tag :: path) = (o.children tag).head?.bind fun child => child.walk path := rfl

/-- A path through the outline of an element is a path through the element. -/
theorem walk_ofElement (path : List Text) : ∀ e : Element,
    (ofElement e).walk path = (e.walk path).map ofElement := by
  induction path with
  | nil => exact fun e => rfl
  | cons tag path ih =>
    intro e
    rw [walk_cons, children_ofElement, Element.walk]
    cases e.childrenNamed tag with
    | nil => rfl
    | cons c cs => exact ih c

/-- The same is true of the root of a document. -/
theorem walk_ofRoot (e : Element) (tag : Text) (path : List Text) :
    (ofRoot e.attributes e.children).walk (tag :: path) =
      (e.walk (tag :: path)).map ofElement := by
  have hchildren : (ofRoot e.attributes e.children).children tag =
      (e.childrenNamed tag).map ofElement := filter_tag_elements e tag
  rw [walk_cons, hchildren, Element.walk]
  cases e.childrenNamed tag with
  | nil => rfl
  | cons c cs => exact walk_ofElement path c

/-- An attribute of the outline is one of the element. -/
theorem attribute?_ofElement {e : Element} (h : e.attributes ≠ []) (name : Text) :
    (ofElement e).attribute? name = e.attributes.get? name := by
  unfold ofElement ofParts
  rw [if_neg]
  · rfl
  · rw [Bool.and_eq_true, List.isEmpty_iff]
    exact fun hnone => h hnone.1

end Outline
end TestScribe
