import TestScribe.Markup.Tree
import TestScribe.Proofs.Markup.Tags

/-!
# Lists of trees

The contents of a document, or of an element, are a list of trees. Three things are said of
such lists. They are sound when they can be written plainly and read back (`Sound`). They
can be reworked: each text and the attributes of each element are replaced, and the shape
stays (`rework`). And the elements among them, without what is deeper, are a list of their
own (`elementsOf`), which is all that finding the way through a document looks at.
-/

namespace TestScribe.Markup

/-! ## Sound trees -/

/-- Trees that can be written plainly: the names are plain, no content is raw, attributes
do not repeat, and elements that can have no content have none. -/
inductive Sound : List Tree → Prop
  | nil : Sound []
  | text {s : Text} {ts : List Tree} (hs : Sound ts) : Sound (.text s :: ts)
  | element {name : Text} {as : Attributes} {children ts : List Tree} (hname : isName name = true)
      (hraw : rawElements.contains name = false) (hnames : ∀ a ∈ as, isName a.1 = true)
      (hkeys : as.keys.Nodup) (hvoid : voidElements.contains name = true → children = [])
      (hchildren : Sound children) (hs : Sound ts) : Sound (.element name as children :: ts)

theorem Sound.append {ts us : List Tree} (ht : Sound ts) (hu : Sound us) : Sound (ts ++ us) := by
  induction ht with
  | nil => exact hu
  | text hs ih => exact .text ih
  | element hname hraw hnames hkeys hvoid hchildren hs _ ih =>
    exact .element hname hraw hnames hkeys hvoid hchildren ih

/-! ## Reworked trees -/

/-- The trees with their texts and attributes replaced, attributes with regard to the name
of their element. -/
def rework (text : Text → Text) (attributes : Text → Attributes → Attributes) :
    List Tree → List Tree
  | [] => []
  | .text s :: ts => .text (text s) :: rework text attributes ts
  | .special kind s :: ts => .special kind s :: rework text attributes ts
  | .element name as children :: ts =>
    .element name (attributes name as) (rework text attributes children) ::
      rework text attributes ts

section
variable {text : Text → Text} {attributes : Text → Attributes → Attributes}

/-- Reworked trees are sound where attributes keep their names. -/
theorem Sound.rework (hattributes : ∀ name as, (attributes name as).keys.Perm as.keys)
    {ts : List Tree} (h : Sound ts) : Sound (Markup.rework text attributes ts) := by
  induction h with
  | nil =>
    rw [Markup.rework]
    exact .nil
  | text hs ih =>
    rw [Markup.rework]
    exact .text ih
  | @element name as children ts hname hraw hnames hkeys hvoid hchildren hs ihc ih =>
    rw [Markup.rework]
    refine .element hname hraw ?_ ((hattributes name as).nodup_iff.mpr hkeys) ?_ ihc ih
    · intro a ha
      have hkey : a.1 ∈ as.keys :=
        (hattributes name as).mem_iff.mp (List.mem_map.mpr ⟨a, ha, rfl⟩)
      obtain ⟨b, hb, hba⟩ := List.mem_map.mp hkey
      exact hba ▸ hnames b hb
    · intro hv
      rw [hvoid hv, Markup.rework]

end

/-! ## Elements -/

/-- An element. -/
structure Element where
  name : Text
  attributes : Attributes
  children : List Tree

/-- The elements among trees. -/
def elementsOf : List Tree → List Element
  | [] => []
  | .element name as children :: ts => ⟨name, as, children⟩ :: elementsOf ts
  | _ :: ts => elementsOf ts

@[simp] theorem elementsOf_text (s : Text) (ts : List Tree) :
    elementsOf (.text s :: ts) = elementsOf ts := rfl

@[simp] theorem elementsOf_element (name : Text) (as : Attributes) (children ts : List Tree) :
    elementsOf (.element name as children :: ts) = ⟨name, as, children⟩ :: elementsOf ts := rfl

theorem elementsOf_append (ts us : List Tree) :
    elementsOf (ts ++ us) = elementsOf ts ++ elementsOf us := by
  induction ts with
  | nil => rfl
  | cons t ts ih =>
    cases t with
    | text s => exact ih
    | special kind s => exact ih
    | element name as children => exact congrArg (List.cons _) ih

theorem elementsOf_rework (text : Text → Text) (attributes : Text → Attributes → Attributes)
    (ts : List Tree) : elementsOf (rework text attributes ts) =
      (elementsOf ts).map fun e =>
        ⟨e.name, attributes e.name e.attributes, rework text attributes e.children⟩ := by
  induction ts with
  | nil =>
    rw [rework]
    rfl
  | cons t ts ih =>
    cases t with
    | text s =>
      rw [rework]
      exact ih
    | special kind s =>
      rw [rework]
      exact ih
    | element name as children =>
      rw [rework]
      exact congrArg (List.cons _) ih

/-! ## Searching -/

section
variable (name : Text)

theorem find?_go_nil : Tree.find?.go name [] = none := by rw [Tree.find?.go]

theorem find?_go_text (s : Text) (ts : List Tree) :
    Tree.find?.go name (.text s :: ts) = Tree.find?.go name ts := by
  rw [Tree.find?.go, Tree.find?, Option.none_or]

theorem find?_go_special (kind : Special) (s : Text) (ts : List Tree) :
    Tree.find?.go name (.special kind s :: ts) = Tree.find?.go name ts := by
  rw [Tree.find?.go, Tree.find?, Option.none_or]

/-- An element is searched before what follows it, and may be what is meant. -/
theorem find?_go_element (n : Text) (as : Attributes) (children ts : List Tree) :
    Tree.find?.go name (.element n as children :: ts) =
      (if n = name then some (as, children) else Tree.find?.go name children).or
        (Tree.find?.go name ts) := by
  rw [Tree.find?.go, Tree.find?]

end

/-! ## Elements at every depth -/

/-- The elements among trees and in them, in document order. -/
def elementsWithin : List Tree → List Element
  | [] => []
  | .text _ :: ts => elementsWithin ts
  | .special _ _ :: ts => elementsWithin ts
  | .element name as children :: ts =>
    ⟨name, as, children⟩ :: elementsWithin children ++ elementsWithin ts

theorem mem_elementsWithin_element {e : Element} {name : Text} {as : Attributes}
    {children ts : List Tree} : e ∈ elementsWithin (.element name as children :: ts) ↔
      e = ⟨name, as, children⟩ ∨ e ∈ elementsWithin children ∨ e ∈ elementsWithin ts := by
  rw [elementsWithin, List.mem_append, List.mem_cons, or_assoc]

theorem exists_mem_elementsWithin_element {p : Element → Prop} {name : Text} {as : Attributes}
    {children ts : List Tree} : (∃ e ∈ elementsWithin (.element name as children :: ts), p e) ↔
      p ⟨name, as, children⟩ ∨ (∃ e ∈ elementsWithin children, p e) ∨
        ∃ e ∈ elementsWithin ts, p e := by
  simp only [mem_elementsWithin_element, or_and_right, exists_or, exists_eq_left]

/-- An element within trees is one of them or within one of them. -/
theorem mem_elementsWithin_iff {e : Element} {ts : List Tree} :
    e ∈ elementsWithin ts ↔ ∃ c ∈ elementsOf ts, e = c ∨ e ∈ elementsWithin c.children := by
  induction ts with
  | nil =>
    rw [elementsWithin]
    simp [elementsOf]
  | cons t ts ih =>
    cases t with
    | text s =>
      rw [elementsWithin]
      exact ih
    | special kind s =>
      rw [elementsWithin]
      exact ih
    | element name as children =>
      simp only [mem_elementsWithin_element, elementsOf_element, List.mem_cons, or_and_right,
        exists_or, exists_eq_left, ih, or_assoc]

end TestScribe.Markup
