import TestScribe.Proofs.Recording.Navigation
import TestScribe.Proofs.Recording.Rounds

/-!
# Places in a document

A place is given by a way from the root: at each step a name, and which of the children of
this name is meant. Every element has such a place, and both rounds of reading keep it:

> `at?_outline_recorded`: where the root of a recorded document has an element that is no
> line break, the outline has the outline of this element, digested.

The root is the first element called `html`, however deep, or the document itself where there
is none (`rootOf`). Line breaks are what digesting can take away, so no place may lead through
one; but a line break has no contents, so no place does.
-/

namespace TestScribe

namespace Markup.Element

/-- The element at a place: at each step a name, and the number of the child with this
name. -/
def at? (e : Element) : List (Text × Nat) → Option Element
  | [] => some e
  | (name, i) :: path => (e.childrenNamed name)[i]?.bind fun child => child.at? path

theorem at?_cons_eq_some_iff {e c : Element} {name : Text} {i : Nat} {path : List (Text × Nat)} :
    e.at? ((name, i) :: path) = some c ↔
      ∃ child, (e.childrenNamed name)[i]? = some child ∧ child.at? path = some c :=
  Option.bind_eq_some_iff

theorem at?_cons_congr {e e' : Element} (h : elementsOf e.children = elementsOf e'.children)
    (step : Text × Nat) (path : List (Text × Nat)) :
    e.at? (step :: path) = e'.at? (step :: path) := by
  rw [at?, at?, childrenNamed, childrenNamed, h]

/-- Without contents an element has no place in it but its own. -/
theorem eq_nil_of_at? {e c : Element} {path : List (Text × Nat)} (he : e.children = [])
    (h : e.at? path = some c) : path = [] := by
  cases path with
  | nil => rfl
  | cons step path =>
    rw [at?, childrenNamed, he] at h
    cases h

/-- Among the children with its name, a child has a number. -/
theorem exists_getElem?_childrenNamed {e c : Element} (h : c ∈ elementsOf e.children) :
    ∃ i : Nat, (e.childrenNamed c.name)[i]? = some c :=
  List.getElem?_of_mem (List.mem_filter.mpr ⟨h, decide_eq_true rfl⟩)

/-- Every element within trees has a place in one of them. -/
theorem exists_at?_of_mem {e : Element} {ts : List Tree} (h : e ∈ elementsWithin ts) :
    ∃ c ∈ elementsOf ts, ∃ path, c.at? path = some e := by
  induction ts using elementsWithin.induct with
  | case1 =>
    rw [elementsWithin] at h
    cases h
  | case2 s ts ih =>
    rw [elementsWithin] at h
    exact ih h
  | case3 kind s ts ih =>
    rw [elementsWithin] at h
    exact ih h
  | case4 name as children ts ihc ih =>
    rcases mem_elementsWithin_element.mp h with rfl | h | h
    · exact ⟨_, List.mem_cons_self, [], rfl⟩
    · obtain ⟨c, hc, path, hpath⟩ := ihc h
      obtain ⟨i, hi⟩ := exists_getElem?_childrenNamed (e := ⟨name, as, children⟩) hc
      exact ⟨_, List.mem_cons_self, (c.name, i) :: path,
        at?_cons_eq_some_iff.mpr ⟨c, hi, hpath⟩⟩
    · obtain ⟨c, hc, hplace⟩ := ih h
      exact ⟨c, List.mem_cons_of_mem _ hc, hplace⟩

/-- What has a place below an element is within it. -/
theorem mem_elementsWithin_of_at? {e : Element} (path : List (Text × Nat)) :
    ∀ {c : Element} {step : Text × Nat}, c.at? (step :: path) = some e →
      e ∈ elementsWithin c.children := by
  induction path with
  | nil =>
    intro c step h
    obtain ⟨child, hchild, hrest⟩ := at?_cons_eq_some_iff.mp h
    have hmem := (List.mem_filter.mp (List.mem_of_getElem? hchild)).1
    exact mem_elementsWithin_iff.mpr ⟨child, hmem, .inl (Option.some.inj hrest).symm⟩
  | cons step' path ih =>
    intro c step h
    obtain ⟨child, hchild, hrest⟩ := at?_cons_eq_some_iff.mp h
    have hmem := (List.mem_filter.mp (List.mem_of_getElem? hchild)).1
    exact mem_elementsWithin_iff.mpr ⟨child, hmem, .inr (ih hrest)⟩

/-- The elements within an element are those that have a place below it. -/
theorem mem_elementsWithin_children_iff {e c : Element} : e ∈ elementsWithin c.children ↔
    ∃ step path, c.at? (step :: path) = some e := by
  constructor
  · intro h
    obtain ⟨child, hchild, path, hpath⟩ := exists_at?_of_mem h
    obtain ⟨i, hi⟩ := exists_getElem?_childrenNamed hchild
    exact ⟨(child.name, i), path, at?_cons_eq_some_iff.mpr ⟨child, hi, hpath⟩⟩
  · rintro ⟨step, path, h⟩
    exact mem_elementsWithin_of_at? path h

end Markup.Element

open Markup

namespace Outline

/-- The outline at a place. -/
def at? (o : Outline) : List (Text × Nat) → Option Outline
  | [] => some o
  | (tag, i) :: path => (o.children tag)[i]?.bind fun child => child.at? path

/-- The outline of an element has the outlines of what the element has, at the same
places. -/
theorem at?_ofElement (path : List (Text × Nat)) : ∀ e : Element,
    (ofElement e).at? path = (e.at? path).map ofElement := by
  induction path with
  | nil => exact fun e => rfl
  | cons step path ih =>
    intro e
    rw [at?, Element.at?, children_ofElement, List.getElem?_map]
    cases (e.childrenNamed step.1)[step.2]? with
    | none => rfl
    | some c => exact ih c

/-- So has the outline of a document, below the root. -/
theorem at?_rootOutline (root : Element) (step : Text × Nat) (path : List (Text × Nat)) :
    root.rootOutline.at? (step :: path) = (root.at? (step :: path)).map ofElement := by
  have hchildren : root.rootOutline.children step.1 =
      (root.childrenNamed step.1).map ofElement := filter_tag_elements root step.1
  rw [at?, Element.at?, hchildren, List.getElem?_map]
  cases (root.childrenNamed step.1)[step.2]? with
  | none => rfl
  | some c => exact at?_ofElement path c

/-- Below its root, the outline of a document has the tags that elements within the root have
as their names. -/
theorem forall_tag_rootOutline {root : Element} {P : Text → Prop} (hroot : P "html".toList) :
    (∀ path o, root.rootOutline.at? path = some o → P o.tag) ↔
      ∀ e ∈ elementsWithin root.children, P e.name := by
  constructor
  · intro h e he
    obtain ⟨step, path, hplace⟩ := Element.mem_elementsWithin_children_iff.mp he
    have ho := at?_rootOutline root step path
    rw [hplace] at ho
    exact tag_ofElement e ▸ h _ _ ho
  · intro h path o ho
    cases path with
    | nil =>
      obtain rfl := Option.some.inj ho
      exact hroot
    | cons step path =>
      rw [at?_rootOutline] at ho
      obtain ⟨e, hplace, rfl⟩ := Option.map_eq_some_iff.mp ho
      rw [tag_ofElement]
      exact h e (Element.mem_elementsWithin_children_iff.mpr ⟨step, path, hplace⟩)

end Outline

/-! ## Parts of sound trees -/

namespace Markup

theorem Sound.of_mem_elementsOf {ts : List Tree} (h : Sound ts) :
    ∀ e ∈ elementsOf ts, Sound [e.tree] := by
  induction h with
  | nil => exact nofun
  | text hs ih => exact ih
  | element hname hraw hnames hkeys hvoid hchildren hs _ ih =>
    intro e he
    rcases List.mem_cons.mp he with rfl | he
    · exact .element hname hraw hnames hkeys hvoid hchildren .nil
    · exact ih e he

theorem Sound.children {e : Element} (h : Sound [e.tree]) : Sound e.children := by
  obtain ⟨name, as, children⟩ := e
  cases h with
  | element hname hraw hnames hkeys hvoid hchildren hs => exact hchildren

/-- A line break has no contents. -/
theorem Sound.children_break {e : Element} (h : Sound [e.tree])
    (hbreak : e.name = Recording.breakName) : e.children = [] := by
  obtain ⟨name, as, children⟩ := e
  obtain rfl : name = Recording.breakName := hbreak
  have hvoidName : voidElements.contains Recording.breakName = true := by decide
  cases h with
  | element hname hraw hnames hkeys hvoid hchildren hs => exact hvoid hvoidName

end Markup

namespace Recording

/-! ## Through both rounds -/

/-- What is at a place before digesting is there afterwards, digested; only a line break can
be gone. -/
theorem at?_digestedElement {c : Element} (hc : c.name ≠ breakName) (path : List (Text × Nat)) :
    ∀ {e : Element} (keep : Bool), Sound [e.tree] → e.at? path = some c →
      ∃ keep', (digestedElement keep e).at? path = some (digestedElement keep' c) := by
  induction path with
  | nil =>
    intro e keep _ he
    obtain rfl := Option.some.inj he
    exact ⟨keep, rfl⟩
  | cons step path ih =>
    obtain ⟨name, i⟩ := step
    intro e keep hsound he
    obtain ⟨child, hchild, hrest⟩ := Element.at?_cons_eq_some_iff.mp he
    have hmem := List.mem_filter.mp (List.mem_of_getElem? hchild)
    have hchildname : child.name = name := of_decide_eq_true hmem.2
    have hchildsound : Sound [child.tree] := hsound.children.of_mem_elementsOf _ hmem.1
    have hname : name ≠ breakName := by
      rintro rfl
      -- The way would end at the line break, and `c` would be one.
      obtain rfl := Element.eq_nil_of_at? (hchildsound.children_break hchildname) hrest
      obtain rfl := Option.some.inj hrest
      exact hc hchildname
    obtain ⟨keep', hdigested⟩ := ih (preformatted.contains e.name || keep) hchildsound hrest
    refine ⟨keep', Element.at?_cons_eq_some_iff.mpr ⟨_, ?_, hdigested⟩⟩
    rw [childrenNamed_digestedElement_of_ne keep hname, List.getElem?_map, hchild]
    rfl

/-! ## The root -/

/-- Searching an element: it may be meant itself, or something in it. -/
def findIn (name : Text) (e : Element) : Option (Attributes × List Tree) :=
  if e.name = name then some (e.attributes, e.children) else Tree.find?.go name e.children

/-- Searching trees is searching the elements among them in order. -/
theorem find?_go_eq (name : Text) (ts : List Tree) :
    Tree.find?.go name ts = (elementsOf ts).findSome? (findIn name) := by
  induction ts with
  | nil =>
    rw [find?_go_nil]
    rfl
  | cons t ts ih =>
    cases t with
    | text s =>
      rw [find?_go_text]
      exact ih
    | special kind s =>
      rw [find?_go_special]
      exact ih
    | element n as children =>
      rw [find?_go_element, ih, elementsOf_element, List.findSome?_cons]
      show (findIn name ⟨n, as, children⟩).or _ = _
      cases findIn name ⟨n, as, children⟩ with
      | none => rfl
      | some found => rfl

/-- What is found in sound trees is sound. -/
theorem Sound.of_find?_go {name : Text} {as : Attributes} {children ts : List Tree}
    (h : Sound ts) (hfound : Tree.find?.go name ts = some (as, children)) :
    Sound [.element name as children] := by
  induction h with
  | nil =>
    rw [find?_go_nil] at hfound
    cases hfound
  | text hs ih =>
    rw [find?_go_text] at hfound
    exact ih hfound
  | @element n as' children' ts hname hraw hnames hkeys hvoid hchildren hs ihc ih =>
    rw [find?_go_element] at hfound
    rcases Option.or_eq_some_iff.mp hfound with hhead | ⟨-, hrest⟩
    · by_cases hn : n = name
      · rw [if_pos hn] at hhead
        cases hhead
        exact hn ▸ .element hname hraw hnames hkeys hvoid hchildren .nil
      · rw [if_neg hn] at hhead
        exact ihc hhead
    · exact ih hrest

/-- Searching digested trees that begin with an element: it is searched first, digested, unless
it is gone. -/
theorem find?_go_digested_element (name : Text) (keep : Bool) (e : Element) (ts : List Tree) :
    Tree.find?.go name (digested keep (e.tree :: ts)) =
      (if isKept e then findIn name (digestedElement keep e) else none).or
        (Tree.find?.go name (digested keep ts)) := by
  have helements : elementsOf (e.tree :: ts) = e :: elementsOf ts := rfl
  rw [find?_go_eq, elementsOf_digested, helements, List.filter_cons,
    find?_go_eq name (digested keep ts), elementsOf_digested]
  by_cases hkept : isKept e = true
  · rw [if_pos hkept, if_pos hkept, List.map_cons, List.findSome?_cons]
    cases findIn name (digestedElement keep e) with
    | none => rfl
    | some found => rfl
  · rw [if_neg hkept, if_neg hkept, Option.none_or]

/-- The first element of a name is the same one after digesting, digested. -/
theorem find?_go_digested {name : Text} (hname : name ≠ breakName) {ts : List Tree}
    (h : Sound ts) : ∀ keep, ∃ keep', Tree.find?.go name (digested keep ts) =
      (Tree.find?.go name ts).map fun found =>
        ((digestedElement keep' ⟨name, found.1, found.2⟩).attributes,
          (digestedElement keep' ⟨name, found.1, found.2⟩).children) := by
  induction h with
  | nil =>
    intro keep
    refine ⟨keep, ?_⟩
    rw [find?_go_eq, elementsOf_digested, find?_go_nil]
    rfl
  | @text s ts hs ih =>
    intro keep
    obtain ⟨keep', hrest⟩ := ih keep
    refine ⟨keep', ?_⟩
    rw [find?_go_eq, elementsOf_digested, elementsOf_text, ← elementsOf_digested, ← find?_go_eq,
      hrest, find?_go_text]
  | @element n as children ts _ _ _ _ hvoid _ _ ihc ih =>
    intro keep
    obtain ⟨keep', hrest⟩ := ih keep
    have hsearch := find?_go_digested_element name keep ⟨n, as, children⟩ ts
    rw [Element.tree, hrest] at hsearch
    rw [hsearch, find?_go_element]
    by_cases hn : n = name
    · -- The first element is the one that is meant.
      obtain rfl := hn
      have hkept : isKept ⟨n, as, children⟩ = true := by
        simp [isKept, hname]
      have hin : findIn n (digestedElement keep ⟨n, as, children⟩) =
          some ((digestedElement keep ⟨n, as, children⟩).attributes,
            (digestedElement keep ⟨n, as, children⟩).children) := if_pos rfl
      refine ⟨keep, ?_⟩
      rw [if_pos hkept, hin, if_pos rfl]
      rfl
    · rw [if_neg hn]
      by_cases hkept : isKept ⟨n, as, children⟩ = true
      · obtain ⟨inner, hinner⟩ := ihc (preformatted.contains n || keep)
        have hin : findIn name (digestedElement keep ⟨n, as, children⟩) =
            Tree.find?.go name (digested (preformatted.contains n || keep) children) := if_neg hn
        rw [if_pos hkept, hin, hinner]
        cases Tree.find?.go name children with
        | none => exact ⟨keep', rfl⟩
        | some found => exact ⟨inner, rfl⟩
      · -- What is gone is a line break, and nothing was in it.
        have hbreak : n = breakName :=
          Classical.byContradiction fun hne => hkept (by simp [isKept, hne])
        have hvoidName : voidElements.contains breakName = true := by decide
        have hempty : children = [] := hvoid (hbreak ▸ hvoidName)
        refine ⟨keep', ?_⟩
        rw [if_neg hkept, hempty, find?_go_nil, Option.none_or, Option.none_or]

/-- The root of a document: the first element of its name, or the document itself. -/
def rootOf (ts : List Tree) : Element :=
  match Tree.find?.go rootName ts with
  | some (attributes, children) => ⟨rootName, attributes, children⟩
  | none => ⟨rootName, [], ts⟩

theorem name_rootOf (ts : List Tree) : (rootOf ts).name = rootName := by
  unfold rootOf
  split
  · rfl
  · rfl

theorem rootOutline_eq (ts : List Tree) : rootOutline ts = (rootOf ts).rootOutline := by
  unfold rootOutline rootOf
  rw [show "html".toList = rootName from rfl]
  cases Tree.find?.go rootName ts with
  | none => rfl
  | some found => rfl

theorem rootOf_digested {ts : List Tree} (h : Sound ts) :
    ∃ keep, rootOf (digested false ts) = digestedElement keep (rootOf ts) := by
  obtain ⟨keep, hfound⟩ := find?_go_digested (by decide : rootName ≠ breakName) h false
  unfold rootOf
  rw [hfound]
  cases Tree.find?.go rootName ts with
  | none =>
    have hattributes : restatedAttributes rootName (arriveAttributes rootName []) = [] :=
      restatedAttributes_eq_nil_iff.mpr rfl
    have hplain : (preformatted.contains rootName || false) = false := by decide
    refine ⟨false, ?_⟩
    rw [digestedElement]
    dsimp only
    rw [hattributes, hplain]
    rfl
  | some found => exact ⟨keep, rfl⟩

theorem sound_rootOf {ts : List Tree} (h : Sound ts) : Sound [(rootOf ts).tree] := by
  unfold rootOf
  cases hfound : Tree.find?.go rootName ts with
  | none =>
    have hopen : voidElements.contains rootName = false := by decide
    have hname : isName rootName = true := by decide
    have hraw : rawElements.contains rootName = false := by decide
    exact .element hname hraw nofun .nil (fun hvoid => by rw [hopen] at hvoid; cases hvoid) h .nil
  | some found => exact Sound.of_find?_go h hfound

/-! ## Recorded documents -/

/-- What may stand in front of the trees of a recorded document: nothing, or the two opening
lines. -/
def IsOpening (opening : Text) : Prop := opening = [] ∨ opening = openingLines

/-- What is said of the root of a document below it does not depend on texts in front. -/
theorem at?_rootOf_text (s : Text) (ts : List Tree) (step : Text × Nat)
    (path : List (Text × Nat)) :
    (rootOf (.text s :: ts)).at? (step :: path) = (rootOf ts).at? (step :: path) := by
  unfold rootOf
  rw [find?_go_text]
  cases Tree.find?.go rootName ts with
  | none => exact Element.at?_cons_congr rfl step path
  | some found => rfl

/-- The outline of a digested document at a place. -/
theorem at?_rootOutline_digested {ts : List Tree} (h : Sound ts) {step : Text × Nat}
    {path : List (Text × Nat)} {c : Element} (hplace : (rootOf ts).at? (step :: path) = some c)
    (hc : c.name ≠ breakName) : ∃ keep, (rootOutline (digested false ts)).at? (step :: path) =
      some (Outline.ofElement (digestedElement keep c)) := by
  obtain ⟨keep, hroot⟩ := rootOf_digested h
  obtain ⟨keep', hdigested⟩ := at?_digestedElement hc _ keep (sound_rootOf h) hplace
  refine ⟨keep', ?_⟩
  rw [rootOutline_eq, hroot, Outline.at?_rootOutline, hdigested]
  rfl

/-- Where the root of a recorded document has an element that is no line break, the outline
has the outline of this element, digested. -/
theorem at?_outline_recorded {ts : List Tree} (h : Sound ts) {opening : Text}
    (hopening : IsOpening opening) {step : Text × Nat} {path : List (Text × Nat)} {c : Element}
    (hplace : (rootOf ts).at? (step :: path) = some c) (hc : c.name ≠ breakName) :
    ∃ o keep, outline (opening ++ record ts) = .ok o ∧
      o.at? (step :: path) = some (Outline.ofElement (digestedElement keep c)) := by
  rcases hopening with rfl | rfl
  · obtain ⟨keep, hcell⟩ := at?_rootOutline_digested h hplace hc
    exact ⟨_, keep, outline_of_withoutPrologue h (withoutPrologue_record h), hcell⟩
  · have hlines : Sound (.text ['\n', '\n'] :: ts) := .text h
    rw [← at?_rootOf_text] at hplace
    obtain ⟨keep, hcell⟩ := at?_rootOutline_digested hlines hplace hc
    exact ⟨_, keep, outline_recorded h, hcell⟩

end Recording
end TestScribe
