import TestScribe.Proofs.Outline.Elements

/-!
# What an outline keeps of a document

An outline forgets how differently named children alternate, and it has two kinds of nodes for
what a tree has one kind of element for. This file says that nothing else is lost. The groups of
a node are the names of the children in the order in which they first appear, each with all
children of this name in their order (`files_elements`), so a group is never empty and no child
is in two groups. Taken together the groups hold each child once (`perm_fileByTag`), and by
induction over the tree

> `perm_nodes`: the nodes of an outline are the outlines of the elements, each once.

What kind of node an element becomes depends on three things: its attributes, its child elements
and the text directly in it. The outline is a text, or the placeholder, where the first two are
missing, and which of the two depends on whether the text can be seen (`depicts_ofElement`). The
text of an element is gathered on two ways, directly and with all that is deeper; where there are
no child elements both give the same.

> `rootOutline_depicts`: every node of the outline of a document depicts its element, and the
> nodes are those of the elements of the document.
-/

namespace TestScribe

namespace Markup

/-! ## Texts -/

/-- The plain texts among trees. -/
def plainTexts : List Tree → List Text
  | [] => []
  | .text s :: ts => s :: plainTexts ts
  | _ :: ts => plainTexts ts

/-- The plain texts among trees and in them, in document order. -/
def plainTextsWithin : List Tree → List Text
  | [] => []
  | .text s :: ts => s :: plainTextsWithin ts
  | .special _ _ :: ts => plainTextsWithin ts
  | .element _ _ children :: ts => plainTextsWithin children ++ plainTextsWithin ts

theorem directText_eq_flatten (ts : List Tree) :
    Tree.directText ts = (plainTexts ts).flatten := by
  induction ts with
  | nil => rfl
  | cons t ts ih =>
    cases t with
    | text s => rw [Tree.directText, plainTexts, List.flatten_cons, ih]
    | special kind s => exact ih
    | element name as children => exact ih

theorem fullText_eq_flatten (ts : List Tree) :
    Tree.fullText.go ts = (plainTextsWithin ts).flatten := by
  induction ts using plainTextsWithin.induct with
  | case1 => rw [Tree.fullText.go, plainTextsWithin, List.flatten_nil]
  | case2 s ts ih => rw [Tree.fullText.go, Tree.fullText, plainTextsWithin, List.flatten_cons, ih]
  | case3 kind s ts ih => rw [Tree.fullText.go, Tree.fullText, plainTextsWithin, List.nil_append, ih]
  | case4 name as children ts ihc ih =>
    rw [Tree.fullText.go, Tree.fullText, plainTextsWithin, List.flatten_append, ihc, ih]

/-- Where there are no elements, no text is deeper. -/
theorem plainTextsWithin_of_elementsOf {ts : List Tree} (h : elementsOf ts = []) :
    plainTextsWithin ts = plainTexts ts := by
  induction ts with
  | nil => rw [plainTextsWithin, plainTexts]
  | cons t ts ih =>
    cases t with
    | text s => rw [plainTextsWithin, plainTexts, ih h]
    | special kind s => rw [plainTextsWithin, plainTexts, ih h]; exact nofun
    | element name as children => cases h

namespace Element

/-- The text directly in an element. -/
def ownText (e : Element) : Text := (plainTexts e.children).flatten

/-- All text in an element, in document order. -/
def wholeText (e : Element) : Text := (plainTextsWithin e.children).flatten

/-- The element has neither attributes nor child elements. -/
def IsBare (e : Element) : Prop := e.attributes = [] ∧ elementsOf e.children = []

theorem wholeText_of_isBare {e : Element} (h : e.IsBare) : e.wholeText = e.ownText := by
  rw [wholeText, plainTextsWithin_of_elementsOf h.2, ownText]

end Element
end Markup

open Markup

namespace Outline

/-! ## Nodes -/

/-- The node is a text. -/
def isText : Outline → Bool
  | .text _ _ => true
  | .element _ _ _ _ _ => false

/-- The groups in which the children are filed. -/
def groups : Outline → List (Text × List Outline)
  | .text _ _ => []
  | .element _ _ groups _ _ => groups

/-- All nodes of an outline, itself first. -/
def nodes : Outline → List Outline
  | .text t s => [.text t s]
  | .element t as groups own content => .element t as groups own content :: ofGroups groups
where
  /-- All nodes of the members of some groups. -/
  ofGroups : List (Text × List Outline) → List Outline
    | [] => []
    | (_, os) :: gs => ofMembers os ++ ofGroups gs
  /-- All nodes of the members of a group. -/
  ofMembers : List Outline → List Outline
    | [] => []
    | o :: os => o.nodes ++ ofMembers os

theorem ofMembers_eq (os : List Outline) : nodes.ofMembers os = os.flatMap nodes := by
  induction os with
  | nil => rw [nodes.ofMembers, List.flatMap_nil]
  | cons o os ih => rw [nodes.ofMembers, List.flatMap_cons, ih]

/-- The nodes are the outline itself and those of the members of its groups. -/
theorem nodes_eq (o : Outline) : o.nodes = o :: (o.groups.flatMap Prod.snd).flatMap nodes := by
  have hgroups : ∀ gs, nodes.ofGroups gs = (gs.flatMap Prod.snd).flatMap nodes := by
    intro gs
    induction gs with
    | nil => rw [nodes.ofGroups, List.flatMap_nil, List.flatMap_nil]
    | cons g gs ih =>
      rw [nodes.ofGroups, List.flatMap_cons, List.flatMap_append, ofMembers_eq, ih]
  cases o with
  | text t s => rw [nodes, groups, List.flatMap_nil, List.flatMap_nil]
  | element t as gs own content => rw [nodes, groups, hgroups]

/-! ## Groups -/

theorem filter_eraseDups (p : Text → Bool) (ts : List Text) :
    ts.eraseDups.filter p = (ts.filter p).eraseDups := by
  induction hn : ts.length using Nat.strongRecOn generalizing ts with
  | ind n ih =>
    cases ts with
    | nil => rfl
    | cons t ts =>
      have hlen : (ts.filter fun u => !u == t).length < n := by
        have hle := List.length_filter_le (fun u => !u == t) ts
        rw [← hn, List.length_cons]
        omega
      rw [List.eraseDups_cons, List.filter_cons, ih _ hlen _ rfl, List.filter_filter]
      by_cases ht : p t = true
      · rw [if_pos ht, List.filter_cons_of_pos ht, List.eraseDups_cons, List.filter_filter]
        simp only [Bool.and_comm]
      · -- What has the property is not `t`, so nothing more is taken away with `t`.
        have hsame : (ts.filter fun u => p u && !u == t) = ts.filter p := by
          refine List.filter_congr fun u _ => ?_
          by_cases hu : u = t
          · simp [hu, ht]
          · simp [hu]
        rw [if_neg ht, List.filter_cons_of_neg ht, hsame]

/-- The groups are for the tags in the order in which they first appear. -/
theorem keys_fileByTag (os : List Outline) :
    (fileByTag os).map Prod.fst = (os.map tag).eraseDups := by
  induction os with
  | nil => rfl
  | cons o os ih =>
    have hkeys : ((fileByTag os).filter fun g => g.1 ≠ o.tag).map Prod.fst =
        ((fileByTag os).map Prod.fst).filter fun t => !t == o.tag := by
      rw [List.filter_map]
      refine congrArg (List.map Prod.fst) (List.filter_congr fun g _ => ?_)
      by_cases hg : g.1 = o.tag <;> simp [hg]
    rw [fileByTag, List.map_cons, List.map_cons, hkeys, ih, filter_eraseDups, List.eraseDups_cons]

theorem nodup_keys_fileByTag (os : List Outline) : ((fileByTag os).map Prod.fst).Nodup := by
  induction os with
  | nil => exact List.nodup_nil
  | cons o os ih =>
    rw [fileByTag, List.map_cons, List.nodup_cons]
    refine ⟨fun hmem => ?_, (List.filter_sublist.map Prod.fst).nodup ih⟩
    obtain ⟨g, hg, htag⟩ := List.mem_map.mp hmem
    exact of_decide_eq_true (List.mem_filter.mp hg).2 htag

/-- A group holds what has its tag, in order, and something has. -/
theorem of_mem_fileByTag {os : List Outline} :
    ∀ g ∈ fileByTag os, g.2 = os.filter (fun o => o.tag = g.1) ∧ g.2 ≠ [] := by
  induction os with
  | nil => exact nofun
  | cons o os ih =>
    intro g hg
    rcases List.mem_cons.mp hg with rfl | hg
    · refine ⟨?_, List.cons_ne_nil _ _⟩
      rw [List.filter_cons_of_pos (by simp), lookup_fileByTag]
    · obtain ⟨hold, hother⟩ := List.mem_filter.mp hg
      obtain ⟨hmembers, hne⟩ := ih g hold
      have htag : o.tag ≠ g.1 := Ne.symm (of_decide_eq_true hother)
      exact ⟨by rw [List.filter_cons_of_neg (by simp [htag]), hmembers], hne⟩

/-- One group and the others make all groups. -/
theorem perm_lookup_filter (t : Text) {gs : List (Text × List Outline)}
    (h : (gs.map Prod.fst).Nodup) :
    ((gs.lookup t).getD [] ++ (gs.filter fun g => g.1 ≠ t).flatMap Prod.snd).Perm
      (gs.flatMap Prod.snd) := by
  induction gs with
  | nil => exact .nil
  | cons g gs ih =>
    obtain ⟨u, os⟩ := g
    rw [List.map_cons, List.nodup_cons] at h
    rw [List.lookup_cons, List.flatMap_cons]
    by_cases hu : t = u
    · -- No other group has this tag.
      have hothers : (gs.filter fun g => g.1 ≠ t) = gs := by
        refine List.filter_eq_self.mpr fun g hg => decide_eq_true fun hgt => h.1 ?_
        exact List.mem_map.mpr ⟨g, hg, hgt.trans hu⟩
      rw [beq_iff_eq.mpr hu, List.filter_cons_of_neg (by simp [hu]), hothers]
      exact .refl _
    · rw [beq_false_of_ne hu, List.filter_cons_of_pos (by simp [Ne.symm hu]), List.flatMap_cons]
      exact (List.perm_append_comm_assoc _ _ _).trans ((ih h.2).append_left os)

/-- Taken together the groups hold everything that was filed, each once. -/
theorem perm_fileByTag (os : List Outline) : ((fileByTag os).flatMap Prod.snd).Perm os := by
  induction os with
  | nil => exact .nil
  | cons o os ih =>
    rw [fileByTag, List.flatMap_cons]
    exact ((perm_lookup_filter o.tag (nodup_keys_fileByTag os)).trans ih).cons o

/-- The groups file the child elements by name: the names in the order in which they first
appear, none twice, and under each name the outlines of the children of this name in document
order, of which there is at least one. -/
structure Files (e : Element) (groups : List (Text × List Outline)) : Prop where
  names : groups.map Prod.fst = ((elementsOf e.children).map Element.name).eraseDups
  distinct : (groups.map Prod.fst).Nodup
  filled : ∀ g ∈ groups, g.2 ≠ []
  tagged : ∀ g ∈ groups, ∀ o ∈ g.2, o.tag = g.1
  members : ∀ g ∈ groups, g.2 = (e.childrenNamed g.1).map ofElement

theorem files_elements (e : Element) : Files e (fileByTag (ofTree?.elements e.children)) := by
  have hmembers : ∀ g ∈ fileByTag (ofTree?.elements e.children),
      g.2 = (e.childrenNamed g.1).map ofElement := by
    intro g hg
    rw [(of_mem_fileByTag g hg).1, ← lookup_fileByTag, filter_tag_elements]
  refine ⟨?_, nodup_keys_fileByTag _, fun g hg => (of_mem_fileByTag g hg).2, ?_, hmembers⟩
  · rw [keys_fileByTag, elements_eq_map, List.map_map]
    exact congrArg List.eraseDups (List.map_congr_left fun c _ => tag_ofElement c)
  · intro g hg o ho
    rw [(of_mem_fileByTag g hg).1] at ho
    exact of_decide_eq_true (List.mem_filter.mp ho).2

/-- The groups of the outline of an element file its child elements. -/
theorem groups_ofElement (e : Element) :
    (ofElement e).groups = fileByTag (ofTree?.elements e.children) := by
  unfold ofElement ofParts
  split
  · rename_i hbare
    rw [Bool.and_eq_true, List.isEmpty_iff, List.isEmpty_iff] at hbare
    rw [hbare.2]
    split
    · rfl
    · rfl
  · rfl

theorem perm_filed (ts : List Tree) : ((fileByTag (ofTree?.elements ts)).flatMap Prod.snd).Perm
    ((elementsOf ts).map ofElement) := by
  rw [elements_eq_map]
  exact perm_fileByTag _

/-- The nodes of the outlines of elements are those of the elements and of all within them. -/
theorem perm_nodes_elements (ts : List Tree) :
    (((elementsOf ts).map ofElement).flatMap nodes).Perm ((elementsWithin ts).map ofElement) := by
  induction ts using elementsWithin.induct with
  | case1 => rw [elementsWithin]; exact .nil
  | case2 s ts ih => rw [elementsWithin]; exact ih
  | case3 kind s ts ih => rw [elementsWithin]; exact ih
  | case4 name as children ts ihc ih =>
    rw [elementsWithin, elementsOf_element, List.map_cons, List.flatMap_cons, nodes_eq,
      groups_ofElement, List.map_append, List.map_cons]
    exact ((((perm_filed children).flatMap_right nodes).trans ihc).cons _).append ih

/-- The nodes of the outline of a document are its root and the outlines of the elements in the
root, each once. -/
theorem perm_nodes (root : Element) :
    (ofRoot root.attributes root.children).nodes.Perm
      (ofRoot root.attributes root.children ::
        (elementsWithin root.children).map ofElement) := by
  rw [nodes_eq]
  exact (((perm_filed root.children).flatMap_right nodes).trans
    (perm_nodes_elements root.children)).cons _

/-! ## Kinds of nodes -/

/-- The node says what an outline is to say of the element, unless it is the root. It is a text
or the placeholder if the element has neither attributes nor child elements, a text if the text
of the element can be seen and the placeholder if not. Otherwise it files the children and holds
all text inside. -/
structure Depicts (o : Outline) (e : Element) : Prop where
  tag_eq : o.tag = e.name
  files : Files e o.groups
  isText_iff : o.isText = true ↔ e.IsBare ∧ Text.blank e.ownText = false
  visible : o.isText = true → Text.blank o.content = false
  isEmpty_iff : o.isEmpty = true ↔ e.IsBare ∧ Text.blank e.ownText = true
  content_eq : o.isEmpty = false → o.content = e.wholeText

theorem isBare_iff (e : Element) :
    e.IsBare ↔ (e.attributes.isEmpty && (ofTree?.elements e.children).isEmpty) = true := by
  rw [Bool.and_eq_true, List.isEmpty_iff, List.isEmpty_iff, elements_eq_map, List.map_eq_nil_iff]
  rfl

/-- A bare element is its text, or the placeholder if that is blank. -/
theorem ofElement_of_isBare {e : Element} (h : e.IsBare) :
    ofElement e = if Text.blank e.ownText then placeholder e.name else .text e.name e.ownText := by
  rw [ofElement, ofParts, if_pos ((isBare_iff e).mp h), directText_eq_flatten]
  rfl

/-- Any other element keeps its attributes, its children and all its text. -/
theorem ofElement_of_not_isBare {e : Element} (h : ¬ e.IsBare) :
    ofElement e = .element e.name e.attributes (fileByTag (ofTree?.elements e.children))
      (unlessBlank e.ownText) e.wholeText := by
  rw [ofElement, ofParts, if_neg (mt (isBare_iff e).mpr h), directText_eq_flatten,
    fullText_eq_flatten]
  rfl

/-- An element with attributes or children is not the placeholder. -/
theorem isEmpty_ofElement_of_not_isBare {e : Element} (h : ¬ e.IsBare) :
    (ofElement e).isEmpty = false := by
  rw [ofElement_of_not_isBare h, isEmpty]
  rcases Classical.not_and_iff_not_or_not.mp h with hattributes | hchildren
  · rw [List.isEmpty_eq_false_iff.mpr hattributes, Bool.false_and, Bool.false_and]
  · cases hos : ofTree?.elements e.children with
    | nil =>
      rw [elements_eq_map, List.map_eq_nil_iff] at hos
      exact absurd hos hchildren
    | cons o os => rw [fileByTag, List.isEmpty_cons, Bool.and_false, Bool.false_and]

theorem depicts_ofElement (e : Element) : Depicts (ofElement e) e := by
  have hfiles : Files e (ofElement e).groups := groups_ofElement e ▸ files_elements e
  by_cases hbare : e.IsBare
  · have hof := ofElement_of_isBare hbare
    by_cases hblank : Text.blank e.ownText = true
    · rw [if_pos hblank] at hof
      refine ⟨tag_ofElement e, hfiles, ?_, ?_, ?_, ?_⟩
      all_goals rw [hof]
      · exact iff_of_false Bool.false_ne_true fun h => Bool.false_ne_true (h.2.symm.trans hblank)
      · exact fun h => nomatch h
      · exact iff_of_true rfl ⟨hbare, hblank⟩
      · exact fun h => nomatch h
    · have hvisible : Text.blank e.ownText = false := Bool.eq_false_iff.mpr hblank
      rw [if_neg hblank] at hof
      refine ⟨tag_ofElement e, hfiles, ?_, ?_, ?_, ?_⟩
      all_goals rw [hof]
      · exact iff_of_true rfl ⟨hbare, hvisible⟩
      · exact fun _ => hvisible
      · exact iff_of_false Bool.false_ne_true fun h => hblank h.2
      · exact fun _ => (Element.wholeText_of_isBare hbare).symm
  · have hempty := isEmpty_ofElement_of_not_isBare hbare
    have htext : (ofElement e).isText = false := by rw [ofElement_of_not_isBare hbare]; rfl
    refine ⟨tag_ofElement e, hfiles, ?_, ?_, ?_, ?_⟩
    · rw [htext]
      exact iff_of_false Bool.false_ne_true fun h => hbare h.1
    · rw [htext]
      exact fun h => nomatch h
    · rw [hempty]
      exact iff_of_false Bool.false_ne_true fun h => hbare h.1
    · rw [ofElement_of_not_isBare hbare]
      exact fun _ => rfl

/-- The outline of a document keeps its elements. Its nodes are the root and the outlines of the
elements in the root, each once. Each of these depicts its element; the root is never a text, and
files its children and holds all text of the document. -/
theorem rootOutline_depicts (root : Element) :
    (ofRoot root.attributes root.children).nodes.Perm
        (ofRoot root.attributes root.children ::
          (elementsWithin root.children).map ofElement) ∧
      (∀ e ∈ elementsWithin root.children, Depicts (ofElement e) e) ∧
      (ofRoot root.attributes root.children).isText = false ∧
      (ofRoot root.attributes root.children).tag = "html".toList ∧
      Files root (ofRoot root.attributes root.children).groups ∧
      (ofRoot root.attributes root.children).content = root.wholeText :=
  ⟨perm_nodes root, fun e _ => depicts_ofElement e, rfl, rfl, files_elements root,
    fullText_eq_flatten root.children⟩

end Outline
end TestScribe
