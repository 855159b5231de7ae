import Mathlib.Control.Monad.Basic
import TestScribe.Proofs.Recording.Breaks
import TestScribe.Proofs.Recording.Places

/-!
# Line breaks of any document

A document is read, however loosely it is written. What its second reading finds is what the
first one found, but that each line break without attributes is the token instead. A line
break with attributes is written otherwise, so it stays an element:

> `line_breaks_replaced_iff`: the outline of a document is free of line breaks exactly if none
> of them has an attribute, and it has the token where the others were, also among spacing.

Replacing the written line breaks leaves well-formed what is around them. In comments, sections
and raw content they are replaced, too, but the token ends none of these (`Unclosed.withTokens`).

The outline begins at the root, which is found by its name. Where everything starts and ends,
the root is known from the reading order alone (`rootSigns_readingOrder`), so it is the same
one before and after.
-/

namespace TestScribe.Recording

open Markup

/-! ## What is left of the trees -/

/-- The token ends nothing, so what is unclosed stays so. -/
theorem Unclosed.withTokens {closes : Text → Option Text} {mark : Text}
    (hc : Closer closes mark) {s : Text} (h : Unclosed closes s) :
    Unclosed closes (withTokens s) := by
  induction hn : s.length using Nat.strongRecOn generalizing s with
  | ind n ih =>
    cases s with
    | nil =>
      rw [withTokens_nil]
      exact hc.unclosed_nil
    | cons c s =>
      cases hfound : Text.afterPrefix? strictBreak (c :: s) with
      | some rest =>
        have heq := Text.eq_append_of_afterPrefix? hfound
        have hlen : rest.length < n := by
          rw [← hn, heq, List.length_append]
          have : strictBreak.length = 5 := rfl
          omega
        have hrest : Unclosed closes rest := h.suffix (heq ▸ List.suffix_append _ _)
        rw [heq, withTokens_break]
        exact Unclosed.append_left hc rfl (ih _ hlen hrest rfl)
      | none =>
        obtain ⟨hhere, hlater⟩ := unclosed_cons.mp h
        have hlen : s.length < n := by
          rw [← hn, List.length_cons]
          omega
        have hgo : Recording.withTokens (c :: s) = c :: Recording.withTokens s :=
          Text.replace_cons _ hfound
        rw [hgo]
        refine unclosed_cons.mpr ⟨?_, ih _ hlen hlater rfl⟩
        rcases Text.replace_cases '<' _ breakToken s with hsame | ⟨a, u, v, hs, hreplaced⟩
        · have hsame' : Recording.withTokens s = s := hsame
          rw [hsame']
          exact hhere
        · -- The backslash of the first token cuts off what comes before it.
          have hreplaced' : Recording.withTokens s = a ++ '\\' :: ('n' :: v) := hreplaced
          rw [hs, ← List.cons_append] at hhere
          rw [hreplaced', ← List.cons_append]
          exact hc.beforeBackslash _ (hc.eq_none_of_append hhere)

/-- A special construct without line breaks is one. -/
theorem mayHold_withTokens {kind : Special} {s : Text} (h : MayHold kind s) :
    MayHold kind (withTokens s) := by
  cases kind with
  | comment => exact Unclosed.withTokens closer_comment h
  | cdata => exact Unclosed.withTokens closer_section h
  | declaration => trivial
  | doctype =>
    show '>' ∉ withTokens s
    rwa [withTokens_of_not_mem h]
  | instruction =>
    show '>' ∉ withTokens s
    rwa [withTokens_of_not_mem h]

theorem Grown.unbroken {ts : List Tree} (h : Grown ts) : Grown (unbroken false ts) := by
  induction h with
  | nil =>
    rw [Recording.unbroken]
    exact .nil
  | text h ih =>
    rw [Recording.unbroken, if_neg Bool.false_ne_true]
    exact .text ih
  | special hs h ih =>
    rw [Recording.unbroken]
    exact .special (mayHold_withTokens hs) ih
  | element hname has hraw hvoid hchildren h ihc ih =>
    rw [Recording.unbroken, hraw]
    split
    · exact .text ih
    · refine .element hname has hraw (fun hv => ?_) ihc ih
      rw [hvoid hv, Recording.unbroken]
  | @raw name as children ts hname has hraw hchildren h ih =>
    have hb : ¬ (name = breakName ∧ as = []) := by
      rintro ⟨rfl, -⟩
      revert hraw
      decide
    rw [Recording.unbroken, if_neg hb, hraw]
    refine .raw hname has hraw ?_ ih
    cases hchildren with
    | nothing =>
      rw [Recording.unbroken]
      exact .nothing
    | text hs =>
      rw [Recording.unbroken, Recording.unbroken, if_pos rfl]
      exact .text (Unclosed.withTokens (closer_raw hraw) hs)

/-- Special constructs that end apart do not end early afterwards. -/
theorem eachSpecial_unbroken {ts : List Tree} (h : Grown ts) :
    ∀ raw, EachSpecial EndsApart ts → EachSpecial EndsLast (unbroken raw ts) := by
  refine Grown.shape (P := fun ts => ∀ raw, EachSpecial EndsApart ts →
    EachSpecial EndsLast (unbroken raw ts)) ?_ ?_ ?_ ?_ h
  · intro raw hend
    rw [unbroken]
    exact eachSpecial_nil
  · intro s ts ih raw hend
    rw [unbroken, eachSpecial_text]
    exact ih raw (eachSpecial_text.mp hend)
  · intro kind s ts ih raw hend
    obtain ⟨hhere, hrest⟩ := eachSpecial_special.mp hend
    rw [unbroken, eachSpecial_special]
    refine ⟨?_, ih raw hrest⟩
    rintro rfl
    have hmore : '>' ∉ s := hhere
    rwa [withTokens_of_not_mem hmore]
  · intro name as children ts hvoid ihc ih raw hend
    obtain ⟨hchildren, hrest⟩ := eachSpecial_element.mp hend
    rw [unbroken]
    split
    · exact eachSpecial_text.mpr (ih raw hrest)
    · exact eachSpecial_element.mpr ⟨ihc _ hchildren, ih raw hrest⟩

/-- The outline of a document, from what its first reading finds. -/
theorem outline_of_read {s : Text} {ts : List Tree}
    (hread : Tree.read (withoutPrologue (Reference.asciiForm s)) = .ok ts)
    (hapart : EachSpecial EndsApart ts) :
    outline s = .ok (rootOutline (Tree.ofTokens (respelled (unbroken false ts)))) := by
  have hgrown := grown_of_read hread
  have hmarkup : strictMarkup s = .ok (writeDocument (unbroken false ts)) := by
    rw [strictMarkup, hread, ← withTokens_writeDocument hgrown hapart]
    rfl
  have hagain := read_respelled (Grown.unbroken hgrown) (eachSpecial_unbroken hgrown false hapart)
  rw [outline, hmarkup]
  show (Tree.read _).map rootOutline = _
  rw [hagain]
  rfl

/-! ## Elements that are left -/

/-- The elements that are left are all but the line breaks without attributes. -/
theorem start_mem_unbroken {ends : Bool} {name : Text} {ts : List Tree} (h : Grown ts) :
    ∀ raw, .start name ∈ readingOrder ends (unbroken raw ts) ↔
      ∃ e ∈ elementsWithin ts, e.name = name ∧ (name = breakName → e.attributes ≠ []) := by
  refine Grown.shape (P := fun ts => ∀ raw, .start name ∈ readingOrder ends (unbroken raw ts) ↔
    ∃ e ∈ elementsWithin ts, e.name = name ∧ (name = breakName → e.attributes ≠ [])) ?_ ?_ ?_ ?_ h
  · intro raw
    rw [unbroken, readingOrder, elementsWithin]
    simp
  · intro s ts ih raw
    rw [unbroken, start_mem_readingOrder_text, ih raw, elementsWithin]
  · intro kind s ts ih raw
    rw [unbroken, start_mem_readingOrder_special, ih raw, elementsWithin]
  · intro n as children ts hvoid ihc ih raw
    rw [unbroken]
    by_cases hb : n = breakName ∧ as = []
    · -- A line break has no contents, so nothing else is gone.
      obtain ⟨rfl, rfl⟩ := hb
      have hnothing : children = [] := hvoid (by decide)
      have hhere : ¬ (breakName = name ∧ (name = breakName → ([] : Attributes) ≠ [])) :=
        fun hn => hn.2 hn.1.symm rfl
      have hinside : ¬ ∃ e ∈ elementsWithin [],
          e.name = name ∧ (name = breakName → e.attributes ≠ []) := by
        rw [elementsWithin]
        simp
      rw [if_pos ⟨rfl, rfl⟩, start_mem_readingOrder_text, ih raw, exists_mem_elementsWithin_element,
        hnothing, or_iff_right hhere, or_iff_right hinside]
    · rw [if_neg hb, start_mem_readingOrder_element, ihc, ih raw,
        exists_mem_elementsWithin_element]
      refine or_congr ⟨fun hn => ⟨hn, fun hbreak has => ?_⟩, And.left⟩ Iff.rfl
      exact hb ⟨hn.trans hbreak, has⟩

/-- Replacing line breaks brings no new names. -/
theorem endsByName_unbroken {ts : List Tree} (h : Grown ts) (hnames : EndsByName ts) :
    EndsByName (unbroken false ts) := by
  intro name hmem
  obtain ⟨e, he, hname, -⟩ := (start_mem_unbroken h false).mp hmem
  exact hnames name ((start_mem_readingOrder true).mpr ⟨e, he, hname⟩)

/-! ## The root in reading order -/

/-- What comes before the end of the innermost of `n + 1` elements that are open. -/
def enclosed : Nat → List Sign → List Sign
  | _, [] => []
  | n, .ink c :: order => .ink c :: enclosed n order
  | n, .gap line :: order => .gap line :: enclosed n order
  | n, .start name :: order => .start name :: enclosed (n + 1) order
  | 0, .finish _ :: _ => []
  | n + 1, .finish name :: order => .finish name :: enclosed n order

/-- What is in the first element with the name of the root, or all there is. -/
def rootSigns (order : List Sign) : List Sign :=
  match order.dropWhile (· ≠ .start rootName) with
  | [] => order
  | _ :: inside => enclosed 0 inside

theorem enclosed_textSigns (n : Nat) (s : Text) (order : List Sign) :
    enclosed n (textSigns s ++ order) = textSigns s ++ enclosed n order := by
  induction s with
  | nil => rfl
  | cons c s ih =>
    rw [textSigns, List.map_cons, List.cons_append, List.cons_append, ← textSigns, ← ih,
      Sign.ofChar]
    split <;> rw [enclosed]

theorem enclosed_specialSigns (n : Nat) (kind : Special) (order : List Sign) :
    enclosed n (specialSigns kind ++ order) = specialSigns kind ++ enclosed n order := by
  cases kind <;> rfl

/-- Trees end what they start. -/
theorem enclosed_readingOrder (ts : List Tree) : ∀ (n : Nat) (order : List Sign),
    enclosed n (readingOrder true ts ++ order) = readingOrder true ts ++ enclosed n order := by
  induction ts using elementsWithin.induct with
  | case1 =>
    intro n order
    rw [readingOrder, List.nil_append, List.nil_append]
  | case2 s ts ih =>
    intro n order
    rw [readingOrder, List.append_assoc, enclosed_textSigns, ih, List.append_assoc]
  | case3 kind s ts ih =>
    intro n order
    rw [readingOrder, List.append_assoc, enclosed_specialSigns, ih, List.append_assoc]
  | case4 name as children ts ihc ih =>
    intro n order
    rw [readingOrder_element_cons, List.cons_append, enclosed, List.append_assoc, ihc,
      List.cons_append, enclosed, ih]
    simp

section
variable {name : Text} {as : Attributes} {children ts : List Tree}

theorem start_not_mem_of_find?_go (h : Tree.find?.go name ts = none) :
    .start name ∉ readingOrder true ts := by
  induction ts using elementsWithin.induct with
  | case1 =>
    rw [readingOrder]
    exact List.not_mem_nil
  | case2 s ts ih =>
    rw [find?_go_text] at h
    rw [start_mem_readingOrder_text]
    exact ih h
  | case3 kind s ts ih =>
    rw [find?_go_special] at h
    rw [start_mem_readingOrder_special]
    exact ih h
  | case4 n as' children' ts ihc ih =>
    rw [find?_go_element, Option.or_eq_none_iff] at h
    obtain ⟨hhead, hrest⟩ := h
    rw [start_mem_readingOrder_element]
    split at hhead
    · cases hhead
    · rintro (hn | hchildren | hlater)
      · exact absurd hn ‹_›
      · exact ihc hhead hchildren
      · exact ih hrest hlater

/-- The element that is found is the first one to start with this name. -/
theorem exists_readingOrder_of_find?_go (h : Tree.find?.go name ts = some (as, children)) :
    ∃ before after, .start name ∉ before ∧ readingOrder true ts =
      before ++ .start name :: (readingOrder true children ++ .finish name :: after) := by
  induction ts using elementsWithin.induct with
  | case1 =>
    rw [find?_go_nil] at h
    cases h
  | case2 s ts ih =>
    rw [find?_go_text] at h
    obtain ⟨before, after, hbefore, horder⟩ := ih h
    refine ⟨textSigns s ++ before, after, ?_, ?_⟩
    · rw [List.mem_append, not_or]
      exact ⟨start_not_mem_textSigns name s, hbefore⟩
    · rw [readingOrder, horder, List.append_assoc]
  | case3 kind s ts ih =>
    rw [find?_go_special] at h
    obtain ⟨before, after, hbefore, horder⟩ := ih h
    refine ⟨specialSigns kind ++ before, after, ?_, ?_⟩
    · rw [List.mem_append, not_or]
      exact ⟨start_not_mem_specialSigns name kind, hbefore⟩
    · rw [readingOrder, horder, List.append_assoc]
  | case4 n as' children' ts ihc ih =>
    rw [find?_go_element] at h
    rw [readingOrder_element_cons]
    by_cases hn : n = name
    · rw [if_pos hn, Option.some_or] at h
      cases h
      subst hn
      exact ⟨[], readingOrder true ts, List.not_mem_nil, rfl⟩
    · rw [if_neg hn] at h
      have hstart : Sign.start name ≠ .start n := fun he => hn (Sign.start.inj he).symm
      rcases Option.or_eq_some_iff.mp h with hhead | ⟨hnone, hrest⟩
      · obtain ⟨before, after, hbefore, horder⟩ := ihc hhead
        refine ⟨.start n :: before, after ++ .finish n :: readingOrder true ts, ?_, ?_⟩
        · rw [List.mem_cons, not_or]
          exact ⟨hstart, hbefore⟩
        · simp [horder]
      · obtain ⟨before, after, hbefore, horder⟩ := ih hrest
        refine ⟨.start n :: (readingOrder true children' ++ .finish n :: before), after, ?_, ?_⟩
        · simp [hstart, hbefore, start_not_mem_of_find?_go hnone]
        · simp [horder]

end

theorem dropWhile_ne_of_not_mem {x : Sign} {before : List Sign} (h : x ∉ before)
    (rest : List Sign) : (before ++ rest).dropWhile (· ≠ x) = rest.dropWhile (· ≠ x) := by
  rw [List.dropWhile_append_of_pos]
  intro y hy
  exact decide_eq_true fun he => h (he ▸ hy)

theorem rootSigns_of_not_mem {order : List Sign} (h : .start rootName ∉ order) :
    rootSigns order = order := by
  have hdrop := dropWhile_ne_of_not_mem h []
  rw [List.append_nil] at hdrop
  rw [rootSigns, hdrop]
  rfl

theorem rootSigns_of_start {before : List Sign} (h : .start rootName ∉ before)
    (inside : List Sign) : rootSigns (before ++ .start rootName :: inside) = enclosed 0 inside := by
  rw [rootSigns, dropWhile_ne_of_not_mem h, List.dropWhile_cons_of_neg (by simp)]

/-- What is met in the root is known from the reading order. -/
theorem rootSigns_readingOrder (ts : List Tree) :
    rootSigns (readingOrder true ts) = readingOrder true (rootOf ts).children := by
  unfold rootOf
  cases hfound : Tree.find?.go rootName ts with
  | none => exact rootSigns_of_not_mem (start_not_mem_of_find?_go hfound)
  | some found =>
    obtain ⟨as, children⟩ := found
    obtain ⟨before, after, hbefore, horder⟩ := exists_readingOrder_of_find?_go hfound
    rw [horder, rootSigns_of_start hbefore]
    show enclosed 0 _ = readingOrder true children
    rw [enclosed_readingOrder, enclosed, List.append_nil]

/-! ### Runs of spacing -/

theorem enclosed_prepend_gap (n : Nat) (line : Bool) (order : List Sign) :
    enclosed n (prepend (.gap line) order) = prepend (.gap line) (enclosed n order) := by
  cases order with
  | nil => rfl
  | cons x order =>
    cases x with
    | finish name => cases n <;> rfl
    | _ => rfl

theorem enclosed_tidy (order : List Sign) : ∀ n,
    enclosed n (tidy order) = tidy (enclosed n order) := by
  induction order with
  | nil => exact fun n => rfl
  | cons x order ih =>
    intro n
    rw [tidy_cons]
    cases x with
    | gap line => rw [enclosed_prepend_gap, ih, enclosed, tidy_cons]
    | ink c => exact congrArg (List.cons (.ink c)) (ih n)
    | start name => exact congrArg (List.cons (.start name)) (ih (n + 1))
    | finish name =>
      cases n with
      | zero => rfl
      | succ n => exact congrArg (List.cons (.finish name)) (ih n)

/-- Nothing but runs of spacing within the root depends on runs of spacing. -/
theorem rootSigns_tidy (order : List Sign) : rootSigns (tidy order) = tidy (rootSigns order) := by
  by_cases hroot : .start rootName ∈ order
  · obtain ⟨before, inside, rfl, hbefore⟩ := List.eq_append_cons_of_mem hroot
    have hbefore' : .start rootName ∉ tidy before := fun h => hbefore (start_mem_tidy.mp h)
    rw [tidy_append_cons (x := .start rootName) nofun, rootSigns_of_start hbefore',
      rootSigns_of_start hbefore, enclosed_tidy]
  · rw [rootSigns_of_not_mem hroot, rootSigns_of_not_mem fun h => hroot (start_mem_tidy.mp h)]

/-- The root of what is left is what is left of the root. -/
theorem find?_go_unbroken {ts : List Tree} (h : Grown ts) : ∀ raw,
    Tree.find?.go rootName (unbroken raw ts) =
      (Tree.find?.go rootName ts).map fun found => (found.1, unbroken false found.2) := by
  refine Grown.shape (P := fun ts => ∀ raw, Tree.find?.go rootName (unbroken raw ts) =
    (Tree.find?.go rootName ts).map fun found => (found.1, unbroken false found.2)) ?_ ?_ ?_ ?_ h
  · intro raw
    rw [unbroken, find?_go_nil]
    rfl
  · intro s ts ih raw
    rw [unbroken, find?_go_text, ih raw, find?_go_text]
  · intro kind s ts ih raw
    rw [unbroken, find?_go_special, ih raw, find?_go_special]
  · intro name as children ts hvoid ihc ih raw
    rw [unbroken, find?_go_element]
    by_cases hb : name = breakName ∧ as = []
    · -- Neither is the line break the root, nor is there anything in it.
      have hother : name ≠ rootName := by
        rw [hb.1]
        decide
      have hnothing : children = [] := hvoid (by rw [hb.1]; decide)
      rw [if_pos hb, find?_go_text, ih raw, if_neg hother, hnothing, find?_go_nil, Option.none_or]
    · rw [if_neg hb, find?_go_element, ih raw, ihc]
      by_cases hn : name = rootName
      · have hraw : rawElements.contains name = false := by
          rw [hn]
          decide
        rw [if_pos hn, if_pos hn, hraw]
        rfl
      · rw [if_neg hn, if_neg hn]
        cases Tree.find?.go rootName children with
        | none => rfl
        | some found => rfl

theorem children_rootOf_unbroken {ts : List Tree} (h : Grown ts) :
    (rootOf (unbroken false ts)).children = unbroken false (rootOf ts).children := by
  unfold rootOf
  rw [find?_go_unbroken h]
  cases Tree.find?.go rootName ts with
  | none => rfl
  | some found => rfl

theorem Grown.of_find?_go {as : Attributes} {children ts : List Tree} (h : Grown ts)
    (hfound : Tree.find?.go rootName ts = some (as, children)) : Grown children := by
  induction h with
  | nil =>
    rw [find?_go_nil] at hfound
    cases hfound
  | text h ih =>
    rw [find?_go_text] at hfound
    exact ih hfound
  | special hs h ih =>
    rw [find?_go_special] at hfound
    exact ih hfound
  | element hname has hraw hvoid hchildren h ihc ih =>
    rw [find?_go_element] at hfound
    rcases Option.or_eq_some_iff.mp hfound with hhead | ⟨-, hrest⟩
    · split at hhead
      · cases hhead
        exact hchildren
      · exact ihc hhead
    · exact ih hrest
  | raw hname has hraw hchildren h ih =>
    rw [find?_go_element] at hfound
    rcases Option.or_eq_some_iff.mp hfound with hhead | ⟨-, hrest⟩
    · split at hhead
      · rename_i hroot
        have hopen : rawElements.contains rootName = false := by decide
        rw [hroot, hopen] at hraw
        cases hraw
      · -- In raw content there is at most a text.
        cases hchildren with
        | nothing =>
          rw [find?_go_nil] at hhead
          cases hhead
        | text hs =>
          rw [find?_go_text, find?_go_nil] at hhead
          cases hhead
    · exact ih hrest

theorem Grown.rootOf {ts : List Tree} (h : Grown ts) : Grown (rootOf ts).children := by
  unfold Recording.rootOf
  cases hfound : Tree.find?.go rootName ts with
  | none => exact h
  | some found => exact Grown.of_find?_go h hfound

/-! ## Line breaks of any document -/

/-- No line break has an attribute. -/
def PlainBreaks (ts : List Tree) : Prop :=
  ∀ e ∈ elementsWithin ts, e.name = breakName → e.attributes = []

theorem plainBreaks_iff (ends : Bool) {ts : List Tree} (h : Grown ts) :
    PlainBreaks ts ↔ .start breakName ∉ readingOrder ends (unbroken false ts) := by
  rw [start_mem_unbroken h]
  constructor
  · rintro hplain ⟨e, he, hname, has⟩
    exact has rfl (hplain e he hname)
  · intro hnone e he hname
    exact Classical.byContradiction fun has => hnone ⟨e, he, hname, fun _ => has⟩

/-- The outline of a document has no line break if there is none in the root. -/
theorem no_break_in_rootOutline {us : List Tree} :
    (∀ path o, (rootOutline us).at? path = some o → o.tag ≠ breakName) ↔
      .start breakName ∉ readingOrder true (rootOf us).children := by
  rw [rootOutline_eq, Outline.forall_tag_rootOutline (P := (· ≠ breakName)) (by decide),
    start_mem_readingOrder]
  simp

/-- What starts in the root starts in the document. -/
theorem start_mem_of_rootOf {name : Text} {ts : List Tree}
    (h : .start name ∈ readingOrder true (rootOf ts).children) :
    .start name ∈ readingOrder true ts := by
  unfold rootOf at h
  cases hfound : Tree.find?.go rootName ts with
  | none =>
    rw [hfound] at h
    exact h
  | some found =>
    obtain ⟨before, after, -, horder⟩ := exists_readingOrder_of_find?_go hfound
    rw [hfound] at h
    rw [horder]
    simp [h]

/-- Line breaks without attributes are replaced by the token, others stay. What is read in the
end has the characters and the elements of the document in their order, with the token where a
line break without attributes was, and with spacing wherever there was some, on both sides of a
token, too; only how long a run of spacing is may change. If there were no other line breaks, the
outline has none.
Where end tags are read as they are written, elements also end where they did, so it is known
what is in the root, and the outline has no line break exactly if none in the root had an
attribute. -/
theorem line_breaks_replaced_iff {s : Text} {ts : List Tree}
    (hread : Tree.read (withoutPrologue (Reference.asciiForm s)) = .ok ts)
    (hapart : EachSpecial EndsApart ts) :
    ∃ us, outline s = .ok (rootOutline us) ∧
      tidy (readingOrder false us) = tidy (readingOrder false (unbroken false ts)) ∧
      (PlainBreaks ts →
        ∀ path o, (rootOutline us).at? path = some o → o.tag ≠ breakName) ∧
      (EndsByName ts →
        tidy (readingOrder true (rootOf us).children) =
          tidy (readingOrder true (unbroken false (rootOf ts).children)) ∧
        ((∀ path o, (rootOutline us).at? path = some o → o.tag ≠ breakName) ↔
          PlainBreaks (rootOf ts).children)) := by
  have hgrown := grown_of_read hread
  have hleft := Grown.unbroken hgrown
  have horder := readingOrder_reread hleft
  refine ⟨_, outline_of_read hread hapart, horder, fun hplain => ?_, fun hnames => ?_⟩
  · rw [no_break_in_rootOutline]
    intro hmem
    have hstart := (start_mem_readingOrder true).mp (start_mem_of_rootOf hmem)
    rw [← start_mem_readingOrder false, ← start_mem_tidy, horder, start_mem_tidy] at hstart
    exact (plainBreaks_iff false hgrown).mp hplain hstart
  · have hends := readingOrder_reread_ends hleft (endsByName_unbroken hgrown hnames)
    have hroot : tidy (readingOrder true
        (rootOf (Tree.ofTokens (respelled (unbroken false ts)))).children) =
          tidy (readingOrder true (unbroken false (rootOf ts).children)) := by
      rw [← rootSigns_readingOrder, ← rootSigns_tidy, hends, rootSigns_tidy,
        rootSigns_readingOrder, children_rootOf_unbroken hgrown]
    refine ⟨hroot, ?_⟩
    rw [no_break_in_rootOutline, plainBreaks_iff true (Grown.rootOf hgrown), ← start_mem_tidy,
      hroot, start_mem_tidy]

/-- The trees of a cell with two line breaks, the first of them between spaces. -/
def brokenCell : List Tree :=
  [.element "td".toList [] [.text "one ".toList, .element breakName [] [],
    .text " two".toList, .element breakName [] []]]

/-- Both are replaced, however they are written, the first one between the spaces, and the cell is
closed after them. -/
theorem line_breaks_replaced_in_cell : ∃ us,
    outline "<td>one <BR> two<br />".toList = .ok (rootOutline us) ∧
      tidy (readingOrder true (rootOf us).children) =
        .start "td".toList :: (textSigns "one \\n two\\n".toList ++ [.finish "td".toList]) ∧
      ∀ path o, (rootOutline us).at? path = some o → o.tag ≠ breakName := by
  have htokens : tokens (withoutPrologue (Reference.asciiForm "<td>one <BR> two<br />".toList)) =
      .ok [.opening "td".toList [], .text "one ".toList, .opening breakName [],
        .text " two".toList, .emptyTag breakName []] := by
    decide +kernel
  have hread : Tree.read (withoutPrologue (Reference.asciiForm "<td>one <BR> two<br />".toList)) =
      .ok brokenCell := by
    rw [Tree.read, htokens]
    rfl
  have hapart : EachSpecial EndsApart brokenCell := by
    simp [EachSpecial, brokenCell, specialsOf]
  have hnames : EndsByName brokenCell := by
    intro name hmem
    obtain ⟨e, he, rfl⟩ := (start_mem_readingOrder true).mp hmem
    have hwithin : (elementsWithin brokenCell).map Element.name =
        ["td".toList, breakName, breakName] := by
      simp [brokenCell, elementsWithin]
    have hends : ∀ n ∈ ["td".toList, breakName, breakName], endName n = n := by decide
    exact hends _ (hwithin ▸ List.mem_map.mpr ⟨e, he, rfl⟩)
  have hplain : PlainBreaks (rootOf brokenCell).children := by
    show PlainBreaks brokenCell
    simp [PlainBreaks, brokenCell, elementsWithin]
  have hleft : unbroken false brokenCell = [.element "td".toList [] [.text "one ".toList,
      .text breakToken, .text " two".toList, .text breakToken]] := by
    have hname : "td".toList ≠ breakName := by decide
    have hraw : rawElements.contains "td".toList = false := by decide
    simp only [brokenCell, unbroken, hname, hraw, and_true, Bool.false_eq_true, if_true, if_false]
  have hcell : tidy (readingOrder true (unbroken false (rootOf brokenCell).children)) =
      .start "td".toList :: (textSigns "one \\n two\\n".toList ++ [.finish "td".toList]) := by
    show tidy (readingOrder true (unbroken false brokenCell)) = _
    rw [hleft]
    simp only [readingOrder]
    decide
  obtain ⟨us, houtline, -, -, hroot⟩ := line_breaks_replaced_iff hread hapart
  obtain ⟨horder, hfree⟩ := hroot hnames
  exact ⟨us, houtline, horder.trans hcell, hfree.mpr hplain⟩

/-- A line break with a class stays an element, and what is before and after it is glued
together. -/
theorem line_break_with_class_kept : ∃ o cell node,
    outline "<td>a<br class=\"x\">b</td>".toList = .ok o ∧
      o.at? [("td".toList, 0)] = some cell ∧ cell.content = "ab".toList ∧
        o.at? [("td".toList, 0), (breakName, 0)] = some node ∧ node.tag = breakName := by
  have hmarkup : strictMarkup "<td>a<br class=\"x\">b</td>".toList =
      .ok "<td>a<br class=\"x\"/>b</td>".toList := by
    decide +kernel
  have htokens : tokens "<td>a<br class=\"x\"/>b</td>".toList =
      .ok [.opening "td".toList [], .text "a".toList,
        .emptyTag breakName [("class".toList, "x".toList)], .text "b".toList,
        .closing "td".toList] := by
    decide +kernel
  rw [outline, hmarkup]
  dsimp only
  rw [Tree.read, htokens]
  exact ⟨_, _, _, rfl, rfl, rfl, rfl, rfl⟩

end TestScribe.Recording
