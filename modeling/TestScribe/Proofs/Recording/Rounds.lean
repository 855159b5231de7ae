import TestScribe.Proofs.Outline.Elements
import TestScribe.Proofs.Recording.Recorded

/-!
# The two rounds of reading

A recorded document is read, written down again with its line breaks replaced, and read once
more. What has been said of the single steps is put together here, for any sound trees:

> `outline_recorded`: the outline of a recorded document is that of its trees, digested.

Digesting (`digested`) goes down a tree by itself: it turns each element into one element
with digested contents (`elementsOf_digested`), so the way to an element is the same before
and after.
-/

namespace TestScribe.Recording

open Markup Reference

/-! ## The prologues -/

/-- The prologues as recorders write them, each on its own line. -/
def openingLines : Text := prologues.flatMap fun p => p ++ ['\n']

/-- In a plain form a `<` is always followed by a letter or a slash. -/
theorem neverBefore_writeWith {x : Char} (hx : isLetter x = false) (hslash : x ≠ '/')
    {text : Text → Text} {attributes : Text → Attributes → Text} {close : Text}
    (htext : ∀ s, '<' ∉ text s)
    (hattributes : ∀ name as, (∀ a ∈ as, isName a.1 = true) → '<' ∉ attributes name as)
    (hclose : '<' ∉ close) {ts : List Tree} (h : Sound ts) :
    Text.NeverBefore '<' x (writeWith text attributes close ts) := by
  induction h with
  | nil =>
    rw [writeWith]
    trivial
  | @text s ts hs ih =>
    rw [writeWith]
    exact (Text.NeverBefore.of_not_mem x (htext s)).append ih
  | @element name as children ts hname hraw hnames hkeys hvoid hchildren hs ihc ih =>
    rw [writeWith]
    -- After the `<` of the start tag comes the first letter of the name.
    have hstart : ∀ s, '<' ∉ name ++ s → Text.NeverBefore '<' x ('<' :: (name ++ s)) := by
      intro s hns
      have hletter := isLetter_of_isName hname
      cases name with
      | nil => cases hname
      | cons c cs =>
        refine ⟨fun _ hcx => ?_, Text.NeverBefore.of_not_mem x hns⟩
        have hc : isLetter c = true := hletter
        rw [hcx, hx] at hc
        cases hc
    have hless := less_not_mem_name hname
    have has := hattributes name as hnames
    refine Text.NeverBefore.append ?_ ih
    by_cases hv : voidElements.contains name = true
    · rw [if_pos hv]
      refine hstart _ ?_
      simp [hless, has, hclose]
    · rw [if_neg hv]
      have hopen : Text.NeverBefore '<' x ('<' :: (name ++ (attributes name as ++ ['>']))) := by
        refine hstart _ ?_
        simp [hless, has]
      have hend : Text.NeverBefore '<' x ('<' :: '/' :: (name ++ ['>'])) := by
        refine ⟨fun _ => Ne.symm hslash, Text.NeverBefore.of_not_mem x ?_⟩
        simp [hless]
      have hall := hopen.append (ihc.append hend)
      simpa using hall

/-- Nothing in a recorded tree looks like a prologue. -/
theorem neverBefore_record {x : Char} (hx : isLetter x = false) (hslash : x ≠ '/')
    {ts : List Tree} (h : Sound ts) : Text.NeverBefore '<' x (asciiForm (record ts)) := by
  rw [asciiForm_record h]
  refine neverBefore_writeWith hx hslash ?_ ?_ (by decide) h
  · intro s
    exact not_mem_asciiForm (.inr rfl) (less_not_mem_escape s)
  · intro name as hnames
    refine not_mem_asciiForm (.inr rfl) fun hmem => ?_
    obtain ⟨a, ha, hc⟩ := List.mem_flatMap.mp hmem
    have hname := less_not_mem_name (hnames a ha)
    have hvalue := less_not_mem_escapeValue a.2
    unfold recordAttribute at hc
    simp [hname, hvalue] at hc

/-- What remains of two opening lines when their texts are removed. -/
theorem replace_openingLines {x y : Char} (p : Text) {q : Text} (hq : '<' ∉ q)
    (hxy : y ≠ x) {s : Text} (hx : Text.NeverBefore '<' x s) (hy : Text.NeverBefore '<' y s)
    (hyless : y ≠ '<') :
    Text.replace ('<' :: y :: q) [] (Text.replace ('<' :: x :: p) []
      (('<' :: x :: p) ++ '\n' :: (('<' :: y :: q) ++ '\n' :: s))) = '\n' :: '\n' :: s := by
  have hsecond : Text.NeverBefore '<' x ('\n' :: (('<' :: y :: q) ++ '\n' :: s)) := by
    have hline : Text.NeverBefore '<' x ('<' :: y :: q) := by
      refine ⟨fun _ => hxy, Text.NeverBefore.of_not_mem x ?_⟩
      simp [hyless.symm, hq]
    have hbreak : Text.NeverBefore '<' x ['\n'] := by
      show '\n' ≠ '<'
      decide
    have hall := hbreak.append (hline.append (hbreak.append hx))
    simpa using hall
  rw [Text.replace_append, List.nil_append, Text.replace_eq_self p [] hsecond,
    Text.replace_cons_of_ne (by decide), Text.replace_append, List.nil_append,
    Text.replace_cons_of_ne (by decide), Text.replace_eq_self q [] hy]

/-- The two prologues, as far as what begins them matters. -/
theorem exists_prologues :
    ∃ p q, '<' ∉ q ∧ prologues = ['<' :: '?' :: p, '<' :: '!' :: q] :=
  ⟨prologues[0].drop 2, prologues[1].drop 2, by decide, by decide⟩

/-- Where there are no opening lines, nothing is removed. -/
theorem withoutPrologue_record {ts : List Tree} (h : Sound ts) :
    withoutPrologue (asciiForm (record ts)) = asciiForm (record ts) := by
  obtain ⟨p, q, -, hprologues⟩ := exists_prologues
  rw [withoutPrologue, hprologues, List.foldl_cons, List.foldl_cons, List.foldl_nil,
    Text.replace_eq_self p [] (neverBefore_record rfl (by decide) h),
    Text.replace_eq_self q [] (neverBefore_record rfl (by decide) h)]

/-- Only the ends of the opening lines are left of them. -/
theorem withoutPrologue_recorded {ts : List Tree} (h : Sound ts) :
    withoutPrologue (asciiForm (openingLines ++ record ts)) =
      asciiForm (record (.text ['\n', '\n'] :: ts)) := by
  obtain ⟨p, q, hq, hprologues⟩ := exists_prologues
  have hopening : asciiForm openingLines = openingLines := asciiForm_of_isAscii (by decide +kernel)
  have hlines : openingLines = ('<' :: '?' :: p) ++ '\n' :: (('<' :: '!' :: q) ++ ['\n']) := by
    rw [openingLines, hprologues]
    simp
  have hrest : asciiForm (record (.text ['\n', '\n'] :: ts)) =
      '\n' :: '\n' :: asciiForm (record ts) := by
    rw [record, writeWith, asciiForm_append]
    rfl
  have hremoved := replace_openingLines p hq (by decide : '!' ≠ '?')
    (neverBefore_record rfl (by decide) h) (neverBefore_record rfl (by decide) h) (by decide)
  rw [asciiForm_append, hopening, hlines, hrest, withoutPrologue, hprologues]
  rw [← hremoved]
  simp only [List.foldl_cons, List.foldl_nil, List.append_assoc, List.cons_append, List.nil_append]

/-! ## Both rounds -/

/-- What the first round of reading makes of recorded trees, where spacing is kept or not. -/
def firstRound (keep : Bool) (ts : List Tree) : List Tree := settled keep [] (arrived ts)

/-- What the second round makes of the trees that were written down again. -/
def secondRound (keep : Bool) (ts : List Tree) : List Tree := settled keep [] (restated ts)

/-- Trees after both rounds. -/
def digested (keep : Bool) (ts : List Tree) : List Tree :=
  secondRound keep (breaksAsText (firstRound keep ts))

/-- A document that is recorded trees once the prologues are gone has the outline of these
trees, digested. -/
theorem outline_of_withoutPrologue {markup : Text} {ts : List Tree} (h : Sound ts)
    (hmarkup : withoutPrologue (asciiForm markup) = asciiForm (record ts)) :
    outline markup = .ok (rootOutline (digested false ts)) := by
  have hread : Tree.read (withoutPrologue (asciiForm markup)) = .ok (firstRound false ts) := by
    rw [hmarkup]
    exact read_record h
  have hfirst : Sound (firstRound false ts) := (Sound.arrived h).settled false []
  have hstrict : strictMarkup markup =
      .ok (writeDocument (breaksAsText (firstRound false ts))) := by
    rw [strictMarkup, hread, ← replace_writeDocument hfirst]
    rfl
  have hsecond := read_writeDocument (Sound.breaksAsText hfirst)
  rw [outline, hstrict]
  show (Tree.read _).map rootOutline = _
  rw [hsecond]
  rfl

/-- The outline of a recorded document is that of its trees, digested. -/
theorem outline_recorded {ts : List Tree} (h : Sound ts) :
    outline (openingLines ++ record ts) =
      .ok (rootOutline (digested false (.text ['\n', '\n'] :: ts))) :=
  outline_of_withoutPrologue (.text h) (withoutPrologue_recorded h)

theorem elementsOf_firstRound (keep : Bool) (ts : List Tree) :
    elementsOf (firstRound keep ts) = (elementsOf ts).map fun e =>
      ⟨e.name, arriveAttributes e.name e.attributes,
        firstRound (preformatted.contains e.name || keep) e.children⟩ := by
  rw [firstRound, arrived, elementsOf_settled, elementsOf_rework, List.map_map]
  rfl

theorem elementsOf_secondRound (keep : Bool) (ts : List Tree) :
    elementsOf (secondRound keep ts) = (elementsOf ts).map fun e =>
      ⟨e.name, restatedAttributes e.name e.attributes,
        secondRound (preformatted.contains e.name || keep) e.children⟩ := by
  rw [secondRound, restated, elementsOf_settled, elementsOf_rework, List.map_map]
  rfl

/-- An element after both rounds. -/
def digestedElement (keep : Bool) (e : Element) : Element :=
  ⟨e.name, restatedAttributes e.name (arriveAttributes e.name e.attributes),
    digested (preformatted.contains e.name || keep) e.children⟩

/-- Each element is digested by itself. -/
theorem elementsOf_digested (keep : Bool) (ts : List Tree) :
    elementsOf (digested keep ts) =
      ((elementsOf ts).filter isKept).map (digestedElement keep) := by
  have hkept : (isKept ∘ fun e => ⟨e.name, arriveAttributes e.name e.attributes,
      firstRound (preformatted.contains e.name || keep) e.children⟩) = isKept := by
    funext e
    simp [isKept, arriveAttributes]
  rw [digested, elementsOf_secondRound, elementsOf_breaksAsText, elementsOf_firstRound,
    List.filter_map, hkept, List.map_map, List.map_map]
  rfl

/-! ## Finding the way -/

/-- The children of a digested element are its children, digested, where the line breaks are
not asked for. -/
theorem childrenNamed_digestedElement_of_ne {e : Element} (keep : Bool) {name : Text}
    (hname : name ≠ breakName) :
    (digestedElement keep e).childrenNamed name =
      (e.childrenNamed name).map (digestedElement (preformatted.contains e.name || keep)) := by
  have hnamed : ∀ keep, ((fun c => decide (c.name = name)) ∘ digestedElement keep) =
      fun c => decide (c.name = name) := fun _ => rfl
  -- An element of this name is no line break, so it is kept.
  have hkept : ∀ c : Element, (decide (c.name = name) && isKept c) = decide (c.name = name) := by
    intro c
    by_cases hc : c.name = name
    · have hbreak : c.name ≠ breakName := hc ▸ hname
      simp [isKept, hbreak]
    · simp [hc]
  rw [Element.childrenNamed, digestedElement, elementsOf_digested, List.filter_map, hnamed,
    List.filter_filter, List.filter_congr fun c _ => hkept c]
  rfl

/-- A name that both rounds of reading treat as any other. -/
def isPlainName (name : Text) : Bool := name ≠ breakName && !preformatted.contains name

/-- The children of a digested element are its children, digested. -/
theorem childrenNamed_digestedElement {e : Element} (he : isPlainName e.name = true) {name : Text}
    (hname : isPlainName name = true) :
    (digestedElement false e).childrenNamed name =
      (e.childrenNamed name).map (digestedElement false) := by
  simp only [isPlainName, Bool.and_eq_true, decide_eq_true_eq, Bool.not_eq_true'] at he hname
  rw [childrenNamed_digestedElement_of_ne false hname.1, he.2]
  rfl

/-- A path of plain names leads through a digested element as through the element. -/
theorem walk_digestedElement {path : List Text} (hpath : ∀ name ∈ path, isPlainName name = true) :
    ∀ {e : Element}, isPlainName e.name = true →
      (digestedElement false e).walk path = (e.walk path).map (digestedElement false) := by
  induction path with
  | nil => exact fun _ => rfl
  | cons name path ih =>
    intro e he
    have hname := hpath name List.mem_cons_self
    rw [Element.walk, Element.walk, childrenNamed_digestedElement he hname]
    cases hc : e.childrenNamed name with
    | nil => rfl
    | cons c cs =>
      have hmem : c ∈ e.childrenNamed name := by
        rw [hc]
        exact List.mem_cons_self
      have hcname : c.name = name := of_decide_eq_true (List.mem_filter.mp hmem).2
      exact ih (fun n hn => hpath n (List.mem_cons_of_mem _ hn)) (hcname ▸ hname)

/-- The name of the root element. -/
def rootName : Text := "html".toList

/-- The outline of a recorded document answers a path of plain names as its root element
does, digested. -/
theorem walk_outline_recorded {ts : List Tree} (h : Sound ts) {root : Element}
    {others : List Element} (hfirst : elementsOf ts = root :: others)
    (hroot : root.name = rootName) :
    ∃ o, outline (openingLines ++ record ts) = .ok o ∧
      ∀ (name : Text) (path : List Text), (∀ n ∈ name :: path, isPlainName n = true) →
        o.walk (name :: path) =
          (root.walk (name :: path)).map fun e => Outline.ofElement (digestedElement false e) := by
  have hplain : isPlainName root.name = true := by
    rw [hroot]
    decide
  have hkept : isKept root = true := by
    have hne : rootName ≠ breakName := by decide
    simp [isKept, hroot, hne]
  -- The root element is the first one again.
  obtain ⟨others', hdigested⟩ : ∃ others',
      elementsOf (digested false (.text ['\n', '\n'] :: ts)) =
        digestedElement false root :: others' := by
    rw [elementsOf_digested, elementsOf_text, hfirst, List.filter_cons_of_pos hkept, List.map_cons]
    exact ⟨_, rfl⟩
  refine ⟨_, outline_recorded h, fun name path hpath => ?_⟩
  rw [rootOutline]
  rw [show "html".toList = rootName from rfl, find?_go_of_elementsOf hdigested hroot]
  show (Outline.ofRoot _ _).walk _ = _
  rw [Outline.walk_ofRoot, walk_digestedElement hpath hplain, Option.map_map]
  rfl

end TestScribe.Recording
