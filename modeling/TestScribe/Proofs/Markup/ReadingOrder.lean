import TestScribe.Proofs.Markup.Growth

/-!
# Documents in reading order

Whoever reads a document from the beginning to the end meets the characters of its text, the
starts of its elements and, if he cares for them, their ends. Where elements start does not
depend on where others end. So the order of characters and starts is the same for the tokens of
a document and for its tree, however badly the tags are nested:

> `readingOrder_ofTokens`: the tree has the characters and the elements of the tokens, in the
> order of the tokens, once runs of spacing are collapsed.

Ends are another matter. A start tag that ends its element at once brings the end with it, and
an end tag brings the end of the innermost element if this has its name
(`Growing.take_closing_innermost`); what other end tags do depends on the elements that are open.

A tree does not keep all spacing: of a text that has nothing else one character is left. So a run
of spacing is met as one gap, and all that is kept of it is whether there is a line end in it
(`tidy`). Two orders that are the same up to such runs are so within any others (`tidy_congr`).
-/

namespace TestScribe.Markup

/-- What can be met in a document: a character, spacing with or without a line end in it, and the
start and the end of an element. -/
inductive Sign
  | ink (c : Char)
  | gap (line : Bool)
  | start (name : Text)
  | finish (name : Text)
deriving DecidableEq

/-- A character as it is met. -/
def Sign.ofChar (c : Char) : Sign := if isSpacing c then .gap (c == '\n') else .ink c

/-- The characters of a text. -/
def textSigns (s : Text) : List Sign := s.map .ofChar

/-- What is met in a special construct: a document type is written with a line end after it. -/
def specialSigns : Special → List Sign
  | .doctype => [.gap true]
  | _ => []

/-- The end of an element, if ends count. -/
def finishes (ends : Bool) (name : Text) : List Sign := if ends then [.finish name] else []

/-- What is met in trees, in the order of the document. -/
def readingOrder (ends : Bool) : List Tree → List Sign
  | [] => []
  | .text s :: ts => textSigns s ++ readingOrder ends ts
  | .special kind _ :: ts => specialSigns kind ++ readingOrder ends ts
  | .element name _ children :: ts =>
    .start name :: (readingOrder ends children ++ finishes ends name) ++ readingOrder ends ts

/-- What is met in a token, apart from what an end tag ends. -/
def Token.signs (ends : Bool) : Token → List Sign
  | .text s => textSigns s
  | .opening name _ =>
    .start name :: if voidElements.contains name then finishes ends name else []
  | .emptyTag name _ => .start name :: finishes ends name
  | .closing _ => []
  | .special kind _ => specialSigns kind

theorem textSigns_append (s t : Text) : textSigns (s ++ t) = textSigns s ++ textSigns t :=
  List.map_append

theorem readingOrder_append (ends : Bool) (ts us : List Tree) :
    readingOrder ends (ts ++ us) = readingOrder ends ts ++ readingOrder ends us := by
  induction ts with
  | nil =>
    rw [readingOrder]
    rfl
  | cons t ts ih =>
    cases t with
    | text s => rw [List.cons_append, readingOrder, readingOrder, ih, List.append_assoc]
    | special kind s => rw [List.cons_append, readingOrder, readingOrder, ih, List.append_assoc]
    | element name as children =>
      rw [List.cons_append, readingOrder, readingOrder, ih, List.append_assoc]

theorem readingOrder_element (ends : Bool) (name : Text) (as : Attributes)
    (children : List Tree) : readingOrder ends [.element name as children] =
      .start name :: (readingOrder ends children ++ finishes ends name) := by
  rw [readingOrder, readingOrder, List.append_nil]

/-- An element with its end, and what follows it. -/
theorem readingOrder_element_cons (name : Text) (as : Attributes) (children ts : List Tree) :
    readingOrder true (.element name as children :: ts) =
      .start name :: (readingOrder true children ++ .finish name :: readingOrder true ts) := by
  simp [readingOrder, finishes]

theorem start_not_mem_textSigns (name s : Text) : Sign.start name ∉ textSigns s := by
  intro h
  obtain ⟨c, -, hc⟩ := List.mem_map.mp h
  unfold Sign.ofChar at hc
  split at hc <;> cases hc

theorem start_not_mem_specialSigns (name : Text) (kind : Special) :
    Sign.start name ∉ specialSigns kind := by
  cases kind <;> simp [specialSigns]

theorem start_mem_readingOrder_text {ends : Bool} {name s : Text} {ts : List Tree} :
    .start name ∈ readingOrder ends (.text s :: ts) ↔ .start name ∈ readingOrder ends ts := by
  rw [readingOrder, List.mem_append]
  exact or_iff_right (start_not_mem_textSigns name s)

theorem start_mem_readingOrder_special {ends : Bool} {name s : Text} {kind : Special}
    {ts : List Tree} : .start name ∈ readingOrder ends (.special kind s :: ts) ↔
      .start name ∈ readingOrder ends ts := by
  rw [readingOrder, List.mem_append]
  exact or_iff_right (start_not_mem_specialSigns name kind)

theorem start_mem_readingOrder_element {ends : Bool} {name n : Text} {as : Attributes}
    {children ts : List Tree} : .start name ∈ readingOrder ends (.element n as children :: ts) ↔
      n = name ∨ .start name ∈ readingOrder ends children ∨
        .start name ∈ readingOrder ends ts := by
  have hfinish : Sign.start name ∉ finishes ends n := by
    unfold finishes
    split
    · simp
    · exact List.not_mem_nil
  simp [readingOrder, hfinish, eq_comm]

/-- What starts in trees are the elements within them. -/
theorem start_mem_readingOrder (ends : Bool) {name : Text} {ts : List Tree} :
    .start name ∈ readingOrder ends ts ↔ ∃ e ∈ elementsWithin ts, e.name = name := by
  induction ts using elementsWithin.induct with
  | case1 =>
    rw [readingOrder, elementsWithin]
    simp
  | case2 s ts ih => rw [start_mem_readingOrder_text, elementsWithin, ih]
  | case3 kind s ts ih => rw [start_mem_readingOrder_special, elementsWithin, ih]
  | case4 n as children ts ihc ih =>
    rw [start_mem_readingOrder_element, exists_mem_elementsWithin_element, ihc, ih]

/-! ## Runs of spacing -/

/-- Puts something before an order; spacing joins the spacing that is there. -/
def prepend : Sign → List Sign → List Sign
  | .gap line, .gap line' :: order => .gap (line || line') :: order
  | x, order => x :: order

/-- The order with every run of spacing as one gap. -/
def tidy (order : List Sign) : List Sign := order.foldr prepend []

theorem tidy_cons (x : Sign) (order : List Sign) : tidy (x :: order) = prepend x (tidy order) := rfl

theorem tidy_append (order order' : List Sign) :
    tidy (order ++ order') = order.foldr prepend (tidy order') := List.foldr_append

/-- Anything but spacing stands by itself. -/
theorem prepend_of_ne {x : Sign} (hx : ∀ line, x ≠ .gap line) (order : List Sign) :
    prepend x order = x :: order := by
  cases x with
  | gap line => exact absurd rfl (hx line)
  | _ => rfl

/-- Spacing does not reach over anything else. -/
theorem prepend_append_cons {x : Sign} (hx : ∀ line, x ≠ .gap line) (y : Sign)
    (order rest : List Sign) : prepend y (order ++ x :: rest) = prepend y order ++ x :: rest := by
  cases y with
  | gap line =>
    cases order with
    | nil =>
      cases x with
      | gap line' => exact absurd rfl (hx line')
      | _ => rfl
    | cons z order => cases z <;> rfl
  | _ => rfl

theorem foldr_prepend (x : Sign) (order order' : List Sign) :
    (prepend x order).foldr prepend order' = prepend x (order.foldr prepend order') := by
  unfold prepend
  split
  · rename_i line line' order
    show prepend (.gap (line || line')) (order.foldr prepend order') =
      prepend (.gap line) (prepend (.gap line') (order.foldr prepend order'))
    cases order.foldr prepend order' with
    | nil => rfl
    | cons y rest =>
      cases y with
      | gap line'' => exact congrArg (fun b => Sign.gap b :: rest) (Bool.or_assoc line line' line'')
      | _ => rfl
  · rfl

theorem foldr_prepend_tidy (order order' : List Sign) :
    (tidy order).foldr prepend order' = order.foldr prepend order' := by
  induction order with
  | nil => rfl
  | cons x order ih => rw [tidy_cons, foldr_prepend, ih, List.foldr_cons]

/-- What is the same up to runs of spacing is so in a longer order. -/
theorem tidy_congr {before before' after after' : List Sign} (h : tidy before = tidy before')
    (h' : tidy after = tidy after') : tidy (before ++ after) = tidy (before' ++ after') := by
  rw [tidy_append, tidy_append, h', ← foldr_prepend_tidy before, h, foldr_prepend_tidy]

/-- A run of spacing ends where something else comes. -/
theorem tidy_append_cons {x : Sign} (hx : ∀ line, x ≠ .gap line) (before after : List Sign) :
    tidy (before ++ x :: after) = tidy before ++ x :: tidy after := by
  induction before with
  | nil => exact prepend_of_ne hx _
  | cons y before ih => rw [List.cons_append, tidy_cons, ih, prepend_append_cons hx, tidy_cons]

theorem start_mem_tidy {name : Text} {order : List Sign} :
    .start name ∈ tidy order ↔ .start name ∈ order := by
  induction order with
  | nil => rfl
  | cons x order ih =>
    rw [tidy_cons, List.mem_cons, ← ih]
    unfold prepend
    split
    · rename_i line line' rest hrest
      simp [hrest]
    · exact List.mem_cons

/-- A text of spacing is one gap. -/
theorem tidy_textSigns_of_spacing {s : Text} (hs : s ≠ []) (hall : s.all isSpacing = true) :
    tidy (textSigns s) = [.gap (s.contains '\n')] := by
  induction s with
  | nil => exact absurd rfl hs
  | cons c s ih =>
    rw [List.all_cons, Bool.and_eq_true] at hall
    have hc : Sign.ofChar c = .gap ('\n' == c) := by
      rw [Sign.ofChar, if_pos hall.1, Bool.beq_comm]
    rw [textSigns, List.map_cons, tidy_cons, hc, List.contains_cons]
    by_cases hnil : s = []
    · rw [hnil, List.contains_nil, Bool.or_false]
      rfl
    · exact congrArg (prepend _) (ih hnil hall.2)

/-- Condensing changes runs of spacing only. -/
theorem tidy_textSigns_condense {s : Text} (hs : s ≠ []) :
    tidy (textSigns (condense s)) = tidy (textSigns s) := by
  unfold condense
  split
  · rename_i hall
    rw [tidy_textSigns_of_spacing hs hall]
    cases s.contains '\n' with
    | true => rfl
    | false => rfl
  · rfl

namespace Growing

/-- What has been met in open elements, of which the innermost comes first. -/
def stackSigns (ends : Bool) : List Frame → List Sign
  | [] => []
  | f :: fs => stackSigns ends fs ++ .start f.name :: readingOrder ends f.children.reverse

/-- What has been met so far: in the contents of the document, in the open elements, and in
the text in progress. -/
def signs (ends : Bool) (g : Growing) : List Sign :=
  readingOrder ends g.contents.reverse ++ stackSigns ends g.stack ++ textSigns g.pending.reverse

section
variable (ends : Bool) {g : Growing}

theorem signs_of_pending (hg : g.pending = []) :
    g.signs ends = readingOrder ends g.contents.reverse ++ stackSigns ends g.stack := by
  rw [signs, hg]
  exact List.append_nil _

theorem signs_add (t : Tree) (hg : g.pending = []) :
    (g.add t).signs ends = g.signs ends ++ readingOrder ends [t] := by
  rw [signs_of_pending ends ((pending_add t g).trans hg), signs_of_pending ends hg]
  obtain ⟨stack, contents, pending, closed⟩ := g
  cases stack with
  | nil =>
    show readingOrder ends (t :: contents).reverse ++ [] =
      readingOrder ends contents.reverse ++ [] ++ _
    rw [List.append_nil, List.append_nil, List.reverse_cons, readingOrder_append]
  | cons f fs =>
    show readingOrder ends contents.reverse ++
        (stackSigns ends fs ++ .start f.name :: readingOrder ends (t :: f.children).reverse) =
      readingOrder ends contents.reverse ++
        (stackSigns ends fs ++ .start f.name :: readingOrder ends f.children.reverse) ++
          readingOrder ends [t]
    rw [List.reverse_cons, readingOrder_append, List.append_assoc, List.append_assoc,
      List.cons_append]

theorem pending_endText (g : Growing) : g.endText.pending = [] := by
  obtain ⟨stack, contents, hend⟩ := exists_endText_eq g
  rw [hend]

theorem signs_endText (g : Growing) : tidy (g.endText.signs ends) = tidy (g.signs ends) := by
  unfold endText
  split
  · rfl
  · rename_i hpending
    have hsettle : tidy (textSigns (g.settle g.pending.reverse)) =
        tidy (textSigns g.pending.reverse) := by
      unfold settle
      split
      · rfl
      · exact tidy_textSigns_condense fun hnil => hpending (List.reverse_eq_nil_iff.mp hnil)
    rw [signs_add ends _ rfl, readingOrder, readingOrder, List.append_nil,
      signs_of_pending ends rfl, signs]
    exact tidy_congr rfl hsettle

theorem signs_openElement (name : Text) (as : Attributes) (g : Growing) :
    tidy ((g.openElement name as).signs ends) = tidy (g.signs ends ++ [.start name]) := by
  have hpending : (g.openElement name as).pending = [] := pending_endText g
  have hchildren : readingOrder ends ([] : List Tree).reverse = [] := by
    rw [List.reverse_nil, readingOrder]
  have hopened : (g.openElement name as).signs ends = g.endText.signs ends ++ [.start name] := by
    rw [signs_of_pending ends (pending_endText g), signs_of_pending ends hpending]
    unfold openElement
    dsimp only
    rw [stackSigns, hchildren, List.append_assoc]
  rw [hopened]
  exact tidy_congr (signs_endText ends g) rfl

/-- An element that ends at once. -/
theorem signs_closeElement_openElement (name : Text) (as : Attributes) (g : Growing) :
    tidy (((g.openElement name as).closeElement name).signs ends) =
      tidy (g.signs ends ++ .start name :: finishes ends name) := by
  rw [closeElement_openElement, signs_add ends _ (pending_endText g), readingOrder_element,
    readingOrder, List.nil_append]
  exact tidy_congr (signs_endText ends g) rfl

/-- Taking a token that is no end tag adds what is met in it. -/
theorem signs_take_of_ne (g : Growing) {t : Token} (ht : ∀ name, t ≠ .closing name) :
    tidy ((g.take t).signs ends) = tidy (g.signs ends ++ t.signs ends) := by
  cases t with
  | text s =>
    unfold take signs
    rw [List.reverse_append, List.reverse_reverse, textSigns_append, ← List.append_assoc]
    rfl
  | opening name as =>
    by_cases hv : voidElements.contains name = true
    · rw [take, if_pos hv, Token.signs, if_pos hv]
      exact signs_closeElement_openElement ends name as g
    · rw [take, if_neg hv, Token.signs, if_neg hv]
      exact signs_openElement ends name as g
  | emptyTag name as => exact signs_closeElement_openElement ends name as g
  | closing name => exact absurd rfl (ht name)
  | special kind s =>
    unfold take
    rw [signs_add ends _ (pending_endText g), readingOrder, readingOrder, List.append_nil]
    exact tidy_congr (signs_endText ends g) rfl

/-! ## Ends of elements -/

theorem signs_closeInnermost {f : Frame} {fs : List Frame} (hg : g.pending = [])
    (hstack : g.stack = f :: fs) :
    g.closeInnermost.signs ends = g.signs ends ++ finishes ends f.name := by
  obtain ⟨stack, contents, pending, closed⟩ := g
  obtain rfl : pending = [] := hg
  obtain rfl : stack = f :: fs := hstack
  unfold closeInnermost
  dsimp only
  rw [signs_add ends _ rfl, signs_of_pending ends rfl, signs_of_pending ends rfl,
    readingOrder_element]
  simp [stackSigns]

theorem pending_closeInnermost (g : Growing) : g.closeInnermost.pending = g.pending := by
  obtain ⟨stack, contents, pending, closed⟩ := g
  cases stack with
  | nil => rfl
  | cons f fs => exact pending_add _ _

end

section
variable {g : Growing}

theorem signs_closeMany (n : Nat) : ∀ {g : Growing}, g.pending = [] →
    (g.closeMany n).signs false = g.signs false ∧ (g.closeMany n).pending = [] := by
  induction n with
  | zero => exact fun hg => ⟨rfl, hg⟩
  | succ n ih =>
    intro g hg
    obtain ⟨hsigns, hpending⟩ := ih ((pending_closeInnermost g).trans hg)
    refine ⟨hsigns.trans ?_, hpending⟩
    cases hstack : g.stack with
    | nil =>
      unfold closeInnermost
      rw [hstack]
    | cons f fs =>
      rw [signs_closeInnermost false hg hstack]
      exact List.append_nil _

theorem signs_closeElement (name : Text) (g : Growing) :
    tidy ((g.closeElement name).signs false) = tidy (g.signs false) := by
  unfold closeElement
  dsimp only
  split
  · exact signs_endText false g
  · rw [(signs_closeMany _ (pending_endText g)).1]
    exact signs_endText false g

/-- Taking any token adds what is met in it, if ends do not count. -/
theorem signs_take (g : Growing) (t : Token) :
    tidy ((g.take t).signs false) = tidy (g.signs false ++ t.signs false) := by
  by_cases ht : ∀ name, t ≠ .closing name
  · exact signs_take_of_ne false g ht
  · obtain ⟨name, hname⟩ := Classical.not_forall.mp ht
    rw [Classical.not_not.mp hname, Token.signs, List.append_nil, take, endTag]
    split
    · rfl
    · exact signs_closeElement name g

theorem signs_foldl_take (ts : List Token) : ∀ g : Growing,
    tidy ((ts.foldl take g).signs false) =
      tidy (g.signs false ++ ts.flatMap (Token.signs false)) := by
  induction ts with
  | nil => exact fun g => congrArg tidy (List.append_nil _).symm
  | cons t ts ih =>
    intro g
    rw [List.foldl_cons, ih, List.flatMap_cons, ← List.append_assoc]
    exact tidy_congr (signs_take g t) rfl

/-- As many elements as are open can be closed. -/
theorem stack_closeMany (n : Nat) : ∀ {g : Growing}, g.stack.length = n →
    (g.closeMany n).stack = [] := by
  induction n with
  | zero => exact fun hg => List.length_eq_zero_iff.mp hg
  | succ n ih =>
    intro g hg
    obtain ⟨stack, contents, pending, closed⟩ := g
    cases stack with
    | nil => cases hg
    | cons f fs =>
      refine ih ((length_stack_add _ _).trans ?_)
      exact Nat.succ.inj hg

theorem readingOrder_finish (g : Growing) :
    tidy (readingOrder false g.finish) = tidy (g.signs false) := by
  obtain ⟨hsigns, hpending⟩ := signs_closeMany g.endText.stack.length (pending_endText g)
  rw [signs_of_pending false hpending, stack_closeMany _ rfl, stackSigns, List.append_nil] at hsigns
  rw [← signs_endText, ← hsigns]
  rfl

end

/-! ## Well-nested tokens -/

/-- The names of the open elements, the innermost first. -/
def openNames (g : Growing) : List Text := g.stack.map Frame.name

section
variable {g : Growing}

theorem openNames_add (t : Tree) (g : Growing) : (g.add t).openNames = g.openNames := by
  obtain ⟨stack, contents, pending, closed⟩ := g
  cases stack with
  | nil => rfl
  | cons f fs => rfl

theorem openNames_endText (g : Growing) : g.endText.openNames = g.openNames := by
  unfold endText
  split
  · rfl
  · exact openNames_add _ _

theorem closed_endText (g : Growing) : g.endText.closed = g.closed := by
  obtain ⟨stack, contents, hend⟩ := exists_endText_eq g
  rw [hend]

/-- An end tag ends the innermost open element if this has its name. -/
theorem take_closing_innermost (ends : Bool) {name : Text} {names : List Text}
    (hclosed : g.closed = []) (hg : g.openNames = name :: names) :
    (g.take (.closing name)).closed = [] ∧ (g.take (.closing name)).openNames = names ∧
      tidy ((g.take (.closing name)).signs ends) = tidy (g.signs ends ++ finishes ends name) := by
  rw [← openNames_endText] at hg
  cases hstack : g.endText.stack with
  | nil =>
    rw [openNames, hstack] at hg
    cases hg
  | cons f fs =>
    rw [openNames, hstack] at hg
    obtain ⟨rfl, rfl⟩ := List.cons.inj hg
    have htake : g.take (.closing f.name) = g.endText.closeInnermost := by
      have hfound : (f :: fs).findIdx? (fun f' => decide (f'.name = f.name)) = some 0 := by
        rw [List.findIdx?_cons, if_pos (decide_eq_true rfl)]
      rw [take, endTag, if_neg (by rw [hclosed]; simp)]
      unfold closeElement
      dsimp only
      rw [hstack, hfound]
      rfl
    have hinner : g.endText.closeInnermost =
        { g.endText with stack := fs }.add (.element f.name f.attributes f.children.reverse) := by
      unfold closeInnermost
      rw [hstack]
    rw [htake]
    refine ⟨?_, ?_, ?_⟩
    · rw [hinner, closed_add]
      exact (closed_endText g).trans hclosed
    · rw [hinner, openNames_add]
      rfl
    · rw [signs_closeInnermost ends (pending_endText g) hstack]
      exact tidy_congr (signs_endText ends g) rfl

end

end Growing

/-- Tokens that are well nested among themselves: whatever is open when they come is open after
them, and what is met in between is this, up to runs of spacing. -/
def Nested (us : List Token) (order : List Sign) : Prop :=
  ∀ g : Growing, g.closed = [] → (us.foldl Growing.take g).closed = [] ∧
    (us.foldl Growing.take g).openNames = g.openNames ∧
      tidy ((us.foldl Growing.take g).signs true) = tidy (g.signs true ++ order)

section
variable {us vs : List Token} {order order' : List Sign}

theorem Nested.nil : Nested [] [] := fun _ hg =>
  ⟨hg, rfl, congrArg tidy (List.append_nil _).symm⟩

theorem Nested.of_tidy (h : Nested us order) (horder : tidy order = tidy order') :
    Nested us order' := by
  intro g hg
  obtain ⟨hclosed, hnames, hsigns⟩ := h g hg
  exact ⟨hclosed, hnames, hsigns.trans (tidy_congr rfl horder)⟩

theorem Nested.append (hu : Nested us order) (hv : Nested vs order') :
    Nested (us ++ vs) (order ++ order') := by
  intro g hg
  obtain ⟨hclosed, hnames, hsigns⟩ := hu g hg
  obtain ⟨hclosed', hnames', hsigns'⟩ := hv _ hclosed
  rw [List.foldl_append]
  refine ⟨hclosed', hnames'.trans hnames, ?_⟩
  rw [hsigns', ← List.append_assoc]
  exact tidy_congr hsigns rfl

theorem nested_text (s : Text) : Nested [.text s] (textSigns s) := by
  intro g hg
  have hsigns : tidy ((g.take (.text s)).signs true) = tidy (g.signs true ++ textSigns s) :=
    Growing.signs_take_of_ne true g nofun
  exact ⟨hg, rfl, hsigns⟩

theorem nested_special (kind : Special) (s : Text) :
    Nested [.special kind s] (specialSigns kind) := by
  intro g hg
  have hsigns : tidy ((g.take (.special kind s)).signs true) =
      tidy (g.signs true ++ specialSigns kind) :=
    Growing.signs_take_of_ne true g nofun
  refine ⟨?_, ?_, hsigns⟩
  · exact (Growing.closed_add _ _).trans ((Growing.closed_endText g).trans hg)
  · exact (Growing.openNames_add _ _).trans (Growing.openNames_endText g)

theorem nested_emptyTag (name : Text) (as : Attributes) :
    Nested [.emptyTag name as] [.start name, .finish name] := by
  intro g hg
  refine ⟨?_, ?_, Growing.signs_closeElement_openElement true name as g⟩
  · rw [List.foldl_cons, List.foldl_nil, Growing.take, Growing.closeElement_openElement,
      Growing.closed_add, Growing.closed_endText, hg]
  · rw [List.foldl_cons, List.foldl_nil, Growing.take, Growing.closeElement_openElement,
      Growing.openNames_add, Growing.openNames_endText]

/-- Tags of one name around well-nested tokens. -/
theorem Nested.element {name : Text} (as : Attributes)
    (hopen : voidElements.contains name = false) (h : Nested us order) :
    Nested (.opening name as :: us ++ [.closing name])
      (.start name :: (order ++ [.finish name])) := by
  intro g hg
  have htake := Growing.take_opening as g hopen
  obtain ⟨hclosed, hnames, hsigns⟩ := h (g.openElement name as)
    ((Growing.closed_endText g).trans hg)
  have hnames' : (g.openElement name as).openNames = name :: g.openNames :=
    congrArg (List.cons name) (Growing.openNames_endText g)
  rw [hnames'] at hnames
  obtain ⟨hclosed', hnames'', hsigns'⟩ := Growing.take_closing_innermost true hclosed hnames
  rw [List.cons_append, List.foldl_cons, List.foldl_append, htake, List.foldl_cons, List.foldl_nil]
  refine ⟨hclosed', hnames'', ?_⟩
  have hinside : tidy ((us.foldl Growing.take (g.openElement name as)).signs true) =
      tidy (g.signs true ++ [.start name] ++ order) :=
    hsigns.trans (tidy_congr (Growing.signs_openElement true name as g) rfl)
  rw [hsigns', tidy_congr hinside rfl]
  simp [finishes]

end

theorem signs_empty (ends : Bool) : Growing.empty.signs ends = [] := by
  rw [Growing.signs_of_pending ends rfl]
  show readingOrder ends [] ++ [] = []
  rw [readingOrder, List.append_nil]

/-- The tree of well-nested tokens has their elements with their ends. -/
theorem readingOrder_of_nested {us : List Token} {order : List Sign} (h : Nested us order) :
    tidy (readingOrder true (Tree.ofTokens us)) = tidy order := by
  obtain ⟨-, hnames, hsigns⟩ := h Growing.empty rfl
  rw [signs_empty, List.nil_append] at hsigns
  rw [Tree.ofTokens]
  generalize us.foldl Growing.take Growing.empty = g at hnames hsigns ⊢
  have hstack : g.endText.stack = [] := by
    rw [← Growing.openNames_endText] at hnames
    exact List.map_eq_nil_iff.mp hnames
  -- Nothing is open, so nothing has to be closed at the end.
  have hfinish : g.finish = g.endText.contents.reverse := by
    unfold Growing.finish
    dsimp only
    rw [hstack]
    rfl
  have hend := Growing.signs_of_pending true (Growing.pending_endText g)
  rw [hstack, Growing.stackSigns, List.append_nil] at hend
  rw [hfinish, ← hend, Growing.signs_endText, hsigns]

/-- The tree of tokens has what is met in the tokens, in their order, up to runs of spacing. -/
theorem readingOrder_ofTokens (ts : List Token) :
    tidy (readingOrder false (Tree.ofTokens ts)) = tidy (ts.flatMap (Token.signs false)) := by
  rw [Tree.ofTokens, Growing.readingOrder_finish, Growing.signs_foldl_take, signs_empty,
    List.nil_append]

end TestScribe.Markup
