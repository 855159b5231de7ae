import TestScribe.Proofs.Markup.Forest

/-!
# The tree that comes back from a tree

A tree can be taken apart into tokens (`tokensOf`), and a tree grows again from them. It is
not always the same one. Neighbouring texts have become one text, an empty text is gone,
and a text of nothing but spacing has been condensed where spacing is not kept; this is
what `settled` does.

> `ofTokens_tokensOf`: the tree that grows from the tokens of a sound tree is the settled
> tree.

The proof follows the tokens with the tree under construction. What it says of a piece of
the tokens, it says of every state in which they can come (`take_tokensOf`): once the text
in progress is ended, the settled trees have been added to the innermost open element.
-/

namespace TestScribe.Markup

/-! ## Tokens and settled trees -/

/-- The tokens of trees: those of a text character by character, those of an element with
its tags around its contents. -/
def tokensOf : List Tree → List Token
  | [] => []
  | .text s :: ts => s.map (fun c => .text [c]) ++ tokensOf ts
  | .special kind s :: ts => .special kind s :: tokensOf ts
  | .element name as children :: ts =>
    (if voidElements.contains name then [.emptyTag name as]
      else .opening name as :: tokensOf children ++ [.closing name]) ++ tokensOf ts

/-- The tree of a text that has ended: none for an empty one. -/
def ended (keep : Bool) (s : Text) : List Tree :=
  if s = [] then [] else [.text (if keep then s else condense s)]

/-- Settled trees, after a text that has begun `before` them. -/
def settled (keep : Bool) (before : Text) : List Tree → List Tree
  | [] => ended keep before
  | .text s :: ts => settled keep (before ++ s) ts
  | .special kind s :: ts => ended keep before ++ .special kind s :: settled keep [] ts
  | .element name as children :: ts =>
    ended keep before ++
      .element name as (settled (preformatted.contains name || keep) [] children) ::
        settled keep [] ts

theorem elementsOf_ended (keep : Bool) (s : Text) : elementsOf (ended keep s) = [] := by
  unfold ended
  split
  · rfl
  · rfl

/-- Settling keeps the elements and settles what is in them. -/
theorem elementsOf_settled (keep : Bool) (ts : List Tree) : ∀ before,
    elementsOf (settled keep before ts) = (elementsOf ts).map fun e =>
      ⟨e.name, e.attributes, settled (preformatted.contains e.name || keep) [] e.children⟩ := by
  induction ts with
  | nil =>
    intro before
    rw [settled, elementsOf_ended]
    rfl
  | cons t ts ih =>
    intro before
    cases t with
    | text s =>
      rw [settled]
      exact ih _
    | special kind s =>
      rw [settled, elementsOf_append, elementsOf_ended]
      exact ih []
    | element name as children =>
      rw [settled, elementsOf_append, elementsOf_ended]
      exact congrArg (List.cons _) (ih [])

theorem Sound.ended (keep : Bool) (s : Text) : Sound (ended keep s) := by
  unfold Markup.ended
  split
  · exact .nil
  · exact .text .nil

/-- Settled trees are sound. -/
theorem Sound.settled {ts : List Tree} (h : Sound ts) :
    ∀ keep before, Sound (settled keep before ts) := by
  induction h with
  | nil =>
    intro keep before
    rw [Markup.settled]
    exact Sound.ended keep before
  | text hs ih =>
    intro keep before
    rw [Markup.settled]
    exact ih keep _
  | element hname hraw hnames hkeys hvoid hchildren hs ihc ih =>
    intro keep before
    rw [Markup.settled]
    refine (Sound.ended keep before).append
      (.element hname hraw hnames hkeys (fun hv => ?_) (ihc _ []) (ih keep []))
    rw [hvoid hv, Markup.settled]
    rfl

/-! ## Growing -/

namespace Growing

/-- Adds trees in order. -/
def addAll (ts : List Tree) (g : Growing) : Growing := ts.foldl (fun g t => g.add t) g

theorem addAll_append (ts us : List Tree) (g : Growing) :
    g.addAll (ts ++ us) = (g.addAll ts).addAll us :=
  List.foldl_append

/-- Adding trees to an open element gives it children. -/
theorem addAll_of_stack (ts : List Tree) : ∀ (f : Frame) (fs : List Frame) (contents : List Tree)
    (pending : Text) (closed : List Text),
    addAll ts ⟨f :: fs, contents, pending, closed⟩ =
      ⟨{ f with children := ts.reverse ++ f.children } :: fs, contents, pending, closed⟩ := by
  induction ts with
  | nil => exact fun f fs contents pending closed => rfl
  | cons t ts ih =>
    intro f fs contents pending closed
    rw [addAll, List.foldl_cons]
    refine (ih _ fs contents pending closed).trans ?_
    rw [List.reverse_cons, List.append_assoc]
    rfl

/-- With no element open, trees are added to the contents of the document. -/
theorem addAll_of_empty_stack (ts : List Tree) : ∀ (contents : List Tree) (pending : Text)
    (closed : List Text), addAll ts ⟨[], contents, pending, closed⟩ =
      ⟨[], ts.reverse ++ contents, pending, closed⟩ := by
  induction ts with
  | nil => exact fun contents pending closed => rfl
  | cons t ts ih =>
    intro contents pending closed
    rw [addAll, List.foldl_cons]
    refine (ih _ pending closed).trans ?_
    rw [List.reverse_cons, List.append_assoc]
    rfl

/-- The state with the text in progress forgotten. -/
def clear (g : Growing) : Growing := { g with pending := [] }

/-- Ending the text adds its tree. -/
theorem endText_eq (g : Growing) :
    g.endText = g.clear.addAll (ended g.keepsSpacing g.pending.reverse) := by
  obtain ⟨stack, contents, pending, closed⟩ := g
  unfold endText ended
  by_cases hp : pending = []
  · rw [if_pos hp, if_pos (by rw [hp]; rfl)]
    rw [hp]
    rfl
  · rw [if_neg hp, if_neg (by rwa [List.reverse_eq_nil_iff])]
    rfl

theorem keepsSpacing_add (t : Tree) (g : Growing) : (g.add t).keepsSpacing = g.keepsSpacing := by
  obtain ⟨stack, contents, pending, closed⟩ := g
  cases stack with
  | nil => rfl
  | cons f fs => rfl

theorem clear_add (t : Tree) (g : Growing) : (g.add t).clear = g.clear.add t := by
  obtain ⟨stack, contents, pending, closed⟩ := g
  cases stack with
  | nil => rfl
  | cons f fs => rfl

theorem pending_add (t : Tree) (g : Growing) : (g.add t).pending = g.pending := by
  obtain ⟨stack, contents, pending, closed⟩ := g
  cases stack with
  | nil => rfl
  | cons f fs => rfl

theorem closed_add (t : Tree) (g : Growing) : (g.add t).closed = g.closed := by
  obtain ⟨stack, contents, pending, closed⟩ := g
  cases stack with
  | nil => rfl
  | cons f fs => rfl

theorem length_stack_add (t : Tree) (g : Growing) :
    (g.add t).stack.length = g.stack.length := by
  obtain ⟨stack, contents, pending, closed⟩ := g
  cases stack with
  | nil => rfl
  | cons f fs => rfl

theorem addAll_induction {P : Growing → Prop} (hstep : ∀ t g, P g → P (g.add t)) (ts : List Tree) :
    ∀ {g : Growing}, P g → P (g.addAll ts) := by
  induction ts with
  | nil => exact fun hg => hg
  | cons t ts ih => exact fun hg => ih (hstep t _ hg)

/-- Adding trees changes neither the text in progress nor what spacing is kept. -/
theorem frame_addAll (ts : List Tree) (g : Growing) :
    (g.addAll ts).keepsSpacing = g.keepsSpacing ∧ (g.addAll ts).pending = g.pending ∧
      (g.addAll ts).closed = g.closed := by
  refine addAll_induction (P := fun g' => g'.keepsSpacing = g.keepsSpacing ∧
    g'.pending = g.pending ∧ g'.closed = g.closed) (fun t g' hg' => ?_) ts ⟨rfl, rfl, rfl⟩
  rw [keepsSpacing_add, pending_add, closed_add]
  exact hg'

/-- The characters of a text go to the text in progress. -/
theorem take_text (s : Text) : ∀ g : Growing,
    (s.map fun c => Token.text [c]).foldl take g =
      { g with pending := s.reverse ++ g.pending } := by
  induction s with
  | nil => exact fun g => rfl
  | cons c s ih =>
    intro g
    rw [List.map_cons, List.foldl_cons, ih, List.reverse_cons, List.append_assoc]
    rfl

/-- The innermost open element is closed by its name. -/
theorem closeElement_innermost (name : Text) (as : Attributes) (children : List Tree)
    (fs : List Frame) (contents : List Tree) (closed : List Text) :
    closeElement name ⟨⟨name, as, children.reverse⟩ :: fs, contents, [], closed⟩ =
      add (.element name as children) ⟨fs, contents, [], closed⟩ := by
  have hfound : (⟨name, as, children.reverse⟩ :: fs : List Frame).findIdx? (·.name = name) =
      some 0 := by
    rw [List.findIdx?_cons, if_pos (decide_eq_true rfl)]
  unfold closeElement endText
  rw [if_pos rfl]
  dsimp only
  rw [hfound]
  dsimp only
  rw [closeMany, closeMany, closeInnermost]
  dsimp only
  rw [List.reverse_reverse]

/-- Closing an element begins with ending the text. -/
theorem closeElement_of_endText {name : Text} {g h : Growing} (hg : g.endText = h)
    (hh : h.pending = []) : closeElement name g = closeElement name h := by
  have hend : h.endText = h := if_pos hh
  unfold closeElement
  rw [hg, hend]

/-- No text is in progress after it has ended. -/
theorem exists_endText_eq (g : Growing) :
    ∃ stack contents, g.endText = ⟨stack, contents, [], g.closed⟩ := by
  obtain ⟨-, hpending, hclosed⟩ := frame_addAll (ended g.keepsSpacing g.pending.reverse) g.clear
  rw [← endText_eq] at hpending hclosed
  refine ⟨g.endText.stack, g.endText.contents, ?_⟩
  cases he : g.endText with
  | mk stack contents pending closed =>
    rw [he] at hpending hclosed
    rw [show pending = [] from hpending, show closed = g.closed from hclosed]

theorem take_opening {name : Text} (as : Attributes) (g : Growing)
    (hopen : voidElements.contains name = false) :
    g.take (.opening name as) = g.openElement name as := by
  rw [take, if_neg (by rw [hopen]; exact Bool.false_ne_true)]

/-- An element that is closed as soon as it was opened is added without contents. -/
theorem closeElement_openElement (name : Text) (as : Attributes) (g : Growing) :
    (g.openElement name as).closeElement name = g.endText.add (.element name as []) := by
  obtain ⟨stack, contents, hend⟩ := exists_endText_eq g
  rw [openElement, hend]
  exact closeElement_innermost name as [] stack contents g.closed

/-- After the text in progress has ended, what is kept of a state is its open elements and
the contents of the document. -/
theorem endText_parts {g : Growing} (hg : g.closed = []) :
    g.endText = ⟨g.endText.stack, g.endText.contents, [], []⟩ ∧
      g.endText.keepsSpacing = g.keepsSpacing := by
  obtain ⟨stack, contents, hend⟩ := exists_endText_eq g
  refine ⟨by rw [hend, hg], ?_⟩
  rw [endText_eq]
  exact (frame_addAll _ _).1

/-- The tokens of an element add it, once those of its contents do what they should. -/
theorem take_element {name : Text} {as : Attributes} {children : List Tree}
    (hvoid : voidElements.contains name = true → children = [])
    (hchildren : ∀ {g : Growing}, g.closed = [] →
      ((tokensOf children).foldl take g).closed = [] ∧
        ((tokensOf children).foldl take g).endText =
          g.clear.addAll (settled g.keepsSpacing g.pending.reverse children))
    {g : Growing} (hg : g.closed = []) :
    (if voidElements.contains name then [.emptyTag name as]
      else .opening name as :: tokensOf children ++ [.closing name]).foldl take g =
        g.endText.add (.element name as
          (settled (preformatted.contains name || g.keepsSpacing) [] children)) := by
  obtain ⟨hparts, hkeep⟩ := endText_parts hg
  obtain ⟨stack, contents, hend⟩ :
      ∃ stack contents, g.endText = ⟨stack, contents, [], []⟩ := ⟨_, _, hparts⟩
  by_cases hv : voidElements.contains name = true
  · -- One token opens the element and closes it.
    rw [if_pos hv, hvoid hv, settled]
    rw [List.foldl_cons, List.foldl_nil, take, openElement, hend]
    exact closeElement_innermost name as [] stack contents []
  · rw [if_neg hv, List.cons_append, List.foldl_cons, List.foldl_append, take, if_neg hv,
      openElement, hend]
    dsimp only
    -- The contents are read with the element open, and nothing of them is left pending.
    obtain ⟨hclosed, hread⟩ :=
      @hchildren ⟨⟨name, as, []⟩ :: stack, contents, [], []⟩ rfl
    have hkeep' : keepsSpacing ⟨⟨name, as, []⟩ :: stack, contents, [], []⟩ =
        (preformatted.contains name || g.keepsSpacing) := by
      rw [← hkeep, hend]
      rfl
    rw [hkeep', clear, addAll_of_stack, List.append_nil] at hread
    rw [List.foldl_cons, List.foldl_nil, take, endTag, if_neg (by rw [hclosed]; simp),
      closeElement_of_endText hread rfl]
    exact closeElement_innermost name as _ stack contents []

/-- What the tokens of sound trees do to a tree under construction: once the text in
progress is ended, the settled trees have been added. -/
theorem take_tokensOf {ts : List Tree} (h : Sound ts) : ∀ {g : Growing}, g.closed = [] →
    ((tokensOf ts).foldl take g).closed = [] ∧
      ((tokensOf ts).foldl take g).endText =
        g.clear.addAll (settled g.keepsSpacing g.pending.reverse ts) := by
  induction h with
  | nil =>
    intro g hg
    rw [tokensOf, settled]
    exact ⟨hg, endText_eq g⟩
  | @text s ts hs ih =>
    intro g hg
    -- The characters only join the text in progress, so the state differs in that.
    rw [tokensOf, settled, List.foldl_append, take_text]
    have := @ih { g with pending := s.reverse ++ g.pending } hg
    rwa [List.reverse_append, List.reverse_reverse] at this
  | @element name as children ts hname hraw hnames hkeys hvoid hchildren hs ihc ih =>
    intro g hg
    -- The text in progress ends with the start tag, and what follows begins with none.
    obtain ⟨hparts, hkeep⟩ := endText_parts hg
    generalize hchild : settled (preformatted.contains name || g.keepsSpacing) [] children = cs
    have hclosed : (g.endText.add (.element name as cs)).closed = [] := by
      rw [closed_add, hparts]
    obtain ⟨hclosed', hread⟩ := ih hclosed
    have hclear : g.endText.clear = g.endText := by
      rw [hparts]
      rfl
    have hpending : g.endText.pending = [] := by rw [hparts]
    rw [tokensOf, settled, List.foldl_append, take_element hvoid ihc hg, hchild]
    refine ⟨hclosed', ?_⟩
    rw [hread, keepsSpacing_add, hkeep, pending_add, hpending, clear_add, hclear, addAll_append,
      ← endText_eq]
    rfl

end Growing

/-- The tree that grows from the tokens of a sound tree is the settled tree. -/
theorem ofTokens_tokensOf {ts : List Tree} (h : Sound ts) :
    Tree.ofTokens (tokensOf ts) = settled false [] ts := by
  obtain ⟨-, hread⟩ := @Growing.take_tokensOf ts h Growing.empty rfl
  have hempty : Growing.empty.clear.addAll (settled false [] ts) =
      ⟨[], (settled false [] ts).reverse, [], []⟩ := by
    refine (Growing.addAll_of_empty_stack _ [] [] []).trans ?_
    rw [List.append_nil]
  rw [Tree.ofTokens, Growing.finish, hread]
  rw [show Growing.empty.keepsSpacing = false from rfl,
    show Growing.empty.pending.reverse = [] from rfl, hempty]
  exact List.reverse_reverse _

end TestScribe.Markup
