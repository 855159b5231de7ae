import TestScribe.Proofs.Markup.Grown
import TestScribe.Proofs.Markup.ReadingOrder
import TestScribe.Proofs.Markup.WrittenForm

/-!
# Reading any document again

The tree of any document can be written down, and the written form can be read. Two things are
not read as they were written: a declaration comes back as an instruction, since it is written
like one, and an end tag whose name ends in blanks comes back without them, so that its element
may end elsewhere. But every construct is read from its beginning to its end, and so the tokens
are known (`respelled`):

> `read_respelled`: what was written is read as these tokens.
> `readingOrder_reread`: the characters and the elements are the same, in the same order, up to
> runs of spacing.

There is one exception. A declaration may hold a `>`, and as an instruction it would end there.
So it is asked that none does (`EndsLast`).
-/

namespace TestScribe.Markup

/-! ## Tokens of the written form -/

/-- What a special construct is read as after it was written. -/
def respelledSpecial : Special → Text → List Token
  | .comment, s => [.special .comment s]
  | .cdata, s => [.special .cdata s]
  | .declaration, s => [.special .instruction (s ++ ['?'])]
  | .doctype, s => [.special .doctype s, .text ['\n']]
  | .instruction, s => [.special .instruction s]

/-- What trees are read as after they were written. -/
def respelled : List Tree → List Token
  | [] => []
  | .text s :: ts => .text s :: respelled ts
  | .special kind s :: ts => respelledSpecial kind s ++ respelled ts
  | .element name as children :: ts =>
    (if voidElements.contains name then [.emptyTag name (restatedAttributes name as)]
      else .opening name (restatedAttributes name as) :: respelled children ++
        [.closing (endName name)]) ++ respelled ts

/-- The special constructs of a document. -/
def specialsOf : List Tree → List (Special × Text)
  | [] => []
  | .text _ :: ts => specialsOf ts
  | .special kind s :: ts => (kind, s) :: specialsOf ts
  | .element _ _ children :: ts => specialsOf children ++ specialsOf ts

/-- The special construct does not end early when it is written: a declaration is read as an
instruction then. -/
def EndsLast (kind : Special) (s : Text) : Prop := kind = .declaration → '>' ∉ s

/-- Something is true of the special constructs of a document. -/
def EachSpecial (p : Special → Text → Prop) (ts : List Tree) : Prop :=
  ∀ x ∈ specialsOf ts, p x.1 x.2

section
variable {p : Special → Text → Prop} {ts : List Tree}

theorem eachSpecial_nil : EachSpecial p [] := by
  rw [EachSpecial, specialsOf]
  intro x hx
  cases hx

theorem eachSpecial_text {s : Text} : EachSpecial p (.text s :: ts) ↔ EachSpecial p ts := by
  rw [EachSpecial, EachSpecial, specialsOf]

theorem eachSpecial_special {kind : Special} {s : Text} :
    EachSpecial p (.special kind s :: ts) ↔ p kind s ∧ EachSpecial p ts := by
  rw [EachSpecial, EachSpecial, specialsOf, List.forall_mem_cons]

theorem eachSpecial_element {name : Text} {as : Attributes} {children : List Tree} :
    EachSpecial p (.element name as children :: ts) ↔
      EachSpecial p children ∧ EachSpecial p ts := by
  rw [EachSpecial, EachSpecial, EachSpecial, specialsOf, List.forall_mem_append]

end

/-! ## The written form of elements -/

section
variable (raw : Bool) {name : Text} (as : Attributes) (children ts : List Tree) (s : Text)

theorem write_void (h : voidElements.contains name = true) :
    Tree.write.go raw (.element name as [] :: ts) ++ s =
      '<' :: (name ++ (writeAttributes name as ++
        '/' :: '>' :: (Tree.write.go raw ts ++ s))) := by
  rw [Tree.write.go, Tree.write, if_pos (by rw [h]; rfl)]
  simp

theorem write_open (h : voidElements.contains name = false) :
    Tree.write.go raw (.element name as children :: ts) ++ s =
      '<' :: (name ++ (writeAttributes name as ++
        '>' :: (Tree.write.go (rawElements.contains name) children ++
          '<' :: '/' :: (name ++ '>' :: (Tree.write.go raw ts ++ s))))) := by
  rw [Tree.write.go, Tree.write, if_neg (by rw [h, Bool.and_false]; exact Bool.false_ne_true)]
  simp

end

/-! ## Text -/

theorem reads_escape (t : Text) {s : Text} {us : List Token} (h : Reads s us) :
    Reads (escape t ++ s) (.text t :: us) := by
  induction t with
  | nil => exact h.of_alike (alike_text_nil us).symm
  | cons c t ih =>
    rw [escape, List.flatMap_cons, List.append_assoc]
    exact (reads_spellsChar (spellsChar_escapeChar c) ih).of_alike (alike_text_append [c] t us)

/-! ## Special constructs -/

section
variable (last : Bool) {inside : Text} (rest : Text)

/-- A declaration that is read to its end is one step. -/
theorem step_declaration {s : Text} {kind : Special}
    (h : declaration s = .ok (.complete [.special kind inside] rest)) :
    step last '<' ('!' :: s) = .ok (.go [.special kind inside] rest) := by
  rw [step, if_pos rfl, lessThan, if_neg (by decide), if_neg (by decide), if_neg (by decide),
    if_pos rfl, h]
  rfl

theorem step_comment (hs : Unclosed commentEnd? inside) :
    step last '<' ("!--".toList ++ (inside ++ ("-->".toList ++ rest))) =
      .ok (.go [.special .comment inside] rest) := by
  refine step_declaration last rest ?_
  show Except.ok (specialReading .comment
    (until? commentEnd? (inside ++ ("-->".toList ++ rest)))) = _
  rw [until?_unclosed closer_comment hs]
  rfl

/-- A section for characters is read up to its end. -/
theorem markedSection_of_until? {c : Char} {cs : Text} (hc : isLetter c = true)
    (hname : characterSections.contains
      (Text.lower ((c :: cs).takeWhile isSectionNameChar)) = true)
    (hmore : ((c :: cs).dropWhile isSectionNameChar).dropWhile isBlank ≠ [])
    (hfound : until? sectionEnd? (c :: cs) = some (inside, rest)) :
    markedSection (c :: cs) = .ok (.complete [sectionToken inside] rest) := by
  rw [markedSection, if_pos hc]
  dsimp only
  rw [if_neg hmore, if_pos hname, hfound]

theorem step_cdata (hs : Unclosed sectionEnd? inside) :
    step last '<' ("![CDATA[".toList ++ (inside ++ ("]]>".toList ++ rest))) =
      .ok (.go [.special .cdata inside] rest) := by
  have hfound := until?_unclosed closer_section
    (Unclosed.append_left closer_section (p := "CDATA[".toList) rfl hs) rest
  rw [List.append_assoc] at hfound
  refine step_declaration last rest ?_
  have hmore : (("CDATA[".toList ++ (inside ++ ("]]>".toList ++ rest))).dropWhile
      isSectionNameChar).dropWhile isBlank = '[' :: (inside ++ ("]]>".toList ++ rest)) := rfl
  have hread : markedSection ('C' :: ("DATA[".toList ++ (inside ++ ("]]>".toList ++ rest)))) =
      .ok (.complete [sectionToken ("CDATA[".toList ++ inside)] rest) :=
    markedSection_of_until? rest (by decide) (by rfl)
      (fun h => List.cons_ne_nil _ _ (hmore.symm.trans h)) hfound
  exact hread

/-- An instruction is read up to its `>`. -/
theorem step_instruction (hs : '>' ∉ inside) :
    step last '<' ('?' :: (inside ++ '>' :: rest)) =
      .ok (.go [.special .instruction inside] rest) := by
  rw [step, if_pos rfl, lessThan, if_neg (by decide), if_neg (by decide), if_pos rfl,
    Text.cutAt?_append hs]
  rfl

/-- A document type is read up to its `>`. -/
theorem declaration_doctype {s : Text} (hword : Text.lower (s.take 7) = "doctype".toList)
    (hcomment : ∀ r, s ≠ '-' :: '-' :: r) (hsection : ∀ r, s ≠ '[' :: r)
    (hcut : Text.cutAt? '>' s = some (inside, rest)) :
    declaration s = .ok (.complete [doctypeToken inside] rest) := by
  rw [declaration, if_pos hword, hcut]
  · exact hcomment
  · exact hsection

theorem step_doctype (hs : '>' ∉ inside) :
    step last '<' ("!DOCTYPE ".toList ++ (inside ++ '>' :: rest)) =
      .ok (.go [.special .doctype inside] rest) := by
  have hmore : '>' ∉ "DOCTYPE ".toList ++ inside := by
    rw [List.mem_append, not_or]
    exact ⟨by decide, hs⟩
  have hcut := Text.cutAt?_append hmore rest
  rw [List.append_assoc] at hcut
  refine step_declaration last rest (declaration_doctype rest rfl ?_ ?_ hcut)
  · exact fun r h => absurd (List.cons.inj h).1 (by decide)
  · exact fun r h => absurd (List.cons.inj h).1 (by decide)

end

/-- A special construct is read as known. -/
theorem reads_writeSpecial {kind : Special} {inside s : Text} {us : List Token}
    (hs : MayHold kind inside) (hend : EndsLast kind inside) (h : Reads s us) :
    Reads (writeSpecial kind inside ++ s) (respelledSpecial kind inside ++ us) := by
  have hsplit : ∀ first t last : Text, (first ++ t ++ last) ++ s = first ++ (t ++ (last ++ s)) :=
    fun first t last => by rw [List.append_assoc, List.append_assoc]
  cases kind with
  | comment =>
    have hwritten : writeSpecial .comment inside ++ s =
        '<' :: ("!--".toList ++ (inside ++ ("-->".toList ++ s))) := hsplit _ _ _
    rw [hwritten]
    exact Reads.step (fun last => step_comment last s hs) h
  | cdata =>
    have hwritten : writeSpecial .cdata inside ++ s =
        '<' :: ("![CDATA[".toList ++ (inside ++ ("]]>".toList ++ s))) := hsplit _ _ _
    rw [hwritten]
    exact Reads.step (fun last => step_cdata last s hs) h
  | declaration =>
    have hmore : '>' ∉ inside ++ ['?'] := by
      rw [List.mem_append, not_or]
      exact ⟨hend rfl, by decide⟩
    have hwritten : writeSpecial .declaration inside ++ s =
        '<' :: '?' :: ((inside ++ ['?']) ++ '>' :: s) :=
      (hsplit _ _ _).trans (congrArg (fun t => '<' :: '?' :: t) (List.append_assoc _ ['?'] _).symm)
    rw [hwritten]
    exact Reads.step (fun last => step_instruction last s hmore) h
  | doctype =>
    have hline : Reads ('\n' :: s) (.text ['\n'] :: us) := h.plain (by decide)
    have hwritten : writeSpecial .doctype inside ++ s =
        '<' :: ("!DOCTYPE ".toList ++ (inside ++ '>' :: '\n' :: s)) := hsplit _ _ _
    rw [hwritten]
    show Reads _ ([.special .doctype inside] ++ .text ['\n'] :: us)
    exact Reads.step (fun last => step_doctype last ('\n' :: s) hs) hline
  | instruction =>
    have hwritten : writeSpecial .instruction inside ++ s = '<' :: '?' :: (inside ++ '>' :: s) :=
      hsplit _ _ _
    rw [hwritten]
    exact Reads.step (fun last => step_instruction last s hs) h

/-! ## Elements -/

theorem isAttributes_restated (name : Text) {as : Attributes} (h : IsAttributes as) :
    SpellsAttributes (writeAttributes name as) (restatedAttributes name as) ∧
      (restatedAttributes name as).keys.Nodup :=
  ⟨spellsAttributes_write name h.names, (keys_restatedAttributes name as).nodup_iff.mpr h.keys⟩

/-- The start tag of an element with raw content takes the content and the end tag along. -/
theorem step_raw (last : Bool) {name a inside s : Text} {as : Attributes} (hname : IsTagName name)
    (hraw : rawElements.contains name = true) (ha : SpellsAttributes a as)
    (hkeys : as.keys.Nodup) (hs : Unclosed (rawEnd? name) inside) :
    step last '<' (name ++ (a ++ '>' :: (inside ++ '<' :: '/' :: (name ++ '>' :: s)))) =
      .ok (.go [.opening name as, .text inside, .closing name] s) := by
  have hfound := until?_unclosed (closer_raw hraw) hs s
  have hmark : inside ++ ("</".toList ++ name ++ ['>'] ++ s) =
      inside ++ '<' :: '/' :: (name ++ '>' :: s) := by simp
  rw [hmark] at hfound
  rw [lessThan_of_startTag hname (startTag_of_spells hname ha hkeys _), continueAfter,
    if_pos hraw, rawContent?_eq_until?, hfound]

/-- The written form of trees is read as known. -/
theorem reads_write {ts : List Tree} (h : Grown ts) : ∀ (_ : EachSpecial EndsLast ts) {s : Text}
    {us : List Token}, Reads s us → Reads (Tree.write.go false ts ++ s) (respelled ts ++ us) := by
  induction h with
  | nil =>
    intro _ s us hs
    rw [Tree.write.go, respelled]
    exact hs
  | @text t ts h ih =>
    intro hend s us hs
    rw [eachSpecial_text] at hend
    rw [Tree.write.go, Tree.write, if_neg Bool.false_ne_true, respelled, List.append_assoc]
    exact reads_escape t (ih hend hs)
  | @special kind t ts ht h ih =>
    intro hend s us hs
    rw [eachSpecial_special] at hend
    rw [Tree.write.go, Tree.write, respelled, List.append_assoc, List.append_assoc]
    exact reads_writeSpecial ht hend.1 (ih hend.2 hs)
  | @element name as children ts hname has hraw hvoid hchildren h ihc ih =>
    intro hend s us hs
    rw [eachSpecial_element] at hend
    obtain ⟨hwritten, hkeys⟩ := isAttributes_restated name has
    have hrest := ih hend.2 hs
    rw [respelled]
    by_cases hv : voidElements.contains name = true
    · rw [hvoid hv, write_void _ _ _ _ hv, if_pos hv, List.append_assoc]
      exact Reads.step (fun last => step_emptyTag last hname hwritten hkeys (.slash _)) hrest
    · -- The end tag and what follows, then the contents, then the start tag.
      have hclosing := Reads.step (fun last => step_closing last hname) hrest
      have hcontents := ihc hend.1 hclosing
      have h' := Reads.step (fun last => step_opening last hname hraw hwritten hkeys) hcontents
      rw [write_open _ _ _ _ _ (Bool.eq_false_iff.mpr hv), if_neg hv, hraw]
      simpa using h'
  | @raw name as children ts hname has hraw hchildren h ih =>
    intro hend s us hs
    rw [eachSpecial_element] at hend
    obtain ⟨hwritten, hkeys⟩ := isAttributes_restated name has
    have hrest := ih hend.2 hs
    have hv := voidElements_of_raw hraw
    have hclose : endName name = name := by
      rcases eq_of_raw hraw with rfl | rfl
      · decide
      · decide
    rw [respelled, if_neg (by rw [hv]; exact Bool.false_ne_true), hclose,
      write_open _ _ _ _ _ hv, hraw]
    cases hchildren with
    | nothing =>
      have hnil := (closer_raw hraw).unclosed_nil
      have h' := Reads.step (fun last => step_raw last hname hraw hwritten hkeys hnil) hrest
      rw [Tree.write.go, respelled]
      exact h'.of_alike ((alike_text_nil _).cons _)
    | @text inside hinside =>
      have h' := Reads.step (fun last => step_raw last hname hraw hwritten hkeys hinside) hrest
      rw [Tree.write.go, Tree.write.go, Tree.write, if_pos rfl, respelled, respelled,
        List.append_nil]
      exact h'

/-- The written form of a tree is read as known. -/
theorem read_respelled {ts : List Tree} (h : Grown ts) (hend : EachSpecial EndsLast ts) :
    Tree.read (writeDocument ts) = .ok (Tree.ofTokens (respelled ts)) := by
  have hreads := reads_write h hend Reads.nil
  rw [List.append_nil, List.append_nil] at hreads
  exact read_of_reads hreads

/-! ## Reading order -/

/-- The line end after a document type is a text when it is read again. -/
theorem signs_respelledSpecial (kind : Special) (s : Text) :
    tidy ((respelledSpecial kind s).flatMap (Token.signs false)) = tidy (specialSigns kind) := by
  cases kind with
  | comment => rfl
  | cdata => rfl
  | declaration => rfl
  | doctype => rfl
  | instruction => rfl

theorem nested_respelledSpecial (kind : Special) (s : Text) :
    Nested (respelledSpecial kind s) (specialSigns kind) := by
  cases kind with
  | comment => exact nested_special .comment s
  | cdata => exact nested_special .cdata s
  | declaration => exact nested_special .instruction (s ++ ['?'])
  | doctype => exact ((nested_special .doctype s).append (nested_text ['\n'])).of_tidy rfl
  | instruction => exact nested_special .instruction s

/-- Whatever is put together like the written form of trees is true of the written form. Raw
content is nothing or a text, so it needs no case of its own. -/
theorem Grown.shape {P : List Tree → Prop} (hnil : P [])
    (htext : ∀ (s : Text) (ts : List Tree), P ts → P (.text s :: ts))
    (hspecial : ∀ (kind : Special) (s : Text) (ts : List Tree), P ts → P (.special kind s :: ts))
    (helement : ∀ (name : Text) (as : Attributes) (children ts : List Tree),
      (voidElements.contains name = true → children = []) → P children → P ts →
        P (.element name as children :: ts)) {ts : List Tree} (h : Grown ts) : P ts := by
  induction h with
  | nil => exact hnil
  | text h ih => exact htext _ _ ih
  | special hs h ih => exact hspecial _ _ _ ih
  | element hname has hraw hvoid hchildren h ihc ih => exact helement _ _ _ _ hvoid ihc ih
  | raw hname has hraw hchildren h ih =>
    refine helement _ _ _ _ (fun hv => ?_) ?_ ih
    · rw [voidElements_of_raw hraw] at hv
      cases hv
    · cases hchildren with
      | nothing => exact hnil
      | text hs => exact htext _ _ hnil

theorem signs_respelled {ts : List Tree} (h : Grown ts) :
    tidy ((respelled ts).flatMap (Token.signs false)) = tidy (readingOrder false ts) := by
  refine Grown.shape (P := fun ts => tidy ((respelled ts).flatMap (Token.signs false)) =
    tidy (readingOrder false ts)) ?_ ?_ ?_ ?_ h
  · rw [respelled, readingOrder]
    rfl
  · intro s ts ih
    rw [respelled, readingOrder, List.flatMap_cons, Token.signs]
    exact tidy_congr rfl ih
  · intro kind s ts ih
    rw [respelled, readingOrder, List.flatMap_append]
    exact tidy_congr (signs_respelledSpecial kind s) ih
  · intro name as children ts hvoid ihc ih
    rw [respelled, readingOrder, List.flatMap_append]
    refine tidy_congr ?_ ih
    by_cases hv : voidElements.contains name = true
    · rw [if_pos hv, hvoid hv, readingOrder]
      rfl
    · rw [if_neg hv, List.cons_append, List.flatMap_cons, List.flatMap_append, Token.signs,
        if_neg hv]
      -- An end tag is not met by itself, and without ends it adds nothing.
      have hcontents := tidy_congr ihc (rfl : tidy [] = tidy (finishes false name))
      exact congrArg (prepend (.start name)) hcontents

/-- What is met in a document is met in the same order when it is read again, up to runs of
spacing. -/
theorem readingOrder_reread {ts : List Tree} (h : Grown ts) :
    tidy (readingOrder false (Tree.ofTokens (respelled ts))) = tidy (readingOrder false ts) := by
  rw [readingOrder_ofTokens, signs_respelled h]

/-- End tags with these names are read as they are written. -/
def EndsByName (ts : List Tree) : Prop :=
  ∀ name, Sign.start name ∈ readingOrder true ts → endName name = name

theorem nested_respelled {ts : List Tree} (h : Grown ts) :
    EndsByName ts → Nested (respelled ts) (readingOrder true ts) := by
  refine Grown.shape (P := fun ts => EndsByName ts →
    Nested (respelled ts) (readingOrder true ts)) ?_ ?_ ?_ ?_ h
  · intro _
    rw [respelled, readingOrder]
    exact Nested.nil
  · intro s ts ih hnames
    rw [EndsByName, readingOrder] at hnames
    rw [respelled, readingOrder]
    exact (nested_text s).append (ih fun n hn => hnames n (List.mem_append_right _ hn))
  · intro kind s ts ih hnames
    rw [EndsByName, readingOrder] at hnames
    rw [respelled, readingOrder]
    exact (nested_respelledSpecial kind s).append
      (ih fun n hn => hnames n (List.mem_append_right _ hn))
  · intro name as children ts hvoid ihc ih hnames
    rw [EndsByName, readingOrder] at hnames
    have hname : endName name = name := hnames name List.mem_cons_self
    have hrest := ih fun n hn => hnames n (List.mem_append_right _ hn)
    have hchildren := ihc fun n hn =>
      hnames n (List.mem_append_left _ (List.mem_cons_of_mem _ (List.mem_append_left _ hn)))
    rw [respelled, readingOrder, hname]
    refine Nested.append ?_ hrest
    by_cases hv : voidElements.contains name = true
    · rw [if_pos hv, hvoid hv, readingOrder]
      exact nested_emptyTag name _
    · rw [if_neg hv]
      exact Nested.element _ (Bool.eq_false_iff.mpr hv) hchildren

/-- Where all end tags are read as they are written, elements also end where they did. -/
theorem readingOrder_reread_ends {ts : List Tree} (h : Grown ts) (hnames : EndsByName ts) :
    tidy (readingOrder true (Tree.ofTokens (respelled ts))) = tidy (readingOrder true ts) :=
  readingOrder_of_nested (nested_respelled h hnames)

end TestScribe.Markup
