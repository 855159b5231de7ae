import TestScribe.Markup.Tag

/-!
# Reading markup as tokens

A document is scanned from left to right. Most of it is read at once; a construct
that the end of the text cuts off stops the scan. What is left is then scanned a
second time in the knowledge that nothing follows, where a cut-off construct counts
as text; whatever a second stop leaves over is one run of text.

The content of `script` and `style` is text as it stands, up to the matching end
tag; without one the rest of the document is lost.

`step_length_le` says that every step leaves less than it was given; scanning rests on it.
-/

namespace TestScribe.Markup

/-! ## Content that is not markup -/

/-- The elements whose content is kept as it stands. -/
def rawElements : List Text := ["script".toList, "style".toList]

/-- What follows the end tag of `name`, when one stands right after a `<`. -/
def afterRawEnd? (name : Text) : Text → Option Text
  | '/' :: r =>
    let t := r.dropWhile isBlank
    if Text.lower (t.take name.length) = name then
      match (t.drop name.length).dropWhile isBlank with
      | '>' :: rest => some rest
      | _ => none
    else none
  | _ => none

/-- The content of `name` up to its end tag, and what follows the end tag. -/
def rawContent? (name : Text) : Text → Option (Text × Text)
  | [] => none
  | c :: cs =>
    match if c = '<' then afterRawEnd? name cs else none with
    | some rest => some ([], rest)
    | none => (rawContent? name cs).map fun r => (c :: r.1, r.2)

/-! ## End tags, comments, declarations and sections -/

/-- A character that can follow in the name of a well-formed end tag. -/
def isEndNameChar (c : Char) : Bool :=
  isLetter c || Reference.isDecimal c || "-.:_".toList.contains c

/-- The name of an end tag, from the text between `</` and `>`: blanks may stand on
both sides of a plain name. Any other text whose name begins at once is cut where its
name ends. -/
def endTagName? (inside : Text) : Option Text :=
  let t := inside.dropWhile isBlank
  let plain := t.takeWhile isEndNameChar
  if (t.head?.map isLetter).getD false && Text.blank (t.dropWhile isEndNameChar) then
    some (Text.lower plain)
  else if (inside.head?.map isLetter).getD false then
    some (Text.lower (inside.takeWhile isTagNameChar))
  else none

/-- An end tag, from what follows `</`. Without a name it is a comment, and with
nothing in it, nothing. -/
def endTag (s : Text) : Reading :=
  match Text.cutAt? '>' s with
  | none => .incomplete
  | some (inside, rest) =>
    match endTagName? inside with
    | some name => .complete [.closing name] rest
    | none =>
      if inside = [] then .complete [] rest
      else .complete [.special .comment inside] rest

/-- What stands before the first place where `closes` succeeds, and what `closes`
leaves there. -/
def until? (closes : Text → Option Text) : Text → Option (Text × Text)
  | [] => none
  | c :: cs =>
    match closes (c :: cs) with
    | some rest => some ([], rest)
    | none => (until? closes cs).map fun r => (c :: r.1, r.2)

/-- The end of a comment: two hyphens, blanks, `>`. -/
def commentEnd? : Text → Option Text
  | '-' :: '-' :: r =>
    match r.dropWhile isBlank with
    | '>' :: rest => some rest
    | _ => none
  | _ => none

/-- The end of a section that may hold characters: two brackets and `>`, with blanks
between them. -/
def sectionEnd? : Text → Option Text
  | ']' :: r =>
    match r.dropWhile isBlank with
    | ']' :: q =>
      match q.dropWhile isBlank with
      | '>' :: rest => some rest
      | _ => none
    | _ => none
  | _ => none

/-- The end of a conditional section: one bracket and `>`. -/
def conditionEnd? : Text → Option Text
  | ']' :: r =>
    match r.dropWhile isBlank with
    | '>' :: rest => some rest
    | _ => none
  | _ => none

/-- The construct as `kind`, from the result of looking for its end. -/
def specialReading (kind : Special) : Option (Text × Text) → Reading
  | some (inside, rest) => .complete [.special kind inside] rest
  | none => .incomplete

/-- A character that can follow in the name of a section. -/
def isSectionNameChar (c : Char) : Bool :=
  isLetter c || Reference.isDecimal c || "-_.".toList.contains c

/-- The names of the sections that hold characters. -/
def characterSections : List Text :=
  ["temp".toList, "cdata".toList, "ignore".toList, "include".toList, "rcdata".toList]

/-- The names of the conditional sections. -/
def conditionalSections : List Text := ["if".toList, "else".toList, "endif".toList]

/-- A section's content: characters after `cdata[`, else a declaration. -/
def sectionToken (inside : Text) : Token :=
  if Text.lower (inside.take 6) = "cdata[".toList then .special .cdata (inside.drop 6)
  else .special .declaration inside

/-- A section, from what follows `<![`. -/
def markedSection (s : Text) : Except Rejection Reading :=
  match s with
  | [] => .ok .incomplete
  | c :: _ =>
    if isLetter c then
      let name := Text.lower (s.takeWhile isSectionNameChar)
      if (s.dropWhile isSectionNameChar).dropWhile isBlank = [] then .ok .incomplete
      else
        let found? :=
          if characterSections.contains name then some (until? sectionEnd? s)
          else if conditionalSections.contains name then some (until? conditionEnd? s)
          else none
        match found? with
        | none => .error .unknownSection
        | some none => .ok .incomplete
        | some (some (inside, rest)) => .ok (.complete [sectionToken inside] rest)
    else .error .unknownSection

/-- The text of a document type, which the keyword and one character precede. -/
def doctypeToken (inside : Text) : Token := .special .doctype (inside.drop 8)

/-- A comment, section, document type or other declaration, from what follows `<!`. -/
def declaration (s : Text) : Except Rejection Reading :=
  match s with
  | '-' :: '-' :: r => .ok (specialReading .comment (until? commentEnd? r))
  | '[' :: r => markedSection r
  | _ =>
    if Text.lower (s.take 7) = "doctype".toList then
      match Text.cutAt? '>' s with
      | some (inside, rest) => .ok (.complete [doctypeToken inside] rest)
      | none => .ok .incomplete
    else .ok (specialReading .comment (Text.cutAt? '>' s))

/-! ## References -/

/-- The character that a number names, and what follows the reference: a number must be
followed by something that is no hexadecimal digit, and a semicolon is part of the
reference. -/
def closedNumber? (base : Nat) (digits after : Text) : Option (Char × Text) :=
  match after with
  | [] => none
  | c :: r =>
    if digits = [] || Reference.isHex c then none
    else
      some (Reference.ofNumber (Reference.value base digits), Reference.dropSemicolon (c :: r))

/-- The character that a reference after `&#` names, and what follows it. -/
def numericReference? (s : Text) : Option (Char × Text) :=
  match s with
  | [] => none
  | x :: h =>
    if x = 'x' || x = 'X' then
      closedNumber? 16 (h.takeWhile Reference.isHex) (h.dropWhile Reference.isHex)
    else closedNumber? 10 (s.takeWhile Reference.isDecimal) (s.dropWhile Reference.isDecimal)

/-- A character of a name after an ampersand. -/
def isReferenceNameChar (c : Char) : Bool :=
  isLetter c || Reference.isDecimal c || c = '-' || c = '.'

/-- The name after an ampersand and what follows the reference. At the end of the text
the name stops before its last hyphen or point, since a name must be followed by
something that is no letter or digit. -/
def namedReference? (s : Text) : Option (Text × Text) :=
  let name := s.takeWhile isReferenceNameChar
  match s.dropWhile isReferenceNameChar with
  | c :: r => some (name, Reference.dropSemicolon (c :: r))
  | [] =>
    let last := name.reverse.takeWhile fun c => isLetter c || Reference.isDecimal c
    match name.reverse.drop last.length with
    | [] => none
    | mark :: before => some (before.reverse, mark :: last.reverse)

/-! ## One step -/

/-- One step of a scan. -/
inductive Step
  /-- The tokens were read; the scan goes on at `rest`. -/
  | go (tokens : List Token) (rest : Text)
  /-- The tokens were read; the scan ends and leaves `rest`. -/
  | stop (tokens : List Token) (rest : Text)
deriving Repr, DecidableEq

/-- A reference by number, or the beginning of one, from what follows `&#`. -/
def numberSign (s : Text) : Except Rejection Step :=
  match numericReference? s with
  | some (c, rest) =>
    if Reference.isLongNumber ('#' :: s) then .error .longNumber else .ok (.go [.text [c]] rest)
  | none =>
    if s.contains ';' then .ok (.stop [.text ['&', '#']] s) else .ok (.stop [] ('&' :: '#' :: s))

/-- A reference or a lone ampersand, from what follows the ampersand. -/
def ampersand (last : Bool) (s : Text) : Except Rejection Step :=
  match s with
  | [] => .ok (.stop [] ['&'])
  | '#' :: r => numberSign r
  | c :: r =>
    if isLetter c then
      match namedReference? s with
      | some (name, rest) => .ok (.go [.text (Reference.ofName name)] rest)
      | none => if last && r.isEmpty then .ok (.stop [] [c]) else .ok (.stop [] ('&' :: c :: r))
    else .ok (.go [.text ['&']] (c :: r))

/-- In the last scan a construct that the text cuts off is text: up to and with the
next `>`, else up to the next `<`, else its first character. -/
def asText (s : Text) : Step :=
  match Text.cutAt? '>' s with
  | some (inside, rest) => .go [.text ('<' :: inside ++ ['>'])] rest
  | none =>
    match Text.cutAt? '<' s with
    | some (inside, rest) => .go [.text ('<' :: inside)] ('<' :: rest)
    | none => .go [.text ['<']] s

/-- How the scan goes on after a tag: an element with raw content takes it along. -/
def continueAfter (tokens : List Token) (rest : Text) : Step :=
  match tokens with
  | [.opening name attributes] =>
    if rawElements.contains name then
      match rawContent? name rest with
      | some (inside, rest') =>
        .go [.opening name attributes, .text inside, .closing name] rest'
      | none => .stop [.opening name attributes] []
    else .go tokens rest
  | _ => .go tokens rest

/-- The construct that follows a `<`, or a lone `<`. -/
def lessThan (last : Bool) (s : Text) : Except Rejection Step :=
  match s with
  | [] => .ok (.stop [] ['<'])
  | c :: r =>
    let reading? : Except Rejection (Option Reading) :=
      if isLetter c then (startTag s).map some
      else if c = '/' then .ok (some (endTag r))
      else if c = '?' then .ok (some (specialReading .instruction (Text.cutAt? '>' r)))
      else if c = '!' then (declaration r).map some
      else .ok none
    match reading? with
    | .error e => .error e
    | .ok none => .ok (.go [.text ['<']] s)
    | .ok (some (.complete tokens rest)) => .ok (continueAfter tokens rest)
    | .ok (some .incomplete) => if last then .ok (asText s) else .ok (.stop [] ('<' :: s))

/-- A character of plain text. -/
def isPlain (c : Char) : Bool := c ≠ '<' && c ≠ '&'

/-- One step of a scan of the text `c :: cs`. -/
def step (last : Bool) (c : Char) (cs : Text) : Except Rejection Step :=
  if c = '<' then lessThan last cs
  else if c = '&' then ampersand last cs
  else .ok (.go [.text (c :: cs.takeWhile isPlain)] (cs.dropWhile isPlain))

/-! ## A step leaves less -/

theorem afterRawEnd?_length_le {name s rest : Text} (h : afterRawEnd? name s = some rest) :
    rest.length ≤ s.length := by
  unfold afterRawEnd? at h
  split at h
  · rename_i r
    simp only at h
    split at h
    · split at h
      · cases h
        rename_i he
        have h1 := Text.length_dropWhile_le isBlank r
        have h2 := Text.length_dropWhile_le isBlank ((r.dropWhile isBlank).drop name.length)
        rw [he] at h2
        simp only [List.length_drop, List.length_cons] at *; omega
      · cases h
    · cases h
  · cases h

theorem rawContent?_length_le {name s inside rest : Text}
    (h : rawContent? name s = some (inside, rest)) : rest.length ≤ s.length := by
  induction s generalizing inside with
  | nil => simp [rawContent?] at h
  | cons c cs ih =>
    unfold rawContent? at h
    split at h
    · cases h
      rename_i he
      split at he
      · have := afterRawEnd?_length_le he
        simp only [List.length_cons]; omega
      · cases he
    · simp only [Option.map_eq_some_iff] at h
      obtain ⟨r, hr, he⟩ := h
      cases he
      exact Nat.le_succ_of_le (ih hr)

theorem until?_length_le {closes : Text → Option Text}
    (hc : ∀ s rest, closes s = some rest → rest.length ≤ s.length) {s inside rest : Text}
    (h : until? closes s = some (inside, rest)) : rest.length ≤ s.length := by
  induction s generalizing inside with
  | nil => simp [until?] at h
  | cons c cs ih =>
    unfold until? at h
    split at h
    · cases h
      exact hc _ _ (by assumption)
    · simp only [Option.map_eq_some_iff] at h
      obtain ⟨r, hr, he⟩ := h
      cases he
      exact Nat.le_succ_of_le (ih hr)

theorem commentEnd?_length_le (s rest : Text) (h : commentEnd? s = some rest) :
    rest.length ≤ s.length := by
  unfold commentEnd? at h
  split at h
  · rename_i r
    split at h
    · cases h
      rename_i he
      have h1 := Text.length_dropWhile_le isBlank r
      rw [he] at h1
      simp only [List.length_cons] at *; omega
    · cases h
  · cases h

theorem conditionEnd?_length_le (s rest : Text) (h : conditionEnd? s = some rest) :
    rest.length ≤ s.length := by
  unfold conditionEnd? at h
  split at h
  · rename_i r
    split at h
    · cases h
      rename_i he
      have h1 := Text.length_dropWhile_le isBlank r
      rw [he] at h1
      simp only [List.length_cons] at *; omega
    · cases h
  · cases h

theorem sectionEnd?_length_le (s rest : Text) (h : sectionEnd? s = some rest) :
    rest.length ≤ s.length := by
  unfold sectionEnd? at h
  split at h
  · rename_i r
    split at h
    · rename_i q hq
      split at h
      · cases h
        rename_i he
        have h1 := Text.length_dropWhile_le isBlank r
        have h2 := Text.length_dropWhile_le isBlank q
        rw [hq] at h1
        rw [he] at h2
        simp only [List.length_cons] at *; omega
      · cases h
    · cases h
  · cases h

theorem endTag_length_le {s : Text} {tokens : List Token} {rest : Text}
    (h : endTag s = .complete tokens rest) : rest.length ≤ s.length := by
  unfold endTag at h
  split at h
  · cases h
  · rename_i hcut
    have := Text.cutAt?_length_lt hcut
    split at h
    · cases h; omega
    · split at h <;> cases h <;> omega

theorem specialReading_length_le {kind : Special} {found : Option (Text × Text)} {n : Nat}
    (hf : ∀ r, found = some r → r.2.length ≤ n) {tokens : List Token} {rest : Text}
    (h : specialReading kind found = .complete tokens rest) : rest.length ≤ n := by
  unfold specialReading at h
  split at h
  · cases h; exact hf _ rfl
  · cases h

theorem markedSection_length_le {s : Text} {tokens : List Token} {rest : Text}
    (h : markedSection s = .ok (.complete tokens rest)) : rest.length ≤ s.length := by
  unfold markedSection at h
  split at h
  · cases h
  · split at h
    · simp only at h
      split at h
      · cases h
      · split at h
        · cases h
        · cases h
        · rename_i he
          cases h
          split at he
          · exact until?_length_le sectionEnd?_length_le (Option.some.inj he)
          · split at he
            · exact until?_length_le conditionEnd?_length_le (Option.some.inj he)
            · cases he
    · cases h

theorem declaration_length_le {s : Text} {tokens : List Token} {rest : Text}
    (h : declaration s = .ok (.complete tokens rest)) : rest.length ≤ s.length := by
  unfold declaration at h
  split at h
  · rename_i r
    have := specialReading_length_le (n := r.length)
      (fun x hx => until?_length_le commentEnd?_length_le (s := r) hx) (Except.ok.inj h)
    simp only [List.length_cons]; omega
  · exact Nat.le_succ_of_le (markedSection_length_le h)
  · split at h
    · split at h
      · cases h
        rename_i hcut
        exact Nat.le_of_lt (Text.cutAt?_length_lt hcut)
      · cases h
    · exact specialReading_length_le (fun x hx => Nat.le_of_lt (Text.cutAt?_length_lt hx))
        (Except.ok.inj h)

theorem closedNumber?_length_le {base : Nat} {digits after rest : Text} {c : Char}
    (h : closedNumber? base digits after = some (c, rest)) : rest.length ≤ after.length := by
  unfold closedNumber? at h
  split at h
  · cases h
  · split at h
    · cases h
    · cases h
      exact Reference.dropSemicolon_length_le _

theorem numericReference?_length_le {s rest : Text} {c : Char}
    (h : numericReference? s = some (c, rest)) : rest.length ≤ s.length := by
  unfold numericReference? at h
  split at h
  · cases h
  · rename_i x u
    split at h
    · have h1 := closedNumber?_length_le h
      have h2 := Text.length_dropWhile_le Reference.isHex u
      simp only [List.length_cons]; omega
    · have h1 := closedNumber?_length_le h
      have h2 := Text.length_dropWhile_le Reference.isDecimal (x :: u)
      omega

theorem namedReference?_length_le {s name rest : Text}
    (h : namedReference? s = some (name, rest)) : rest.length ≤ s.length := by
  unfold namedReference? at h
  simp only at h
  split at h
  · cases h
    rename_i c r he
    have h1 := Reference.dropSemicolon_length_le (c :: r)
    have h2 := Text.length_dropWhile_le isReferenceNameChar s
    rw [he] at h2
    omega
  · split at h
    · cases h
    · cases h
      rename_i mark before he
      have h1 := length_takeWhile_add_dropWhile isReferenceNameChar s
      have h2 := congrArg List.length he
      simp only [List.length_drop, List.length_reverse, List.length_cons] at *
      omega

theorem numberSign_length_le {s : Text} {tokens : List Token} {rest : Text}
    (h : numberSign s = .ok (.go tokens rest)) : rest.length ≤ s.length := by
  unfold numberSign at h
  split at h
  · rename_i he
    split at h
    · cases h
    · cases h
      exact numericReference?_length_le he
  · split at h <;> cases h

theorem ampersand_length_le {last : Bool} {s : Text} {tokens : List Token} {rest : Text}
    (h : ampersand last s = .ok (.go tokens rest)) : rest.length ≤ s.length := by
  unfold ampersand at h
  split at h
  · cases h
  · exact Nat.le_succ_of_le (numberSign_length_le h)
  · split at h
    · split at h
      · cases h
        rename_i he
        exact namedReference?_length_le he
      · split at h <;> cases h
    · cases h
      exact Nat.le_refl _

theorem asText_length_le {s : Text} {tokens : List Token} {rest : Text}
    (h : asText s = .go tokens rest) : rest.length ≤ s.length := by
  unfold asText at h
  split at h
  · cases h
    rename_i hcut
    exact Nat.le_of_lt (Text.cutAt?_length_lt hcut)
  · split at h
    · cases h
      rename_i hcut
      exact Text.cutAt?_length_lt hcut
    · cases h
      exact Nat.le_refl _

theorem continueAfter_length_le {tokens tokens' : List Token} {s rest : Text}
    (h : continueAfter tokens s = .go tokens' rest) : rest.length ≤ s.length := by
  unfold continueAfter at h
  split at h
  · split at h
    · split at h
      · cases h
        rename_i he
        exact rawContent?_length_le he
      · cases h
    · cases h
      exact Nat.le_refl _
  · cases h
    exact Nat.le_refl _

theorem lessThan_length_le {last : Bool} {s : Text} {tokens : List Token} {rest : Text}
    (h : lessThan last s = .ok (.go tokens rest)) : rest.length ≤ s.length := by
  unfold lessThan at h
  split at h
  · cases h
  · rename_i c r
    simp only at h
    split at h
    · cases h
    · cases h
      exact Nat.le_refl _
    · rename_i tokens' rest' he
      have h1 := continueAfter_length_le (Except.ok.inj h)
      suffices rest'.length ≤ (c :: r).length by omega
      split at he
      · cases ht : startTag (c :: r) with
        | error e => rw [ht] at he; cases he
        | ok t =>
          rw [ht] at he
          cases Option.some.inj (Except.ok.inj he)
          exact startTag_length_le ht
      · split at he
        · exact Nat.le_succ_of_le (endTag_length_le (Option.some.inj (Except.ok.inj he)))
        · split at he
          · exact Nat.le_succ_of_le (specialReading_length_le
              (fun x hx => Nat.le_of_lt (Text.cutAt?_length_lt hx))
              (Option.some.inj (Except.ok.inj he)))
          · split at he
            · cases hd : declaration r with
              | error e => rw [hd] at he; cases he
              | ok d =>
                rw [hd] at he
                cases Option.some.inj (Except.ok.inj he)
                exact Nat.le_succ_of_le (declaration_length_le hd)
            · cases he
    · split at h
      · exact asText_length_le (Except.ok.inj h)
      · cases h

theorem step_length_le {last : Bool} {c : Char} {cs : Text} {tokens : List Token} {rest : Text}
    (h : step last c cs = .ok (.go tokens rest)) : rest.length ≤ cs.length := by
  unfold step at h
  split at h
  · exact lessThan_length_le h
  · split at h
    · exact ampersand_length_le h
    · cases h
      exact Text.length_dropWhile_le isPlain cs

/-! ## Scanning -/

/-- Scans a text: the tokens and what is left where the scan stopped. -/
def scan (last : Bool) (s : Text) : Except Rejection (List Token × Text) :=
  match s with
  | [] => .ok ([], [])
  | c :: cs =>
    match _h : step last c cs with
    | .error e => .error e
    | .ok (.stop tokens rest) => .ok (tokens, rest)
    | .ok (.go tokens rest) =>
      match scan last rest with
      | .error e => .error e
      | .ok r => .ok (tokens ++ r.1, r.2)
termination_by s.length
decreasing_by exact Nat.lt_succ_of_le (step_length_le (by assumption))

/-- The tokens of a document. -/
def tokens (s : Text) : Except Rejection (List Token) :=
  match scan false s with
  | .error e => .error e
  | .ok (first, rest) =>
    match scan true rest with
    | .error e => .error e
    | .ok (second, []) => .ok (first ++ second)
    | .ok (second, remainder) => .ok (first ++ second ++ [.text remainder])

end TestScribe.Markup
