import TestScribe.Action.Statement

/-!
# Arguments between single quotes

A statement holds its arguments between single quotes, and the language it is written in
reads such a literal up to the first quote that has no backslash before it
(`readLiteral`). A locator has its quotes escaped; a value is put between the quotes as it
is. So it depends on the value whether the literal that is read is the one that was
written:

> `value_literal_iff`: the second argument of a statement that types or selects is read up
> to the quote that closes it, and as the value, exactly if the value has no quote, no two
> backslashes side by side and no backslash at its end.

A name such as O'Brien is enough to break the statement (`value_literal_broken`).
-/

namespace TestScribe.Action

/-! ## Reading a literal -/

/-- Puts a character before the text of a literal. -/
def consText (c : Char) (r : Text × Text) : Text × Text := (c :: r.1, r.2)

/-- Reads a literal whose opening quote has been read: its text, and what follows the
closing quote. A backslash counts as such unless a quote or another one follows it. -/
def readLiteral : Text → Option (Text × Text)
  | [] => none
  | '\'' :: rest => some ([], rest)
  | '\\' :: '\'' :: rest => (readLiteral rest).map (consText '\'')
  | '\\' :: '\\' :: rest => (readLiteral rest).map (consText '\\')
  | c :: rest => (readLiteral rest).map (consText c)

theorem readLiteral_cons {c : Char} (hquote : c ≠ '\'') (hslash : c ≠ '\\') (s : Text) :
    readLiteral (c :: s) = (readLiteral s).map (consText c) := by
  rw [readLiteral]
  · exact fun h => hquote h
  · exact fun _ h _ => hslash h
  · exact fun _ h _ => hslash h

/-- A backslash before an ordinary character is read as a backslash. -/
theorem readLiteral_backslash {c : Char} (hquote : c ≠ '\'') (hslash : c ≠ '\\') (s : Text) :
    readLiteral ('\\' :: c :: s) = (readLiteral (c :: s)).map (consText '\\') := by
  rw [readLiteral]
  · exact fun h => absurd h (by decide)
  · exact fun _ _ h => hquote (List.cons.inj h).1
  · exact fun _ _ h => hslash (List.cons.inj h).1

theorem map_consText_eq_some {r : Option (Text × Text)} {c : Char} {t rest : Text} :
    r.map (consText c) = some (t, rest) ↔ ∃ t', t = c :: t' ∧ r = some (t', rest) := by
  rw [Option.map_eq_some_iff]
  constructor
  · rintro ⟨⟨t', rest'⟩, hr, heq⟩
    cases heq
    exact ⟨t', rfl, hr⟩
  · rintro ⟨t', rfl, hr⟩
    exact ⟨(t', rest), hr, rfl⟩

/-- What is read is shorter than what there is to read, since the closing quote is neither
text nor rest. -/
theorem length_lt_of_readLiteral {s rest : Text} :
    ∀ {t}, readLiteral s = some (t, rest) → t.length + rest.length < s.length := by
  -- Each character of the text takes at least one character to write.
  have hstep : ∀ {s : Text} {c : Char} {t : Text},
      (∀ {t}, readLiteral s = some (t, rest) → t.length + rest.length < s.length) →
      (readLiteral s).map (consText c) = some (t, rest) →
      t.length + rest.length < s.length + 1 := by
    intro s c t ih h
    obtain ⟨t', rfl, h'⟩ := map_consText_eq_some.mp h
    have := ih h'
    rw [List.length_cons]
    omega
  induction s using readLiteral.induct with
  | case1 => intro t h; cases h
  | case2 s =>
    intro t h
    cases h
    simp
  | case3 s ih =>
    intro t h
    rw [readLiteral] at h
    exact Nat.lt_succ_of_lt (hstep ih h)
  | case4 s ih =>
    intro t h
    rw [readLiteral] at h
    exact Nat.lt_succ_of_lt (hstep ih h)
  | case5 c s h₁ h₂ h₃ ih =>
    intro t h
    rw [readLiteral] at h
    · exact hstep ih h
    · exact h₁
    · exact h₂
    · exact h₃

/-! ## Texts that are read as they are written -/

/-- No quote, no two backslashes side by side, and no backslash at the end. -/
def ReadsAsWritten (v : Text) : Prop :=
  '\'' ∉ v ∧ ¬ ['\\', '\\'] <:+: v ∧ v.getLast? ≠ some '\\'

instance (v : Text) : Decidable (ReadsAsWritten v) :=
  inferInstanceAs (Decidable ('\'' ∉ v ∧ ¬ ['\\', '\\'] <:+: v ∧ v.getLast? ≠ some '\\'))

theorem readsAsWritten_cons {c : Char} (hquote : c ≠ '\'') (hslash : c ≠ '\\') (v : Text) :
    ReadsAsWritten (c :: v) ↔ ReadsAsWritten v := by
  have hadjacent : ['\\', '\\'] <:+: c :: v ↔ ['\\', '\\'] <:+: v := by
    rw [List.infix_cons_iff]
    refine or_iff_right fun h => ?_
    exact hslash (List.cons_prefix_cons.mp h).1.symm
  have hlast : (c :: v).getLast? = some '\\' ↔ v.getLast? = some '\\' := by
    cases v with
    | nil => simpa using hslash
    | cons d v => rw [List.getLast?_cons_cons]
  unfold ReadsAsWritten
  rw [hadjacent, Ne, hlast, List.mem_cons, or_iff_right (Ne.symm hquote)]

theorem readsAsWritten_backslash {c : Char} (hslash : c ≠ '\\') (v : Text) :
    ReadsAsWritten ('\\' :: c :: v) ↔ ReadsAsWritten (c :: v) := by
  have hadjacent : ['\\', '\\'] <:+: '\\' :: c :: v ↔ ['\\', '\\'] <:+: c :: v := by
    rw [List.infix_cons_iff]
    refine or_iff_right fun h => ?_
    exact hslash (List.cons_prefix_cons.mp (List.cons_prefix_cons.mp h).2).1.symm
  unfold ReadsAsWritten
  rw [hadjacent, List.getLast?_cons_cons, List.mem_cons, or_iff_right (by decide)]

/-- A text between quotes is read up to the closing one, and as itself, exactly if it reads
as written. -/
theorem readLiteral_append_iff (rest v : Text) :
    readLiteral (v ++ '\'' :: rest) = some (v, rest) ↔ ReadsAsWritten v := by
  induction v using readLiteral.induct with
  | case1 =>
    exact ⟨fun _ => by decide, fun _ => rfl⟩
  | case2 v =>
    refine ⟨fun h => ?_, fun h => absurd List.mem_cons_self h.1⟩
    cases h
  | case3 v =>
    refine ⟨fun h => ?_, fun h => absurd (List.mem_cons_of_mem _ List.mem_cons_self) h.1⟩
    obtain ⟨t, ht, -⟩ := map_consText_eq_some.mp h
    cases ht
  | case4 v =>
    -- Two backslashes are read as one, so what is read is too short.
    refine ⟨fun h => ?_, fun h => absurd (List.infix_append [] _ v) h.2.1⟩
    obtain ⟨t, ht, hread⟩ := map_consText_eq_some.mp h
    obtain rfl : '\\' :: v = t := (List.cons.inj ht).2
    have hlt : ('\\' :: v).length + rest.length < (v ++ '\'' :: rest).length :=
      length_lt_of_readLiteral hread
    simp only [List.length_cons, List.length_append] at hlt
    omega
  | case5 c v h₁ h₂ h₃ ih =>
    have hquote : c ≠ '\'' := h₁
    by_cases hslash : c = '\\'
    · cases v with
      | nil =>
        -- The backslash takes the closing quote for its own.
        refine ⟨fun h => ?_, fun h => absurd (by rw [hslash]; rfl) h.2.2⟩
        rw [hslash] at h
        obtain ⟨t, ht, -⟩ := map_consText_eq_some.mp h
        cases ht
      | cons d v =>
        have hd : d ≠ '\'' := fun h => h₂ v hslash (by rw [h])
        have hd' : d ≠ '\\' := fun h => h₃ v hslash (by rw [h])
        rw [hslash, readsAsWritten_backslash hd', ← ih, List.cons_append, List.cons_append,
          readLiteral_backslash hd hd', map_consText_eq_some]
        simp
    · rw [readsAsWritten_cons hquote hslash, ← ih, List.cons_append,
        readLiteral_cons hquote hslash, map_consText_eq_some]
      simp

/-! ## The value in a statement -/

/-- The method of a statement with a value. -/
def valueMethod (c : Command) : Text :=
  if c = .typeText then "fillField".toList else "selectOption".toList

/-- The statement with a value, up to where the value begins. -/
def valueFront (c : Command) (target : Text) : Text :=
  "$I->".toList ++ valueMethod c ++ '(' :: '\'' :: target ++ '\'' :: ", ".toList ++ ['\'']

theorem call_two (method : String) (x y : Text) :
    call method [x, y] = "$I->".toList ++ method.toList ++ '(' :: '\'' :: x ++
      '\'' :: ", ".toList ++ ['\''] ++ (y ++ '\'' :: ");".toList) := by
  unfold call
  -- What the fixed parts say plays no role from here on.
  generalize "$I->".toList = actor, method.toList = name, ");".toList = close, ", ".toList = comma
  simp only [List.map_cons, List.map_nil, Text.joinWith, quoted, List.append_assoc,
    List.cons_append, List.nil_append]

theorem statement_with_value {a : Action} (h : a.command = .typeText ∨ a.command = .select) :
    a.statement = [valueFront a.command a.target ++ (a.value ++ '\'' :: ");".toList)] := by
  unfold Action.statement valueFront valueMethod
  rcases h with h | h
  · rw [h, if_pos rfl]
    exact congrArg (fun line => [line]) (call_two ..)
  · rw [h, if_neg (by decide)]
    exact congrArg (fun line => [line]) (call_two ..)

/-- A statement has nothing but the notice about its locator above it. -/
theorem lines_with_value {a : Action} (h : a.command = .typeText ∨ a.command = .select) :
    ∃ notices, (∀ l ∈ notices, l = deprecationNotice) ∧
      a.lines = notices ++ [valueFront a.command a.target ++ (a.value ++ '\'' :: ");".toList)] := by
  unfold Action.lines
  rw [statement_with_value h]
  split
  · exact ⟨[deprecationNotice], fun l hl => List.mem_singleton.mp hl, rfl⟩
  · exact ⟨[], fun l hl => absurd hl List.not_mem_nil, rfl⟩

/-- In the statement of a row that types or selects, the literal of the value is read up to
the quote that closes it, and as the value, exactly if the value reads as written. -/
theorem value_literal_iff {row command target value : Outline} {others : List Outline}
    (hcells : row.children "td".toList = command :: target :: value :: others)
    (hcommand : Command.ofWord (cellText command) = .typeText ∨
      Command.ofWord (cellText command) = .select) :
    ∃ notices literal, (∀ l ∈ notices, l = deprecationNotice) ∧
      rowLines row = notices ++ [valueFront (Command.ofWord (cellText command))
        (formatTarget (cellText target)) ++ literal] ∧
      (readLiteral literal = some (formatValue (cellText value), ");".toList) ↔
        ReadsAsWritten (formatValue (cellText value))) := by
  have hrow : ofRow? row =
      some (ofCells (cellText command) (cellText target) (cellText value)) := by
    rw [ofRow?, hcells]
  have hopen : Command.ofWord (cellText command) ≠ .openPage := by
    rcases hcommand with h | h <;> rw [h] <;> decide
  obtain ⟨notices, hnotices, hlines⟩ :=
    lines_with_value (a := ofCells (cellText command) (cellText target) (cellText value)) hcommand
  refine ⟨notices, formatValue (cellText value) ++ '\'' :: ");".toList, hnotices, ?_,
    readLiteral_append_iff _ _⟩
  rw [rowLines, hrow]
  dsimp only
  rw [hlines]
  simp only [ofCells, if_neg hopen]

/-- A row that types the text of its third cell. -/
def typingRow (text : String) : Outline :=
  .element "tr".toList [] [("td".toList, [.text "td".toList "type".toList,
    .text "td".toList "id=a".toList, .text "td".toList text.toList])] [] []

/-- A plain name is read back. -/
theorem value_literal_plain : ∃ notices literal,
    rowLines (typingRow "Jane") = notices ++ [valueFront .typeText "#a".toList ++ literal] ∧
      readLiteral literal = some ("Jane".toList, ");".toList) := by
  obtain ⟨notices, literal, -, hlines, hiff⟩ :=
    @value_literal_iff (typingRow "Jane") _ _ _ _ rfl (.inl (by decide))
  exact ⟨notices, literal, hlines, hiff.mpr (by decide)⟩

/-- A name with a quote ends the literal, and what follows the quote is read as code. -/
theorem value_literal_broken :
    rowLines (typingRow "O'Brien") = [valueFront .typeText "#a".toList ++ "O'Brien');".toList] ∧
      readLiteral "O'Brien');".toList = some ("O".toList, "Brien');".toList) ∧
      readLiteral "O'Brien');".toList ≠ some (formatValue "O'Brien".toList, ");".toList) := by
  refine ⟨by decide, by decide, by decide⟩

end TestScribe.Action
