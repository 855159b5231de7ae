import Mathlib.Data.List.Induction
import TestScribe.Proofs.Action.Literal

/-!
# Locators between single quotes

The locator of an action is the first argument of its statement. A backslash is put before
each of its quotes, and backslashes that it has already stay as they are. Escaping and
rewriting do not get in each other's way (`rewriteLocator_escapeQuotes`), so what matters is
whether an escaped text is read back, and that depends on its own backslashes. One that
stands before a quote takes the new backslash for itself and leaves the quote bare; two of
them are read as one; a last one takes the closing quote.

> `target_literal_iff`: the first argument of a statement is read up to the quote that closes
> it, and as the rewritten locator, exactly if no backslash of the locator stands before a
> quote, before another backslash or at the end.

A locator with an escaped quote of its own is enough to break the statement
(`target_literal_broken`).
-/

namespace TestScribe.Action

/-! ## Escaping -/

theorem escapeQuotes_quote (s : Text) :
    escapeQuotes ('\'' :: s) = '\\' :: '\'' :: escapeQuotes s := rfl

theorem escapeQuotes_cons {c : Char} (h : c ≠ '\'') (s : Text) :
    escapeQuotes (c :: s) = c :: escapeQuotes s := by
  rw [escapeQuotes, List.flatMap_cons, if_neg h]
  rfl

theorem escapeQuotes_append (s t : Text) :
    escapeQuotes (s ++ t) = escapeQuotes s ++ escapeQuotes t := List.flatMap_append

/-- A mark of ordinary characters is found before an escaped text exactly if it is found
before the text. -/
theorem afterPrefix?_escapeQuotes {p : Text} (hquote : '\'' ∉ p) (hslash : '\\' ∉ p) (s : Text) :
    Text.afterPrefix? p (escapeQuotes s) = (Text.afterPrefix? p s).map escapeQuotes := by
  induction p generalizing s with
  | nil => rfl
  | cons x p ih =>
    have ih' := ih (fun h => hquote (List.mem_cons_of_mem _ h))
      (fun h => hslash (List.mem_cons_of_mem _ h))
    have hx : x ≠ '\'' := fun h => hquote (h ▸ List.mem_cons_self)
    have hx' : x ≠ '\\' := fun h => hslash (h ▸ List.mem_cons_self)
    cases s with
    | nil => rfl
    | cons c s =>
      by_cases hc : c = '\''
      · -- Neither the quote nor the backslash before it begins the mark.
        rw [hc, escapeQuotes_quote, Text.afterPrefix?, if_neg hx', Text.afterPrefix?, if_neg hx]
        rfl
      · rw [escapeQuotes_cons hc, Text.afterPrefix?, Text.afterPrefix?]
        by_cases hxc : x = c
        · rw [if_pos hxc, if_pos hxc, ih']
        · rw [if_neg hxc, if_neg hxc]
          rfl

/-- The marks of locators and what they become are ordinary characters. -/
theorem ordinary_of_mem_locatorKinds : ∀ k ∈ locatorKinds,
    '\'' ∉ k.1 ∧ '\\' ∉ k.1 ∧ escapeQuotes k.2 = k.2 := by
  decide

/-- It makes no difference whether a locator is rewritten before or after its quotes are
escaped. -/
theorem rewriteLocator_escapeQuotes (s : Text) :
    rewriteLocator (escapeQuotes s) = escapeQuotes (rewriteLocator s) := by
  have hkinds : ∀ kinds : List (Text × Text),
      (∀ k ∈ kinds, '\'' ∉ k.1 ∧ '\\' ∉ k.1 ∧ escapeQuotes k.2 = k.2) →
      (kinds.findSome? fun k => (Text.afterPrefix? k.1 (escapeQuotes s)).map (k.2 ++ ·)) =
        (kinds.findSome? fun k => (Text.afterPrefix? k.1 s).map (k.2 ++ ·)).map escapeQuotes := by
    intro kinds h
    induction kinds with
    | nil => rfl
    | cons k kinds ih =>
      obtain ⟨hquote, hslash, hmark⟩ := h k List.mem_cons_self
      have ih' := ih fun k' hk' => h k' (List.mem_cons_of_mem _ hk')
      rw [List.findSome?_cons, List.findSome?_cons, afterPrefix?_escapeQuotes hquote hslash]
      cases Text.afterPrefix? k.1 s with
      | none => exact ih'
      | some r =>
        show some (k.2 ++ escapeQuotes r) = some (escapeQuotes (k.2 ++ r))
        rw [escapeQuotes_append, hmark]
  unfold rewriteLocator
  rw [hkinds _ ordinary_of_mem_locatorKinds]
  cases locatorKinds.findSome? fun k => (Text.afterPrefix? k.1 s).map (k.2 ++ ·) with
  | none => rfl
  | some r => rfl

/-- A locator stays as it is, or the mark of its kind gives way to the selector and the rest
stays. -/
theorem rewriteLocator_cases (s : Text) :
    rewriteLocator s = s ∨
      ∃ k ∈ locatorKinds, ∃ r, s = k.1 ++ r ∧ rewriteLocator s = k.2 ++ r := by
  unfold rewriteLocator
  cases hkind : locatorKinds.findSome? fun k => (Text.afterPrefix? k.1 s).map (k.2 ++ ·) with
  | none => exact .inl rfl
  | some t =>
    obtain ⟨k, hk, ht⟩ := List.exists_of_findSome?_eq_some hkind
    obtain ⟨r, hr, rfl⟩ := Option.map_eq_some_iff.mp ht
    exact .inr ⟨k, hk, r, Text.eq_append_of_afterPrefix? hr, rfl⟩

/-! ## Reading an escaped text -/

/-- No backslash stands before a quote, before another backslash or at the end. -/
def SlashesApart (t : Text) : Prop :=
  ¬ ['\\', '\''] <:+: t ∧ ¬ ['\\', '\\'] <:+: t ∧ t.getLast? ≠ some '\\'

instance (t : Text) : Decidable (SlashesApart t) :=
  inferInstanceAs
    (Decidable (¬ ['\\', '\''] <:+: t ∧ ¬ ['\\', '\\'] <:+: t ∧ t.getLast? ≠ some '\\'))

/-- Only a backslash in front can make a difference to the text behind it. -/
theorem slashesApart_cons {c : Char} (h : c ≠ '\\') (t : Text) :
    SlashesApart (c :: t) ↔ SlashesApart t := by
  have hpair : ∀ d, ['\\', d] <:+: c :: t ↔ ['\\', d] <:+: t := by
    intro d
    rw [List.infix_cons_iff]
    exact or_iff_right fun hp => h (List.cons_prefix_cons.mp hp).1.symm
  have hlast : (c :: t).getLast? = some '\\' ↔ t.getLast? = some '\\' := by
    cases t with
    | nil => simpa using h
    | cons d t => rw [List.getLast?_cons_cons]
  unfold SlashesApart
  rw [hpair, hpair, Ne, hlast]

theorem slashesApart_backslash {c : Char} (hquote : c ≠ '\'') (hslash : c ≠ '\\') (t : Text) :
    SlashesApart ('\\' :: c :: t) ↔ SlashesApart (c :: t) := by
  have hpair : ∀ d, c ≠ d → (['\\', d] <:+: '\\' :: c :: t ↔ ['\\', d] <:+: c :: t) := by
    intro d hd
    rw [List.infix_cons_iff]
    refine or_iff_right fun hp => ?_
    exact hd (List.cons_prefix_cons.mp (List.cons_prefix_cons.mp hp).2).1.symm
  unfold SlashesApart
  rw [hpair _ hquote, hpair _ hslash, List.getLast?_cons_cons]

/-- The rewritten locator has the same backslashes as the locator. -/
theorem slashesApart_rewriteLocator (s : Text) :
    SlashesApart (rewriteLocator s) ↔ SlashesApart s := by
  have hmark : ∀ m : Text, '\\' ∉ m → ∀ r, SlashesApart (m ++ r) ↔ SlashesApart r := by
    intro m hm r
    induction m with
    | nil => exact Iff.rfl
    | cons c m ih =>
      have hc : c ≠ '\\' := fun h => hm (h ▸ List.mem_cons_self)
      rw [List.cons_append, slashesApart_cons hc]
      exact ih fun h => hm (List.mem_cons_of_mem _ h)
  rcases rewriteLocator_cases s with hs | ⟨k, hk, r, hs, hrewritten⟩
  · rw [hs]
  · have hplain : ∀ k ∈ locatorKinds, '\\' ∉ k.1 ∧ '\\' ∉ k.2 := by decide
    rw [hrewritten, hs, hmark _ (hplain k hk).2, hmark _ (hplain k hk).1]

section
variable (u rest : Text)

theorem readLiteral_escaped_quote : readLiteral (escapeQuotes ('\'' :: u) ++ rest) =
    (readLiteral (escapeQuotes u ++ rest)).map (consText '\'') := rfl

theorem readLiteral_escaped_cons {c : Char} (hquote : c ≠ '\'') (hslash : c ≠ '\\') :
    readLiteral (escapeQuotes (c :: u) ++ rest) =
      (readLiteral (escapeQuotes u ++ rest)).map (consText c) := by
  rw [escapeQuotes_cons hquote, List.cons_append, readLiteral_cons hquote hslash]

theorem readLiteral_escaped_backslash {c : Char} (hquote : c ≠ '\'') (hslash : c ≠ '\\') :
    readLiteral (escapeQuotes ('\\' :: c :: u) ++ rest) =
      (readLiteral (escapeQuotes (c :: u) ++ rest)).map (consText '\\') := by
  rw [escapeQuotes_cons (by decide), escapeQuotes_cons hquote, List.cons_append,
    List.cons_append, readLiteral_backslash hquote hslash]

/-- Two backslashes are read as one. -/
theorem readLiteral_escaped_backslashes : readLiteral (escapeQuotes ('\\' :: '\\' :: u) ++ rest) =
    (readLiteral (escapeQuotes u ++ rest)).map (consText '\\') := rfl

/-- A backslash before a quote makes the quote end the literal. -/
theorem readLiteral_escaped_backslash_quote :
    readLiteral (escapeQuotes ('\\' :: '\'' :: u) ++ rest) =
      some (['\\'], escapeQuotes u ++ rest) := rfl

/-- A last backslash makes the closing quote part of the text. -/
theorem readLiteral_escaped_last : readLiteral (escapeQuotes ['\\'] ++ '\'' :: rest) =
    (readLiteral rest).map (consText '\'') := rfl

end

/-- Whatever is read of an escaped text up to its closing quote is no longer than the text. -/
theorem length_le_of_readLiteral_escaped {rest : Text} (u : Text) :
    ∀ {t}, readLiteral (escapeQuotes u ++ '\'' :: rest) = some (t, rest) →
      t.length ≤ u.length := by
  -- Each character that is read goes back to one character of the text.
  have hstep : ∀ {u : Text} {c : Char} {s t : Text},
      (∀ {t}, readLiteral s = some (t, rest) → t.length ≤ u.length) →
      (readLiteral s).map (consText c) = some (t, rest) → t.length ≤ u.length + 1 := by
    intro u c s t ih h
    obtain ⟨t', rfl, h'⟩ := map_consText_eq_some.mp h
    exact Nat.succ_le_succ (ih h')
  induction u using List.twoStepInduction with
  | nil =>
    intro t h
    cases h
    exact Nat.le_refl _
  | singleton c =>
    intro t h
    by_cases hquote : c = '\''
    · rw [hquote, readLiteral_escaped_quote] at h
      cases h
      exact Nat.le_refl _
    by_cases hslash : c = '\\'
    · -- The rest is not read up to the rest itself.
      rw [hslash, readLiteral_escaped_last] at h
      obtain ⟨t', rfl, h'⟩ := map_consText_eq_some.mp h
      have := length_lt_of_readLiteral h'
      omega
    · rw [readLiteral_escaped_cons _ _ hquote hslash] at h
      cases h
      exact Nat.le_refl _
  | cons_cons c d u ih ih' =>
    intro t h
    by_cases hquote : c = '\''
    · rw [hquote, readLiteral_escaped_quote] at h
      exact hstep (ih' d) h
    by_cases hslash : c = '\\'
    · rw [hslash] at h
      by_cases hd : d = '\''
      · rw [hd, readLiteral_escaped_backslash_quote] at h
        obtain ⟨rfl, -⟩ := Prod.mk.inj (Option.some.inj h)
        exact Nat.succ_le_succ (Nat.zero_le _)
      by_cases hd' : d = '\\'
      · rw [hd', readLiteral_escaped_backslashes] at h
        exact Nat.le_succ_of_le (hstep ih h)
      · rw [readLiteral_escaped_backslash _ _ hd hd'] at h
        exact hstep (ih' d) h
    · rw [readLiteral_escaped_cons _ _ hquote hslash] at h
      exact hstep (ih' d) h

/-- An escaped text is read up to its closing quote, and as the text, exactly if its
backslashes stand apart. -/
theorem readLiteral_escaped_iff (rest u : Text) :
    readLiteral (escapeQuotes u ++ '\'' :: rest) = some (u, rest) ↔ SlashesApart u := by
  have hcons : ∀ (c : Char) (r : Option (Text × Text)) (u : Text),
      r.map (consText c) = some (c :: u, rest) ↔ r = some (u, rest) := by
    intro c r u
    rw [map_consText_eq_some]
    exact ⟨fun ⟨t, ht, hr⟩ => (List.cons.inj ht).2 ▸ hr, fun hr => ⟨u, rfl, hr⟩⟩
  induction u using List.twoStepInduction with
  | nil => exact ⟨fun _ => by decide, fun _ => rfl⟩
  | singleton c =>
    by_cases hquote : c = '\''
    · rw [hquote]
      exact ⟨fun _ => by decide, fun _ => rfl⟩
    by_cases hslash : c = '\\'
    · rw [hslash, readLiteral_escaped_last]
      refine ⟨fun h => ?_, fun h => absurd h (by decide)⟩
      obtain ⟨t, ht, -⟩ := map_consText_eq_some.mp h
      cases ht
    · rw [readLiteral_escaped_cons _ _ hquote hslash, hcons, slashesApart_cons hslash]
      exact ⟨fun _ => by decide, fun _ => rfl⟩
  | cons_cons c d u ih ih' =>
    have hrest : readLiteral (escapeQuotes (d :: u) ++ '\'' :: rest) = some (d :: u, rest) ↔
        SlashesApart (d :: u) := ih' d
    by_cases hquote : c = '\''
    · rw [hquote, readLiteral_escaped_quote, hcons, hrest,
        slashesApart_cons (show '\'' ≠ '\\' by decide)]
    by_cases hslash : c = '\\'
    · rw [hslash]
      by_cases hd : d = '\''
      · -- The literal ends at once, and the quote is not part of what is read.
        rw [hd, readLiteral_escaped_backslash_quote]
        refine ⟨fun h => ?_, fun h => absurd (List.infix_append [] _ u) h.1⟩
        cases h
      by_cases hd' : d = '\\'
      · -- One of the two backslashes is lost, so what is read is too short.
        rw [hd', readLiteral_escaped_backslashes, hcons]
        refine ⟨fun h => ?_, fun h => absurd (List.infix_append [] _ u) h.2.1⟩
        have := length_le_of_readLiteral_escaped u h
        rw [List.length_cons] at this
        omega
      · rw [readLiteral_escaped_backslash _ _ hd hd', hcons, hrest,
          slashesApart_backslash hd hd']
    · rw [readLiteral_escaped_cons _ _ hquote hslash, hcons, hrest, slashesApart_cons hslash]

/-! ## The target in a statement -/

/-- The commands whose statements begin with a locator. -/
def locating : List Command := [.click, .typeText, .select, .clickAndWait]

/-- The method of a statement with a locator. -/
def targetMethod : Command → Text
  | .typeText => "fillField".toList
  | .select => "selectOption".toList
  | _ => "click".toList

/-- The statement with a locator, up to where the locator begins. -/
def targetFront (c : Command) : Text := "$I->".toList ++ targetMethod c ++ "('".toList

/-- What stands after the quote that closes the locator. -/
def targetBack (c : Command) (value : Text) : Text :=
  if c = .typeText ∨ c = .select then ", '".toList ++ value ++ "');".toList else ");".toList

theorem call_one (method : String) (x : Text) :
    call method [x] = "$I->".toList ++ method.toList ++ "('".toList ++
      (x ++ '\'' :: ");".toList) := by
  have hopen : "('".toList = ['(', '\''] := rfl
  unfold call
  rw [hopen]
  generalize "$I->".toList = actor, method.toList = name, ");".toList = close
  simp only [List.map_cons, List.map_nil, Text.joinWith, quoted, List.append_assoc,
    List.cons_append, List.nil_append]

/-- Above the statement of an action with a locator stand comments only. -/
theorem lines_with_target {a : Action} (h : a.command ∈ locating) :
    ∃ notices, (∀ l ∈ notices, isComment l = true) ∧
      a.lines = notices ++
        [targetFront a.command ++ (a.target ++ '\'' :: targetBack a.command a.value)] := by
  obtain ⟨notices, hnotices, hstatement⟩ : ∃ notices, (∀ l ∈ notices, isComment l = true) ∧
      a.statement = notices ++
        [targetFront a.command ++ (a.target ++ '\'' :: targetBack a.command a.value)] := by
    obtain ⟨c, written, target, value⟩ := a
    have htwo : ∀ method : String, call method [target, value] =
        "$I->".toList ++ method.toList ++ "('".toList ++
          (target ++ '\'' :: (", '".toList ++ value ++ "');".toList)) := by
      intro method
      have hopen : "('".toList = ['(', '\''] := rfl
      have hcomma : ", '".toList = ", ".toList ++ ['\''] := rfl
      have hclose : "');".toList = '\'' :: ");".toList := rfl
      rw [call_two, hopen, hcomma, hclose]
      simp only [List.append_assoc, List.cons_append, List.nil_append]
    cases c with
    | openPage => exact absurd h (show .openPage ∉ locating by decide)
    | unknown => exact absurd h (show .unknown ∉ locating by decide)
    | click => exact ⟨[], nofun, congrArg (fun l => [l]) (call_one _ _)⟩
    | typeText => exact ⟨[], nofun, congrArg (fun l => [l]) (htwo _)⟩
    | select => exact ⟨[], nofun, congrArg (fun l => [l]) (htwo _)⟩
    | clickAndWait =>
      exact ⟨waitingNotice, by decide, congrArg (fun l => waitingNotice ++ [l]) (call_one _ _)⟩
  unfold Action.lines
  split
  · refine ⟨deprecationNotice :: notices, List.forall_mem_cons.mpr ⟨by decide, hnotices⟩, ?_⟩
    rw [hstatement]
    rfl
  · exact ⟨notices, hnotices, hstatement⟩

/-- In the statement of a row that begins with a locator, the literal of the locator is read
up to the quote that closes it, and as the rewritten locator, exactly if the backslashes of
the locator stand apart. -/
theorem target_literal_iff {row command target value : Outline} {others : List Outline}
    (hcells : row.children "td".toList = command :: target :: value :: others)
    (hcommand : Command.ofWord (cellText command) ∈ locating) :
    ∃ notices back, (∀ l ∈ notices, isComment l = true) ∧
      back = targetBack (Command.ofWord (cellText command)) (formatValue (cellText value)) ∧
      rowLines row = notices ++ [targetFront (Command.ofWord (cellText command)) ++
        (formatTarget (cellText target) ++ '\'' :: back)] ∧
      (readLiteral (formatTarget (cellText target) ++ '\'' :: back) =
          some (rewriteLocator (cellText target), back) ↔
        SlashesApart (cellText target)) := by
  have hrow : ofRow? row =
      some (ofCells (cellText command) (cellText target) (cellText value)) := by
    rw [ofRow?, hcells]
  have hopen : Command.ofWord (cellText command) ≠ .openPage := by
    intro h
    rw [h] at hcommand
    exact absurd hcommand (by decide)
  obtain ⟨notices, hnotices, hlines⟩ :=
    lines_with_target (a := ofCells (cellText command) (cellText target) (cellText value)) hcommand
  refine ⟨notices, _, hnotices, rfl, ?_, ?_⟩
  · rw [rowLines, hrow]
    dsimp only
    rw [hlines]
    simp only [ofCells, if_neg hopen]
  · rw [formatTarget, rewriteLocator_escapeQuotes, readLiteral_escaped_iff,
      slashesApart_rewriteLocator]

/-- A row that clicks on the element of this locator. -/
def clickingRow (locator : String) : Outline :=
  .element "tr".toList [] [("td".toList, [.text "td".toList "click".toList,
    .text "td".toList locator.toList, .placeholder "td".toList])] [] []

/-- A locator with quotes is read back, without the mark of its kind. -/
theorem target_literal_quoted : ∃ notices back,
    rowLines (clickingRow "css=a[title='x']") =
      notices ++ [targetFront .click ++ ("a[title=\\'x\\']".toList ++ '\'' :: back)] ∧
      readLiteral ("a[title=\\'x\\']".toList ++ '\'' :: back) =
        some ("a[title='x']".toList, back) := by
  have hcommand : Command.ofWord (cellText (.text "td".toList "click".toList)) = .click := by
    decide
  have htarget : formatTarget (cellText (.text "td".toList "css=a[title='x']".toList)) =
      "a[title=\\'x\\']".toList := by decide
  have hlocator : rewriteLocator (cellText (.text "td".toList "css=a[title='x']".toList)) =
      "a[title='x']".toList := by decide
  obtain ⟨notices, back, -, -, hlines, hiff⟩ :=
    @target_literal_iff (clickingRow "css=a[title='x']") _ _ _ _ rfl
      (by rw [hcommand]; decide)
  rw [hcommand, htarget] at hlines
  rw [htarget, hlocator] at hiff
  exact ⟨notices, back, hlines, hiff.mpr (by decide +kernel)⟩

/-- A quote that is escaped already ends the literal, and what follows it is read as
code. -/
theorem target_literal_broken :
    rowLines (clickingRow "a\\'b") = [targetFront .click ++ "a\\\\'b');".toList] ∧
      readLiteral "a\\\\'b');".toList = some ("a\\".toList, "b');".toList) ∧
      readLiteral "a\\\\'b');".toList ≠ some (rewriteLocator "a\\'b".toList, ");".toList) := by
  refine ⟨by decide, by decide, by decide⟩

end TestScribe.Action
