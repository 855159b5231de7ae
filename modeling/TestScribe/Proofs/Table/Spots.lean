import TestScribe.Table.Lines

/-!
# A line character by character

The cells of a line are read one after the other, and what stands between quotes is read by another
function than what does not. To follow a text through all of them it is easier to go character by
character. Five spots tell where in a line a character can stand (`Spot`), and the cells can be
read on from any of them (`fieldsFrom`). Then a comma begins a new cell and a line feed ends the
line, unless they stand between quotes; and every other character leads to the next spot, with what
it adds to the cell.

> `fieldsFrom_cons`: a character that ends no cell adds to the cell that the text after it begins
> with.

With the two equations for a comma and a line feed, and those for the end of the text, this is all
about reading a line where no carriage return occurs. What a single character can do is said once
more the other way round (`fieldsFrom_cons_cases`), for cells that have been read.
-/

namespace TestScribe.Table

/-- Where a character can stand in a line. -/
inductive Spot
  | lineStart
  /-- Behind a comma that ends a cell. -/
  | cellStart
  /-- In a cell without quotes, or in what follows the closing quote of a cell. -/
  | bare
  /-- Between quotes. -/
  | quoted
  /-- Behind a quote between quotes, which is the closing one unless another one follows. -/
  | afterQuote
deriving Repr, DecidableEq

namespace Spot

/-- The spot behind a character. -/
def after : Spot → Char → Spot
  | .quoted, c => if c = '"' then .afterQuote else .quoted
  | p, c =>
    if c = ',' then .cellStart
    else if c = '\n' then .lineStart
    else if c = '"' ∧ p ≠ .bare then .quoted
    else .bare

/-- The spot behind a text. -/
def run (p : Spot) (s : Text) : Spot := s.foldl after p

/-- What a character adds to a cell: the quotes around it add nothing, and of a doubled quote only
the second one does. -/
def adds (p : Spot) (c : Char) : Text :=
  if c = '"' ∧ p ≠ .bare ∧ p ≠ .afterQuote then [] else [c]

/-- The character does not end a cell here. -/
def Continues (p : Spot) (c : Char) : Prop := p = .quoted ∨ c ≠ ',' ∧ c ≠ '\n'

variable {p : Spot} {c : Char}

/-- A character ends the cell, or the line with it, or does not. -/
theorem comma_or_newline_or_continues (p : Spot) (c : Char) :
    p ≠ .quoted ∧ c = ',' ∨ p ≠ .quoted ∧ c = '\n' ∨ p.Continues c := by
  by_cases hp : p = .quoted
  · exact .inr (.inr (.inl hp))
  · by_cases hcomma : c = ','
    · exact .inl ⟨hp, hcomma⟩
    · by_cases hnewline : c = '\n'
      · exact .inr (.inl ⟨hp, hnewline⟩)
      · exact .inr (.inr (.inr ⟨hcomma, hnewline⟩))

theorem after_comma (hp : p ≠ .quoted) : p.after ',' = .cellStart := by
  cases p with
  | quoted => exact absurd rfl hp
  | _ => rfl

theorem after_newline (hp : p ≠ .quoted) : p.after '\n' = .lineStart := by
  cases p with
  | quoted => exact absurd rfl hp
  | _ => rfl

theorem after_ne_lineStart (hc : p.Continues c) : p.after c ≠ .lineStart := by
  rcases hc with rfl | ⟨hcomma, hnewline⟩
  · rw [after]
    split <;> exact nofun
  · cases p <;> simp only [after, hcomma, hnewline, if_false] <;> split <;> exact nofun

@[simp] theorem run_cons (p : Spot) (c : Char) (s : Text) : p.run (c :: s) = (p.after c).run s := rfl

end Spot

/-! ## Reading on from a spot -/

/-- The rest of a cell. -/
def fieldFrom : Spot → Text → Option (Text × FieldEnd)
  | .lineStart, s => field? s
  | .cellStart, s => field? s
  | .bare, s => some (bareField s)
  | .quoted, s => quotedField? s
  | .afterQuote, s => quotedField? ('"' :: s)

/-- The cells of the rest of a line, the first of which may have begun before. -/
def fieldsFrom (p : Spot) (s : Text) : Option (List Text × Option Text) :=
  match fieldFrom p s with
  | none => none
  | some (f, .comma r) => (fields? r).map fun fs => (f :: fs.1, fs.2)
  | some (f, .line r) => some ([f], some r)
  | some (f, .file) => some ([f], none)

/-- The cells when something stands before the first one. -/
def behind (t : Text) (fs : List Text × Option Text) : List Text × Option Text :=
  (fs.1.modifyHead (t ++ ·), fs.2)

theorem fields?_eq (s : Text) : fields? s = fieldsFrom .lineStart s := by
  rw [fields?, fieldsFrom, fieldFrom]
  split <;> simp_all

variable {p : Spot} {c : Char} {s : Text}

/-- A cell begins in the same way at the start of a line and behind a comma. -/
theorem fieldsFrom_cellStart (s : Text) : fieldsFrom .cellStart s = fieldsFrom .lineStart s := rfl

theorem bareField_cons (hcomma : c ≠ ',') (hnewline : c ≠ '\n') (hreturn : c ≠ '\r') (s : Text) :
    bareField (c :: s) = (c :: (bareField s).1, (bareField s).2) := by
  rw [bareField.eq_def]
  split <;> simp_all

theorem quotedField?_quote {s : Text} (hs : ∀ r, s ≠ '"' :: r) :
    quotedField? ('"' :: s) = some (bareField s) := by
  rw [quotedField?]
  exact hs

theorem quotedField?_cons (hc : c ≠ '"') (s : Text) :
    quotedField? (c :: s) = (quotedField? s).map fun f => (c :: f.1, f.2) := by
  rw [quotedField?.eq_def]
  split <;> simp_all

theorem field?_cons (hc : c ≠ '"') (s : Text) : field? (c :: s) = some (bareField (c :: s)) := by
  rw [field?.eq_def]
  split <;> simp_all

/-- Outside of quotes, the functions for all spots read on alike from anything but a quote. -/
theorem fieldFrom_of_ne_quote (hp : p ≠ .quoted) (hc : c ≠ '"') (s : Text) :
    fieldFrom p (c :: s) = some (bareField (c :: s)) := by
  cases p with
  | lineStart => exact field?_cons hc s
  | cellStart => exact field?_cons hc s
  | bare => rfl
  | quoted => exact absurd rfl hp
  | afterQuote => exact quotedField?_quote fun r hr => hc (List.cons.inj hr).1

theorem fieldFrom_quote (p : Spot) (s : Text) :
    fieldFrom p ('"' :: s) =
      (fieldFrom (p.after '"') s).map fun f => (p.adds '"' ++ f.1, f.2) := by
  have hid : ∀ o : Option (Text × FieldEnd), o = o.map fun f => ([] ++ f.1, f.2) := fun _ =>
    Option.map_id'.symm
  cases p with
  | lineStart => exact hid _
  | cellStart => exact hid _
  | bare => exact congrArg some (bareField_cons (by decide) (by decide) (by decide) s)
  | quoted => exact hid _
  | afterQuote =>
    show quotedField? ('"' :: '"' :: s) = _
    rw [quotedField?]
    rfl

theorem fieldFrom_cons (hc : p.Continues c) (hreturn : c ≠ '\r') (s : Text) :
    fieldFrom p (c :: s) = (fieldFrom (p.after c) s).map fun f => (p.adds c ++ f.1, f.2) := by
  by_cases hquote : c = '"'
  · rw [hquote]
    exact fieldFrom_quote p s
  have hadds : p.adds c = [c] := if_neg fun h => hquote h.1
  by_cases hp : p = .quoted
  · rw [hp] at hadds ⊢
    rw [hadds, Spot.after, if_neg hquote]
    exact quotedField?_cons hquote s
  · obtain ⟨hcomma, hnewline⟩ := hc.resolve_left hp
    have hafter : p.after c = .bare := by
      cases p <;> simp_all [Spot.after]
    rw [fieldFrom_of_ne_quote hp hquote, hafter, hadds, bareField_cons hcomma hnewline hreturn]
    rfl

theorem fieldsFrom_ne_nil {fs : List Text} {rest : Option Text}
    (h : fieldsFrom p s = some (fs, rest)) : fs ≠ [] := by
  unfold fieldsFrom at h
  split at h
  · cases h
  · obtain ⟨gs, -, he⟩ := Option.map_eq_some_iff.mp h
    cases he
    exact List.cons_ne_nil _ _
  · cases h
    exact List.cons_ne_nil _ _
  · cases h
    exact List.cons_ne_nil _ _

/-! ## One character -/

theorem fieldsFrom_nil (hp : p ≠ .quoted) : fieldsFrom p [] = some ([[]], none) := by
  cases p with
  | quoted => exact absurd rfl hp
  | _ => rfl

/-- A comma ends the cell. -/
theorem fieldsFrom_comma (hp : p ≠ .quoted) (s : Text) :
    fieldsFrom p (',' :: s) =
      (fieldsFrom .cellStart s).map fun fs => ([] :: fs.1, fs.2) := by
  rw [fieldsFrom, fieldFrom_of_ne_quote hp (by decide), fieldsFrom_cellStart, ← fields?_eq]
  rfl

/-- A line feed ends the cell and the line. -/
theorem fieldsFrom_newline (hp : p ≠ .quoted) (s : Text) :
    fieldsFrom p ('\n' :: s) = some ([[]], some s) := by
  rw [fieldsFrom, fieldFrom_of_ne_quote hp (by decide)]
  rfl

/-- Any other character adds to the cell. -/
theorem fieldsFrom_cons (hc : p.Continues c) (hreturn : c ≠ '\r') (s : Text) :
    fieldsFrom p (c :: s) = (fieldsFrom (p.after c) s).map (behind (p.adds c)) := by
  rw [fieldsFrom, fieldFrom_cons hc hreturn, fieldsFrom]
  cases fieldFrom (p.after c) s with
  | none => rfl
  | some f =>
    obtain ⟨f, r | r | _⟩ := f
    · show (fields? r).map _ = ((fields? r).map _).map _
      rw [Option.map_map]
      rfl
    · rfl
    · rfl

/-- What a character can do where cells are read: it ends the line, or the cells are read on behind
it, and it ends a cell or adds to one. -/
theorem fieldsFrom_cons_cases {fs : List Text} {rest : Option Text} (hreturn : c ≠ '\r')
    (h : fieldsFrom p (c :: s) = some (fs, rest)) :
    p.after c = .lineStart ∧ rest = some s ∨
      p.after c ≠ .lineStart ∧ ∃ gs, fieldsFrom (p.after c) s = some (gs, rest) ∧
        (fs = [] :: gs ∨ fs = gs.modifyHead (p.adds c ++ ·)) := by
  rcases p.comma_or_newline_or_continues c with ⟨hp, rfl⟩ | ⟨hp, rfl⟩ | hc
  · rw [fieldsFrom_comma hp] at h
    obtain ⟨⟨gs, rest⟩, hgs, he⟩ := Option.map_eq_some_iff.mp h
    cases he
    rw [Spot.after_comma hp]
    exact .inr ⟨nofun, gs, hgs, .inl rfl⟩
  · rw [fieldsFrom_newline hp] at h
    cases h
    exact .inl ⟨Spot.after_newline hp, rfl⟩
  · rw [fieldsFrom_cons hc hreturn] at h
    obtain ⟨⟨gs, rest⟩, hgs, he⟩ := Option.map_eq_some_iff.mp h
    cases he
    exact .inr ⟨Spot.after_ne_lineStart hc, gs, hgs, .inr rfl⟩

end TestScribe.Table
