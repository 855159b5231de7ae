import TestScribe.Proofs.Table.LineByLine
import TestScribe.Proofs.Table.Records

/-!
# Blank lines

A table is read with its blank lines passed over, or a text is read from which they have been
removed before (`withoutBlankLines`). The two ways are very different: the reader decides at the
start of every line, after having read all quotes up to there, and counts the lines as it goes;
the removal works on lines of the text and only keeps in mind where in a line it is.

Without carriage returns they come to the same. At the start of a line that the reader passes over,
the removal takes away the same characters (`keptFrom_of_blank`). From any other line it takes away
nothing, and when the reader has read the line's cells, what follows has its blank lines removed
(`fieldsFrom_keptRest`). So both read the same cells, line by line (`linesFrom_keptFrom`).

> `passing_over_is_removing`: a file is read with its blank lines passed over exactly if a file with
> the text without them is read as it stands, and then both have the same contents.

Neither way touches what looks blank only at first sight: a line of commas is a row of empty cells,
and a blank line between quotes is part of a cell. No line of cells is lost in the contents
(`Contents.Keeps`).

The text of a file does not include a byte order mark that the file begins with. So a mark behind
blank lines is read as a character, but is dropped once these lines are removed and the text is
written to a file of its own (`mark_behind_blank_line`).
-/

namespace TestScribe.Table

/-! ## The text without its blank lines -/

/-- The lines of a text, each with its line feed; the last one may be without. -/
def textLines : Text → List Text
  | [] => []
  | c :: s =>
    if c = '\n' then [c] :: textLines s
    else
      match textLines s with
      | [] => [[c]]
      | l :: ls => (c :: l) :: ls

/-- The line is empty, or holds only spaces and tabs. -/
def isBlank (l : Text) : Bool := l.all fun c => isPadding c || c = '\n'

/-- The lines that are left when those are removed that begin outside of quotes and are blank. -/
def keptLines : Spot → List Text → List Text
  | _, [] => []
  | p, l :: ls =>
    if p = .lineStart && isBlank l then keptLines .lineStart ls else l :: keptLines (p.run l) ls

/-- The lines that are left, from a line that begins at a spot. -/
def keptFrom (p : Spot) (s : Text) : Text := (keptLines p (textLines s)).flatten

/-- The text without its blank lines. -/
def withoutBlankLines (s : Text) : Text := keptFrom .lineStart s

/-- The rest of a line that is left, and the lines after it. -/
def keptRest (p : Spot) (s : Text) : Text :=
  match textLines s with
  | [] => []
  | l :: ls => l ++ (keptLines (p.run l) ls).flatten

/-- Nothing of a text is outside of its lines. -/
theorem flatten_textLines (s : Text) : (textLines s).flatten = s := by
  induction s with
  | nil => rfl
  | cons c s ih =>
    rw [textLines]
    split
    · rw [List.flatten_cons, ih, List.singleton_append]
    · split
      · rename_i hnone
        rw [hnone] at ih
        rw [← ih]
        rfl
      · rename_i l ls hsome
        rw [hsome, List.flatten_cons] at ih
        rw [List.flatten_cons, List.cons_append, ih]

variable {p : Spot} {c : Char} {s : Text}

theorem keptRest_newline (p : Spot) (s : Text) :
    keptRest p ('\n' :: s) = '\n' :: keptFrom (p.after '\n') s := rfl

theorem keptRest_cons (hc : c ≠ '\n') (p : Spot) (s : Text) :
    keptRest p (c :: s) = c :: keptRest (p.after c) s := by
  rw [keptRest, keptRest, textLines, if_neg hc]
  cases textLines s with
  | nil => rfl
  | cons l ls => rfl

/-- A line is left if it begins between quotes. -/
theorem keptFrom_quoted (s : Text) : keptFrom .quoted s = keptRest .quoted s := by
  rw [keptFrom, keptRest]
  cases textLines s with
  | nil => rfl
  | cons l ls => rfl

theorem keptRest_of_continues (hc : p.Continues c) (s : Text) :
    keptRest p (c :: s) = c :: keptRest (p.after c) s := by
  by_cases hnewline : c = '\n'
  · -- A line feed between quotes: the next line begins between quotes and is left too.
    obtain rfl : p = .quoted := hc.resolve_right fun h => h.2 hnewline
    rw [hnewline, keptRest_newline]
    exact congrArg (List.cons '\n') (keptFrom_quoted s)
  · exact keptRest_cons hnewline p s

/-- The cells of a line are read alike when blank lines are removed from what follows them, and
then they are removed from what follows the line. -/
theorem fieldsFrom_keptRest (hs : '\r' ∉ s) (p : Spot) :
    fieldsFrom p (keptRest p s) =
      (fieldsFrom p s).map fun fs => (fs.1, fs.2.map (keptFrom .lineStart)) := by
  induction s generalizing p with
  | nil =>
    show fieldsFrom p [] = _
    by_cases hp : p = .quoted
    · rw [hp]
      rfl
    · rw [fieldsFrom_nil hp]
      rfl
  | cons c s ih =>
    rw [List.mem_cons, not_or] at hs
    rcases p.comma_or_newline_or_continues c with ⟨hp, rfl⟩ | ⟨hp, rfl⟩ | hc
    · rw [keptRest_cons (by decide), Spot.after_comma hp, fieldsFrom_comma hp, fieldsFrom_comma hp,
        ih hs.2, Option.map_map, Option.map_map]
      rfl
    · rw [keptRest_newline, Spot.after_newline hp, fieldsFrom_newline hp, fieldsFrom_newline hp]
      rfl
    · rw [keptRest_of_continues hc, fieldsFrom_cons hc (Ne.symm hs.1),
        fieldsFrom_cons hc (Ne.symm hs.1), ih hs.2, Option.map_map, Option.map_map]
      rfl

/-! ## At the start of a line -/

theorem isBlank_cons (hc : isPadding c = true) (l : Text) : isBlank (c :: l) = isBlank l := by
  rw [isBlank, List.all_cons, hc, Bool.true_or, Bool.true_and]
  rfl

/-- What the reader passes over is a blank line. -/
theorem textLines_of_blank {r : Text} (hs : '\r' ∉ s) (h : afterBlankLine? s = some r) :
    s = [] ∧ r = [] ∨ ∃ l, isBlank l = true ∧ textLines s = l :: textLines r := by
  induction s with
  | nil => exact .inl ⟨rfl, (Option.some.inj h).symm⟩
  | cons c s ih =>
    rw [List.mem_cons, not_or] at hs
    rcases afterBlankLine?_cons_cases (Ne.symm hs.1) h with ⟨hc, h⟩ | ⟨rfl, rfl⟩
    · rcases ih hs.2 h with ⟨rfl, rfl⟩ | ⟨l, hl, hlines⟩
      · exact .inr ⟨[c], isBlank_cons hc [], if_neg (newline_ne_of_isPadding hc)⟩
      · refine .inr ⟨c :: l, (isBlank_cons hc l).trans hl, ?_⟩
        rw [textLines, if_neg (newline_ne_of_isPadding hc), hlines]
    · exact .inr ⟨['\n'], rfl, rfl⟩

/-- A line that the reader does not pass over is not blank. -/
theorem textLines_of_not_blank (hs : '\r' ∉ s) (h : afterBlankLine? s = none) :
    ∃ l ls, isBlank l = false ∧ textLines s = l :: ls := by
  induction s with
  | nil => cases h
  | cons c s ih =>
    rw [List.mem_cons, not_or] at hs
    by_cases hc : isPadding c = true
    · rw [afterBlankLine?_padding hc] at h
      obtain ⟨l, ls, hl, hlines⟩ := ih hs.2 h
      refine ⟨c :: l, ls, (isBlank_cons hc l).trans hl, ?_⟩
      rw [textLines, if_neg (newline_ne_of_isPadding hc), hlines]
    · by_cases hnewline : c = '\n'
      · rw [hnewline, afterBlankLine?_newline] at h
        cases h
      · have hfirst : ∀ l, isBlank (c :: l) = false := by
          intro l
          rw [isBlank, List.all_cons, Bool.eq_false_iff.mpr hc, decide_eq_false hnewline]
          rfl
        rw [textLines, if_neg hnewline]
        split
        · exact ⟨[c], [], hfirst [], rfl⟩
        · exact ⟨_, _, hfirst _, rfl⟩

/-- A line that the reader passes over is removed. -/
theorem keptFrom_of_blank {r : Text} (hs : '\r' ∉ s) (h : afterBlankLine? s = some r) :
    keptFrom .lineStart s = keptFrom .lineStart r := by
  rcases textLines_of_blank hs h with ⟨rfl, rfl⟩ | ⟨l, hl, hlines⟩
  · rfl
  · rw [keptFrom, hlines, keptLines, hl]
    rfl

/-- Any other line is left. -/
theorem keptFrom_of_not_blank (hs : '\r' ∉ s) (h : afterBlankLine? s = none) :
    keptFrom .lineStart s = keptRest .lineStart s := by
  obtain ⟨l, ls, hl, hlines⟩ := textLines_of_not_blank hs h
  rw [keptFrom, keptRest, hlines, keptLines, hl]
  rfl

/-! ## All lines -/

/-- What a reading gives but for the numbers of its lines. -/
def Alike (a b : List Line × Option Nat) : Prop :=
  a.1.map Line.fields = b.1.map Line.fields ∧ (a.2 = none ↔ b.2 = none)

/-- Reading with blank lines passed over, and reading the text without them. -/
theorem linesFrom_keptFrom (hs : '\r' ∉ s) : ∀ n m,
    Alike (linesFrom true n [] s) (linesFrom false m [] (keptFrom .lineStart s)) := by
  induction s, hs using lines_induction with
  | nil =>
    intro n m
    show Alike (linesFrom true n [] []) (linesFrom false m [] [])
    rw [linesFrom, linesFrom]
    exact ⟨rfl, Iff.rfl⟩
  | blank hs hr hblank ih =>
    intro n m
    rw [linesFrom_of_blank hs hblank, keptFrom_of_blank hs hblank]
    exact ih (n + 1) m
  | line hs hnewline hreturn hblank ih =>
    intro n m
    -- The line is left, so the other reader has the same first character before it.
    have hcells := fieldsFrom_keptRest hs .lineStart
    rw [keptRest_cons hnewline] at hcells
    rw [keptFrom_of_not_blank hs hblank, keptRest_cons hnewline,
      linesFrom_of_fields (fun _ => hblank) hnewline hreturn,
      linesFrom_of_fields (fun h => absurd h Bool.false_ne_true) hnewline hreturn, hcells]
    cases hfields : fieldsFrom .lineStart _ with
    | none => exact ⟨rfl, iff_of_false (Option.some_ne_none n) (Option.some_ne_none m)⟩
    | some fs =>
      obtain ⟨fs, _ | r⟩ := fs
      · exact ⟨rfl, Iff.rfl⟩
      · obtain ⟨-, halike⟩ := ih fs r hfields
        obtain ⟨hlines, hclosed⟩ := halike (n + 1) (m + 1)
        exact ⟨congrArg (List.cons fs) hlines, hclosed⟩

/-! ## What is made of the lines -/

section
variable {a b : List Line × Option Nat} {contents : Contents}

theorem fitAll_alike (h : Alike a b) (width : Nat) (rows : List (List Text)) :
    fitAll width a.1 a.2 = .ok rows ↔ fitAll width b.1 b.2 = .ok rows := by
  have hwidth : ∀ ls : List Line, (∀ l ∈ ls, l.fields.length ≤ width) ↔
      ∀ fs ∈ ls.map Line.fields, fs.length ≤ width := fun ls => by rw [List.forall_mem_map]
  have hrows : ∀ ls : List Line, (ls.map fun l => padded width l.fields) =
      (ls.map Line.fields).map (padded width) := fun ls => by
    rw [List.map_map]
    rfl
  rw [fitAll_eq_ok_iff, fitAll_eq_ok_iff, fit_eq_ok_iff, fit_eq_ok_iff, hwidth, hwidth, hrows, hrows,
    h.1, h.2]

/-- What is made of rows is the same when the rows are. -/
theorem map_eq_ok_congr {α : Type} {x y : Except Defect α} (h : ∀ v, x = .ok v ↔ y = .ok v)
    (f : α → Contents) : x.map f = .ok contents ↔ y.map f = .ok contents := by
  rw [map_eq_ok_iff, map_eq_ok_iff]
  exact exists_congr fun v => and_congr_left' (h v)

theorem emptyUnless_alike (h : Alike a b) (empty : Contents) :
    emptyUnless a.2 empty = .ok contents ↔ emptyUnless b.2 empty = .ok contents := by
  rw [emptyUnless_eq_ok_iff, emptyUnless_eq_ok_iff, h.2]

theorem readRows_alike (h : Alike a b) :
    readRows a.1 a.2 = .ok contents ↔ readRows b.1 b.2 = .ok contents := by
  obtain ⟨_ | ⟨first, below⟩, unclosed⟩ := a
  · obtain ⟨_ | ⟨first', below'⟩, unclosed'⟩ := b
    · exact emptyUnless_alike h _
    · cases h.1
  · obtain ⟨_ | ⟨first', below'⟩, unclosed'⟩ := b
    · cases h.1
    · have hfirst : first.fields = first'.fields := (List.cons.inj h.1).1
      rw [readRows, readRows, hfirst]
      split
      · exact Iff.rfl
      · exact map_eq_ok_congr (fitAll_alike h _) _

theorem readRecords_alike (h : Alike a b) :
    readRecords a.1 a.2 = .ok contents ↔ readRecords b.1 b.2 = .ok contents := by
  obtain ⟨_ | ⟨header, _ | ⟨second, below⟩⟩, unclosed⟩ := a
  · obtain ⟨_ | ⟨header', below'⟩, unclosed'⟩ := b
    · exact emptyUnless_alike h _
    · cases h.1
  · obtain ⟨_ | ⟨header', _ | ⟨second', below'⟩⟩, unclosed'⟩ := b
    · cases h.1
    · exact emptyUnless_alike h _
    · cases (List.cons.inj h.1).2
  · obtain ⟨_ | ⟨header', _ | ⟨second', below'⟩⟩, unclosed'⟩ := b
    · cases h.1
    · cases (List.cons.inj h.1).2
    · obtain ⟨hheader, hbelow⟩ := List.cons.inj h.1
      have hsecond : second.fields = second'.fields := (List.cons.inj hbelow).1
      have hfit := fitAll_alike (a := (second :: below, unclosed))
        (b := (second' :: below', unclosed')) ⟨hbelow, h.2⟩
      rw [readRecords, readRecords, hheader, hsecond]
      split
      · exact Iff.rfl
      · exact map_eq_ok_congr (hfit _) _

/-- A text is read with its blank lines passed over exactly if the text without them is read, and
then both have the same contents. -/
theorem readText_withoutBlankLines (hs : '\r' ∉ s) (useHeader : Bool) :
    readText ⟨true, useHeader⟩ s = .ok contents ↔
      readText ⟨false, useHeader⟩ (withoutBlankLines s) = .ok contents := by
  have halike : Alike (lines true s) (lines false (withoutBlankLines s)) :=
    linesFrom_keptFrom hs 0 0
  cases useHeader with
  | false => exact readRows_alike halike
  | true => exact readRecords_alike halike

end

/-! ## What only looks blank -/

section
variable {x z : Text}

theorem after_padding (hc : isPadding c = true) (hp : p = .lineStart ∨ p = .bare) :
    p.after c = .bare := by
  rcases Bool.or_eq_true_iff.mp hc with h | h
  · obtain rfl := of_decide_eq_true h
    rcases hp with rfl | rfl <;> rfl
  · obtain rfl := of_decide_eq_true h
    rcases hp with rfl | rfl <;> rfl

/-- A blank line is passed over as a whole: what has been read up to a place is either padding
of the line, or contains the line. -/
theorem afterBlankLine?_append {r : Text} (hp : p = .lineStart ∨ p = .bare) (hx : '\r' ∉ x)
    (h : afterBlankLine? (x ++ z) = some r) :
    x = [] ∨ p.run x = .bare ∨ ∃ x', r = x' ++ z ∧ Spot.lineStart.run x' = p.run x := by
  induction x generalizing p with
  | nil => exact .inl rfl
  | cons c x ih =>
    rw [List.mem_cons, not_or] at hx
    rw [Spot.run_cons]
    rcases afterBlankLine?_cons_cases (Ne.symm hx.1) h with ⟨hc, h⟩ | ⟨rfl, rfl⟩
    · rw [after_padding hc hp]
      rcases ih (.inr rfl) hx.2 h with rfl | hbare
      · exact .inr (.inl rfl)
      · exact .inr hbare
    · have hquoted : p ≠ .quoted := by
        rcases hp with rfl | rfl <;> exact nofun
      exact .inr (.inr ⟨x, rfl, by rw [Spot.after_newline hquoted]⟩)

/-- A place in a text is reached line by line. If it is at the start of a line that is not blank, or
within quotes, then there is a line with all that holds of the cells that are read there. -/
theorem exists_line {q : Spot} {P : List Text → Prop} (hq : q ≠ .bare)
    (hz : q = .lineStart → afterBlankLine? z = none)
    (hcells : ∀ x fs rest, '\r' ∉ x ++ z → Spot.lineStart.run x = q →
      fieldsFrom .lineStart (x ++ z) = some (fs, rest) →
      P fs ∨ ∃ x', rest = some (x' ++ z) ∧ Spot.lineStart.run x' = q)
    (hs : '\r' ∉ s) : ∀ x number, s = x ++ z → Spot.lineStart.run x = q →
      (linesFrom true number [] s).2 = none → ∃ l ∈ (linesFrom true number [] s).1, P l.fields := by
  induction s, hs using lines_induction with
  | nil =>
    intro x number hxz hx
    obtain ⟨rfl, rfl⟩ := List.append_eq_nil_iff.mp hxz.symm
    cases hz hx.symm
  | blank hs hr hblank ih =>
    intro x number hxz hx
    have hcr : '\r' ∉ x := fun hmem => hs (hxz ▸ List.mem_append_left _ hmem)
    rw [linesFrom_of_blank hs hblank]
    rw [hxz] at hblank
    rcases afterBlankLine?_append (.inl rfl) hcr hblank with rfl | hbare | ⟨x', hr, hrun⟩
    · rw [List.nil_append, hz hx.symm] at hblank
      cases hblank
    · -- Within the padding of a blank line there is no such place.
      exact absurd (hx.symm.trans hbare) hq
    · exact ih x' (number + 1) hr (hrun.trans hx)
  | line hs hnewline hreturn hblank ih =>
    intro x number hxz hx
    rw [linesFrom_of_fields (fun _ => hblank) hnewline hreturn]
    cases hfields : fieldsFrom .lineStart _ with
    | none => exact nofun
    | some fs =>
      intro hclosed
      obtain ⟨fs, rest⟩ := fs
      rcases hcells x fs rest (hxz ▸ hs) hx (hxz ▸ hfields) with hP | ⟨x', rfl, hrun⟩
      · cases rest with
        | none => exact ⟨⟨number, fs⟩, List.mem_cons_self, hP⟩
        | some r => exact ⟨⟨number, fs⟩, List.mem_cons_self, hP⟩
      · obtain ⟨-, hrest⟩ := ih fs _ hfields
        obtain ⟨l, hl, hP⟩ := hrest x' (number + 1) rfl hrun hclosed
        exact ⟨l, List.mem_cons_of_mem _ hl, hP⟩

/-! ### Lines of commas -/

/-- A line that has ended is followed by what follows the whole text up to a start of a line. -/
theorem fieldsFrom_append {fs : List Text} {rest : Option Text} (hs : '\r' ∉ x ++ z) (hx : x ≠ [])
    (hrun : p.run x = .lineStart) (h : fieldsFrom p (x ++ z) = some (fs, rest)) :
    ∃ x', rest = some (x' ++ z) ∧ Spot.lineStart.run x' = .lineStart := by
  induction x generalizing p fs with
  | nil => exact absurd rfl hx
  | cons c x ih =>
    rw [List.cons_append, List.mem_cons, not_or] at hs
    rw [Spot.run_cons] at hrun
    rcases fieldsFrom_cons_cases (Ne.symm hs.1) h with ⟨hafter, hrest⟩ | ⟨hafter, gs, hgs, -⟩
    · exact ⟨x, hrest, hafter ▸ hrun⟩
    · have hx : x ≠ [] := by
        rintro rfl
        exact hafter hrun
      exact ih hs.2 hx hrun hgs

/-- Commas stand between empty cells. -/
theorem fieldsFrom_commas (hz : ∀ c ∈ z.head?, c = '\n') (k : Nat) (hp : p ≠ .quoted) :
    ∃ rest, fieldsFrom p (List.replicate k ',' ++ z) = some (List.replicate (k + 1) [], rest) := by
  induction k generalizing p with
  | zero =>
    cases z with
    | nil => exact ⟨_, fieldsFrom_nil hp⟩
    | cons c z =>
      obtain rfl := hz c rfl
      exact ⟨_, fieldsFrom_newline hp z⟩
  | succ k ih =>
    obtain ⟨rest, hrest⟩ := ih (p := .cellStart) nofun
    rw [List.replicate_succ, List.cons_append, fieldsFrom_comma hp, hrest]
    exact ⟨rest, rfl⟩

/-- A line of commas is a line of empty cells. -/
theorem exists_line_of_commas {k number : Nat} (hz : ∀ c ∈ z.head?, c = '\n')
    (hs : '\r' ∉ x ++ (List.replicate (k + 1) ',' ++ z)) (hx : Spot.lineStart.run x = .lineStart)
    (hclosed : (linesFrom true number [] (x ++ (List.replicate (k + 1) ',' ++ z))).2 = none) :
    ∃ l ∈ (linesFrom true number [] (x ++ (List.replicate (k + 1) ',' ++ z))).1,
      l.fields = List.replicate (k + 2) [] := by
  refine exists_line (q := .lineStart) (P := (· = List.replicate (k + 2) [])) nofun (fun _ => rfl)
    (fun x fs rest hs hx h => ?_) hs x number rfl hx hclosed
  by_cases hnil : x = []
  · -- The line of commas is the one that is read.
    obtain ⟨rest', hrest⟩ := fieldsFrom_commas hz (k + 1) (p := .lineStart) nofun
    rw [hnil, List.nil_append, hrest] at h
    cases h
    exact .inl rfl
  · exact .inr (fieldsFrom_append hs hnil hx h)

/-! ### Blank lines between quotes -/

/-- Between quotes anything but a quote is a part of the cell. -/
theorem fieldsFrom_quoted_append {u : Text} (hu : '"' ∉ u) (hs : '\r' ∉ u) (y : Text) :
    fieldsFrom .quoted (u ++ y) = (fieldsFrom .quoted y).map (behind u) := by
  induction u with
  | nil =>
    have hid : behind [] = id := by
      funext fs
      obtain ⟨_ | ⟨f, fs⟩, rest⟩ := fs <;> rfl
    rw [hid, Option.map_id]
    rfl
  | cons c u ih =>
    rw [List.mem_cons, not_or] at hu hs
    have hafter : Spot.quoted.after c = .quoted := if_neg (Ne.symm hu.1)
    have hadds : Spot.quoted.adds c = [c] := if_neg fun h => hu.1 h.1.symm
    rw [List.cons_append, fieldsFrom_cons (.inl rfl) (Ne.symm hs.1), hafter, hadds, ih hu.2 hs.2,
      Option.map_map]
    refine congrArg (fun f => Option.map f (fieldsFrom .quoted y)) (funext fun fs => ?_)
    obtain ⟨_ | ⟨f, fs⟩, rest⟩ := fs <;> rfl

/-- What stands within quotes after a text is in a cell of this line, or in what follows it. -/
theorem infix_cell {u y : Text} {fs : List Text} {rest : Option Text} (hu : '"' ∉ u)
    (hs : '\r' ∉ x ++ (u ++ y)) (hrun : p.run x = .quoted)
    (h : fieldsFrom p (x ++ (u ++ y)) = some (fs, rest)) :
    (∃ f ∈ fs, u <:+: f) ∨
      ∃ x', rest = some (x' ++ (u ++ y)) ∧ Spot.lineStart.run x' = .quoted := by
  induction x generalizing p fs with
  | nil =>
    obtain rfl : p = .quoted := hrun
    rw [List.nil_append] at h hs
    rw [fieldsFrom_quoted_append hu fun hmem => hs (List.mem_append_left _ hmem)] at h
    obtain ⟨⟨gs, r⟩, hgs, he⟩ := Option.map_eq_some_iff.mp h
    obtain ⟨f, gs, rfl⟩ := List.exists_cons_of_ne_nil (fieldsFrom_ne_nil hgs)
    cases he
    exact .inl ⟨u ++ f, List.mem_cons_self, List.infix_append' [] u f⟩
  | cons c x ih =>
    rw [List.cons_append, List.mem_cons, not_or] at hs
    rw [Spot.run_cons] at hrun
    rcases fieldsFrom_cons_cases (Ne.symm hs.1) h with ⟨hafter, hrest⟩ | ⟨-, gs, hgs, hfs⟩
    · exact .inr ⟨x, hrest, hafter ▸ hrun⟩
    refine (ih hs.2 hrun hgs).imp_left fun ⟨f, hf, hinfix⟩ => ?_
    rcases hfs with rfl | rfl
    · exact ⟨f, List.mem_cons_of_mem _ hf, hinfix⟩
    · cases gs with
      | nil => cases hf
      | cons g gs =>
        rcases List.mem_cons.mp hf with rfl | hf
        · exact ⟨_, List.mem_cons_self, hinfix.trans (List.suffix_append _ _).isInfix⟩
        · exact ⟨f, List.mem_cons_of_mem _ hf, hinfix⟩

/-- What stands within quotes is in a cell. -/
theorem exists_cell_of_quoted {u y : Text} {number : Nat} (hu : '"' ∉ u)
    (hs : '\r' ∉ x ++ (u ++ y)) (hx : Spot.lineStart.run x = .quoted)
    (hclosed : (linesFrom true number [] (x ++ (u ++ y))).2 = none) :
    ∃ l ∈ (linesFrom true number [] (x ++ (u ++ y))).1, ∃ f ∈ l.fields, u <:+: f :=
  exists_line (q := .quoted) (P := fun fs => ∃ f ∈ fs, u <:+: f) nofun nofun
    (fun _ _ _ hs hx h => infix_cell hu hs hx h) hs x number rfl hx hclosed

end

/-! ## Files -/

/-- The cells of the lines of a text. -/
def lineCells (skip : Bool) (s : Text) : List (List Text) := (lines skip s).1.map Line.fields

/-- The line with these cells is not lost. It is a row, or it has named the columns, or there is a
record of its last cells. Where it is too short, empty cells follow. -/
def Contents.Keeps (cells : List Text) : Contents → Prop
  | .rows rs => ∃ width, cells.length ≤ width ∧ padded width cells ∈ rs
  | .records rs =>
    (∀ record ∈ rs, record.map Prod.fst = columnNames cells) ∨
      ∃ record ∈ rs, record ≠ [] ∧
        ∃ width, cells.length ≤ width ∧ record.map Prod.snd <:+ padded width cells

section
variable {ls : List Line} {unclosed : Option Nat} {contents : Contents}

/-- A table of lines with cells can only be read if no quote stays open, and then it keeps all of
them. -/
theorem keeps_of_readRows (hcells : ∀ l ∈ ls, l.fields ≠ [])
    (h : readRows ls unclosed = .ok contents) :
    unclosed = none ∧ ∀ l ∈ ls, contents.Keeps l.fields := by
  cases ls with
  | nil => exact ⟨(emptyUnless_eq_ok_iff.mp h).1, nofun⟩
  | cons first below =>
    rw [readRows, if_neg (hcells first List.mem_cons_self), map_eq_ok_iff] at h
    obtain ⟨rows, hfit, rfl⟩ := h
    obtain ⟨hclosed, hlines⟩ := fitAll_eq_ok_iff.mp hfit
    obtain ⟨hwidth, rfl⟩ := fit_eq_ok_iff.mp hlines
    exact ⟨hclosed, fun l hl => ⟨first.fields.length, hwidth l hl, List.mem_map_of_mem hl⟩⟩

theorem keeps_of_readRecords (hcells : ∀ l ∈ ls, l.fields ≠ [])
    (h : readRecords ls unclosed = .ok contents) :
    unclosed = none ∧ ∀ l ∈ ls, contents.Keeps l.fields := by
  obtain ⟨records, rfl⟩ := exists_records h
  match ls with
  | [] => exact ⟨(emptyUnless_eq_ok_iff.mp h).1, nofun⟩
  | [header] =>
    rw [readRecords_short [header] (Nat.le_refl 1) h]
    exact ⟨(emptyUnless_eq_ok_iff.mp h).1, fun l _ => .inl nofun⟩
  | header :: second :: below =>
    have hheader : header.fields ≠ [] := hcells header List.mem_cons_self
    rw [readRecords_eq_ok_iff, if_neg fun hempty => hheader hempty.1] at h
    obtain ⟨hclosed, hwidth, rfl⟩ := h
    refine ⟨hclosed, List.forall_mem_cons.mpr ⟨.inl fun record hrecord => ?_, fun l hl => .inr ?_⟩⟩
    · -- The header is in the names of all records.
      obtain ⟨l, hl, rfl⟩ := List.mem_map.mp hrecord
      exact keys_recordOf (hwidth l hl)
    · refine ⟨_, List.mem_map_of_mem hl, fun hnil => hheader ?_, _, hwidth l hl,
        cells_recordOf (hwidth l hl)⟩
      have hnames := keys_recordOf (hwidth l hl)
      rw [hnil] at hnames
      exact List.eq_nil_of_length_eq_zero ((length_columnNames _).symm.trans
        (congrArg List.length hnames.symm))

end

theorem keeps_of_readText {useHeader : Bool} {contents : Contents} (hs : '\r' ∉ s)
    (h : readText ⟨true, useHeader⟩ s = .ok contents) :
    (lines true s).2 = none ∧ ∀ cells ∈ lineCells true s, contents.Keeps cells := by
  rw [lineCells, List.forall_mem_map]
  cases useHeader with
  | false => exact keeps_of_readRows (fields_ne_nil hs 0) h
  | true => exact keeps_of_readRecords (fields_ne_nil hs 0) h

/-- A file with a text without carriage returns is read with its blank lines passed over exactly if
a file with this text without its blank lines is read as it stands, and then both have the same
contents. They are made of the same lines of cells, and the contents keep each of these lines. Among
them is a line of empty cells for every line of commas that begins outside of quotes, and every
blank line between quotes is a part of a cell in one of them. -/
theorem passing_over_is_removing {d d' : Disk} {here here' : Place} {path path' : Path}
    {bytes bytes' : List UInt8} {t : Text} (hreturn : '\r' ∉ t)
    (hname : TestClass.isFileName extension path.name = true)
    (hname' : TestClass.isFileName extension path'.name = true)
    (hbytes : d.read here path = .ok bytes) (hbytes' : d'.read here' path' = .ok bytes')
    (htext : text bytes = .ok t) (htext' : text bytes' = .ok (withoutBlankLines t))
    (useHeader : Bool) :
    (∀ contents, fromDisk d here ⟨true, useHeader⟩ path = .ok contents ↔
      fromDisk d' here' ⟨false, useHeader⟩ path' = .ok contents) ∧
    lineCells true t = lineCells false (withoutBlankLines t) ∧
    ∀ contents, fromDisk d here ⟨true, useHeader⟩ path = .ok contents →
      (∀ cells ∈ lineCells true t, contents.Keeps cells) ∧
      (∀ x k z, t = x ++ (List.replicate (k + 1) ',' ++ z) → Spot.lineStart.run x = .lineStart →
        (∀ c ∈ z.head?, c = '\n') → List.replicate (k + 2) [] ∈ lineCells true t) ∧
      ∀ x l y, t = x ++ ('\n' :: l ++ ['\n'] ++ y) → Spot.lineStart.run x = .quoted →
        l.all isPadding = true →
        ∃ cells ∈ lineCells true t, ∃ cell ∈ cells, '\n' :: l ++ ['\n'] <:+: cell := by
  have hfile : ∀ contents, fromDisk d here ⟨true, useHeader⟩ path = .ok contents ↔
      readText ⟨true, useHeader⟩ t = .ok contents := by
    intro contents
    rw [fromDisk_eq_ok_iff, and_iff_right hname, hbytes]
    simp only [Except.ok.injEq, exists_eq_left', read_eq_ok_iff, htext]
  have hfile' : ∀ contents, fromDisk d' here' ⟨false, useHeader⟩ path' = .ok contents ↔
      readText ⟨false, useHeader⟩ (withoutBlankLines t) = .ok contents := by
    intro contents
    rw [fromDisk_eq_ok_iff, and_iff_right hname', hbytes']
    simp only [Except.ok.injEq, exists_eq_left', read_eq_ok_iff, htext']
  refine ⟨fun contents => ?_, (linesFrom_keptFrom hreturn 0 0).1, fun contents hread => ?_⟩
  · rw [hfile, hfile']
    exact readText_withoutBlankLines hreturn useHeader
  obtain ⟨hclosed, hkept⟩ := keeps_of_readText hreturn ((hfile contents).mp hread)
  refine ⟨hkept, ?_, ?_⟩
  · rintro x k z rfl hx hz
    obtain ⟨l, hl, hcells⟩ := exists_line_of_commas hz hreturn hx hclosed
    exact List.mem_map.mpr ⟨l, hl, hcells⟩
  · rintro x l y rfl hx hl
    have hquote : '"' ∉ '\n' :: l ++ ['\n'] := by
      intro hmem
      rcases List.mem_append.mp hmem with hmem | hmem
      · rcases List.mem_cons.mp hmem with h | hmem
        · cases h
        · cases List.all_eq_true.mp hl _ hmem
      · cases List.mem_singleton.mp hmem
    obtain ⟨line, hline, hcell⟩ := exists_cell_of_quoted hquote hreturn hx hclosed
    exact ⟨line.fields, List.mem_map_of_mem hline, hcell⟩

/-- A table with blank lines at its start, within it and at its end, a line of commas, and a blank
line between quotes. -/
def gappyTable : Text := "\na,b\n \t\n,\n\"x\n \ny\",1\n  ".toList

/-- Without its blank lines it has the same records. -/
theorem passing_over_is_removing_gappy :
    '\r' ∉ gappyTable ∧
      withoutBlankLines gappyTable = "a,b\n,\n\"x\n \ny\",1\n".toList ∧
      text (Utf8.encode gappyTable) = .ok gappyTable ∧
      text (Utf8.encode (withoutBlankLines gappyTable)) = .ok (withoutBlankLines gappyTable) ∧
      fromDisk (tableDisk (Utf8.encode (withoutBlankLines gappyTable))) [] ⟨false, true⟩
          tablePath =
        .ok (.records [[("a".toList, []), ("b".toList, [])],
          [("a".toList, "x\n \ny".toList), ("b".toList, "1".toList)]]) := by
  have hreturn : '\r' ∉ gappyTable := by decide
  have hname : TestClass.isFileName extension tablePath.name = true := by decide
  have htext : text (Utf8.encode gappyTable) = .ok gappyTable := by decide +kernel
  have htext' : text (Utf8.encode (withoutBlankLines gappyTable)) =
      .ok (withoutBlankLines gappyTable) := by
    decide +kernel
  have hread : fromDisk (tableDisk (Utf8.encode gappyTable)) [] ⟨true, true⟩ tablePath =
      .ok (.records [[("a".toList, []), ("b".toList, [])],
        [("a".toList, "x\n \ny".toList), ("b".toList, "1".toList)]]) := by
    decide +kernel
  exact ⟨hreturn, by decide, htext, htext',
    ((passing_over_is_removing hreturn hname hname (read_tableDisk _) (read_tableDisk _) htext
      htext' true).1 _).mp hread⟩

/-- A table with a byte order mark behind a blank line. -/
def markedTable : Text := "\n\uFEFFa,b\n1,2\n".toList

/-- The mark belongs to the name of the first column. Once the blank line is removed and what is
left is written to a file, the file begins with the mark, and it is dropped. -/
theorem mark_behind_blank_line :
    '\r' ∉ markedTable ∧
      withoutBlankLines markedTable = "\uFEFFa,b\n1,2\n".toList ∧
      fromDisk (tableDisk (Utf8.encode markedTable)) [] ⟨true, true⟩ tablePath =
        .ok (.records [[("\uFEFFa".toList, "1".toList), ("b".toList, "2".toList)]]) ∧
      fromDisk (tableDisk (Utf8.encode (withoutBlankLines markedTable))) [] ⟨false, true⟩
          tablePath =
        .ok (.records [[("a".toList, "1".toList), ("b".toList, "2".toList)]]) :=
  ⟨by decide, by decide, by decide +kernel, by decide +kernel⟩

end TestScribe.Table
