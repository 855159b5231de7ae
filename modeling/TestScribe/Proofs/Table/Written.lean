import TestScribe.Proofs.Table.Reading

/-!
# Tables that are written carefully

A table can be written so that nothing in its cells matters: every cell stands between
quotation marks, with its own marks doubled, commas separate the cells and a line feed ends the
row (`write`). Such a file is read as the table that was written, with a byte order mark or
without:

> `rows_of_written`: reading the written table gives its rows.

A quotation mark opens every row, so no line of the file is blank, whatever the cells hold; and
a mark within a cell is followed by another one, so the one that closes the cell is the first
that a comma or the line feed follows. Line ends in a cell are characters like others.
-/

namespace TestScribe.Table

/-! ## The written form -/

/-- A character between quotation marks: a mark is doubled. -/
def quotedChar (c : Char) : Text := if c = '"' then ['"', '"'] else [c]

/-- A cell between quotation marks. -/
def quoteCell (cell : Text) : Text := '"' :: cell.flatMap quotedChar ++ ['"']

/-- A row: the cells between commas, and a line feed. -/
def writeRow (row : List Text) : Text := Text.joinWith [','] (row.map quoteCell) ++ ['\n']

/-- The rows, one after the other. -/
def write (table : List (List Text)) : Text := table.flatMap writeRow

/-! ## Cells and rows -/

/-- What follows the cells of a table: a comma or a line feed. -/
inductive EndsCell : Text → FieldEnd → Prop
  | comma (rest : Text) : EndsCell (',' :: rest) (.comma rest)
  | line (rest : Text) : EndsCell ('\n' :: rest) (.line rest)

/-- A cell is read up to its closing mark. -/
theorem quotedField?_append {t : Text} {e : FieldEnd} (ht : EndsCell t e) (cell : Text) :
    quotedField? (cell.flatMap quotedChar ++ '"' :: t) = some (cell, e) := by
  induction cell with
  | nil =>
    cases ht with
    | comma rest => rfl
    | line rest => rfl
  | cons c cell ih =>
    rw [List.flatMap_cons, List.append_assoc]
    by_cases hc : c = '"'
    · rw [hc, quotedChar, if_pos rfl]
      show quotedField? ('"' :: '"' :: (cell.flatMap quotedChar ++ '"' :: t)) = _
      rw [quotedField?, ih]
      rfl
    · rw [quotedChar, if_neg hc]
      show quotedField? (c :: (cell.flatMap quotedChar ++ '"' :: t)) = _
      rw [quotedField?, ih]
      · rfl
      · exact fun r hr _ => hc hr
      · exact fun hr => hc hr

theorem field?_quoteCell {t : Text} {e : FieldEnd} (ht : EndsCell t e) (cell : Text) :
    field? (quoteCell cell ++ t) = some (cell, e) := by
  have hmarks : quoteCell cell ++ t = '"' :: (cell.flatMap quotedChar ++ '"' :: t) := by
    simp [quoteCell]
  rw [hmarks, field?, quotedField?_append ht]

theorem fields?_of_comma {s r f : Text} (h : field? s = some (f, .comma r)) :
    fields? s = (fields? r).map fun fs => (f :: fs.1, fs.2) := by
  rw [fields?]
  split <;> simp_all

theorem fields?_of_line {s r f : Text} (h : field? s = some (f, .line r)) :
    fields? s = some ([f], some r) := by
  rw [fields?]
  split <;> simp_all

/-- A row is read as its cells. -/
theorem fields?_writeRow {row : List Text} (hrow : row ≠ []) (rest : Text) :
    fields? (writeRow row ++ rest) = some (row, some rest) := by
  induction row with
  | nil => exact absurd rfl hrow
  | cons cell row ih =>
    cases row with
    | nil =>
      have hlast : writeRow [cell] ++ rest = quoteCell cell ++ '\n' :: rest := by
        simp [writeRow, Text.joinWith]
      rw [hlast, fields?_of_line (field?_quoteCell (.line rest) cell)]
    | cons next row =>
      have hfirst : writeRow (cell :: next :: row) ++ rest =
          quoteCell cell ++ ',' :: (writeRow (next :: row) ++ rest) := by
        simp [writeRow, Text.joinWith]
      rw [hfirst, fields?_of_comma (field?_quoteCell (.comma _) cell), ih (List.cons_ne_nil _ _)]
      rfl

/-! ## Lines -/

/-- A row begins with a quotation mark. -/
theorem exists_writeRow {row : List Text} (hrow : row ≠ []) :
    ∃ t, writeRow row = '"' :: t := by
  match row with
  | [] => exact absurd rfl hrow
  | [cell] => exact ⟨_, rfl⟩
  | cell :: next :: row => exact ⟨_, rfl⟩

/-- A line that begins with a quotation mark is not blank: it is the line of its cells. -/
theorem linesFrom_of_quote {skip : Bool} {number : Nat} {passed fs : List Text} {s rest : Text}
    (h : fields? ('"' :: s) = some (fs, some rest)) :
    linesFrom skip number passed ('"' :: s) =
      (⟨number, fs⟩ :: (linesFrom skip (number + 1) [] rest).1,
        (linesFrom skip (number + 1) [] rest).2) := by
  have hblank : (if skip then afterBlankLine? ('"' :: s) else none) = none := by
    cases skip <;> rfl
  have hend : afterLineEnd? ('"' :: s) = none := rfl
  have hback : backBefore number passed '"' = ([], number) := rfl
  rw [linesFrom]
  split
  · simp_all
  · split
    · simp_all
    · rw [hback]
      dsimp only
      split <;> simp_all

/-- The lines of a written table are its rows. -/
theorem lines_write (skip : Bool) {table : List (List Text)} (hcells : ∀ row ∈ table, row ≠ []) :
    ∀ number, ∃ ls, linesFrom skip number [] (write table) = (ls, none) ∧
      ls.map Line.fields = table := by
  induction table with
  | nil =>
    intro number
    exact ⟨[], by rw [write, List.flatMap_nil, linesFrom], rfl⟩
  | cons row table ih =>
    intro number
    have hrow := hcells row List.mem_cons_self
    obtain ⟨ls, hls, hfields⟩ := ih (fun r hr => hcells r (List.mem_cons_of_mem _ hr)) (number + 1)
    obtain ⟨t, ht⟩ := exists_writeRow hrow
    have hread := fields?_writeRow hrow (write table)
    rw [ht, List.cons_append] at hread
    refine ⟨⟨number, row⟩ :: ls, ?_, by rw [List.map_cons, hfields]⟩
    rw [write, List.flatMap_cons, ht, List.cons_append, ← write, linesFrom_of_quote hread, hls]

/-! ## Files -/

/-- Text that begins with a quotation mark is read from its bytes, with a byte order mark
before them or without. -/
theorem text_encode_quote (s : Text) {mark : List UInt8}
    (hmark : mark = [] ∨ mark = Utf8.byteOrderMark) :
    text (mark ++ Utf8.encode ('"' :: s)) = .ok ('"' :: s) := by
  have hwithout : withoutMark (mark ++ Utf8.encode ('"' :: s)) = Utf8.encode ('"' :: s) := by
    rcases hmark with rfl | rfl
    · -- The first byte is that of the quotation mark.
      have hfirst : Utf8.encode ('"' :: s) = 0x22 :: Utf8.encode s := rfl
      rw [List.nil_append, withoutMark, hfirst, if_neg, if_neg]
      · intro h
        cases (List.cons.inj h).1
      · intro h
        cases (List.cons.inj h).1
    · rfl
  rw [text, hwithout, Utf8.decode_encode]
  rfl

/-- A file with the written form of a table, with a byte order mark or without, is read as the
rows of the table, whether blank lines are passed over or not. -/
theorem rows_of_written {d : Disk} {here : Place} {path : Path} {table : List (List Text)}
    {width : Nat} {mark : List UInt8} (hrows : table ≠ []) (hwidth : 0 < width)
    (hcells : ∀ row ∈ table, row.length = width)
    (hname : TestClass.isFileName extension path.name = true)
    (hmark : mark = [] ∨ mark = Utf8.byteOrderMark)
    (hfile : d.read here path = .ok (mark ++ Utf8.encode (write table))) (skip : Bool) :
    fromDisk d here ⟨skip, false⟩ path = .ok (.rows table) := by
  have hne : ∀ row ∈ table, row ≠ [] := by
    rintro row hrow rfl
    exact absurd (hcells [] hrow) (Nat.ne_of_lt hwidth)
  obtain ⟨ls, hls, rfl⟩ := lines_write skip hne 0
  cases ls with
  | nil => exact absurd rfl hrows
  | cons first below =>
    have hlength : ∀ l ∈ first :: below, l.fields.length = width := fun l hl =>
      hcells _ (List.mem_map_of_mem hl)
    have hfirst := hlength first List.mem_cons_self
    have hbelow : ∀ l ∈ below, l.fields.length = first.fields.length := fun l hl =>
      (hlength l (List.mem_cons_of_mem _ hl)).trans hfirst.symm
    have hread : readText ⟨skip, false⟩ (write ((first :: below).map Line.fields)) =
        .ok (.rows ((first :: below).map Line.fields)) := by
      rw [readText_rows, lines, hls, List.map_cons]
      refine readRows_eq_ok_iff.mpr ⟨first, below, rfl, hne _ List.mem_cons_self, rfl,
        fun l hl => Nat.le_of_eq (hbelow l hl), rfl, List.map_congr_left fun l hl => ?_⟩
      -- All lines are as wide as the first one, so nothing is filled up.
      rw [← hbelow l hl, padded_self]
    obtain ⟨t, ht⟩ : ∃ t, write ((first :: below).map Line.fields) = '"' :: t := by
      obtain ⟨t, ht⟩ := exists_writeRow (hne first.fields List.mem_cons_self)
      exact ⟨_, by rw [List.map_cons, write, List.flatMap_cons, ht, List.cons_append]⟩
    have htext := text_encode_quote t hmark
    rw [← ht] at htext
    exact fromDisk_eq_ok_iff.mpr ⟨hname, _, hfile, read_eq_ok_iff.mpr ⟨_, htext, hread⟩⟩

/-- A table with cells that are blank, or hold marks, commas and line ends. -/
def trickyTable : List (List Text) :=
  [[[]], [" \t".toList], ["NA".toList], ["\"\"".toList], ["a,\r\n\"b".toList], ["007é".toList]]

/-- The file of this table, with a byte order mark. -/
def trickyBytes : List UInt8 := Utf8.byteOrderMark ++ Utf8.encode (write trickyTable)

/-- The table comes back from its file, although its first lines look blank. -/
theorem rows_of_written_tricky :
    trickyTable ≠ [] ∧ 0 < 1 ∧ (∀ row ∈ trickyTable, row.length = 1) ∧
      TestClass.isFileName extension tablePath.name = true ∧
      (tableDisk trickyBytes).read [] tablePath =
        .ok (Utf8.byteOrderMark ++ Utf8.encode (write trickyTable)) ∧
      fromDisk (tableDisk trickyBytes) [] ⟨true, false⟩ tablePath = .ok (.rows trickyTable) := by
  have hrows : trickyTable ≠ [] := by decide
  have hcells : ∀ row ∈ trickyTable, row.length = 1 := by decide
  have hname : TestClass.isFileName extension tablePath.name = true := by decide
  have hfile := read_tableDisk trickyBytes
  exact ⟨hrows, Nat.one_pos, hcells, hname, hfile,
    rows_of_written hrows Nat.one_pos hcells hname (.inr rfl) hfile true⟩

end TestScribe.Table
