import TestScribe.Proofs.Table.Columns
import TestScribe.Proofs.Table.Reading

/-!
# Records and the lines that they come from

A record is made from a line, and what a reader of records expects is that it holds every
cell of its line, each under the name of its own column (`KeepsCells`). The table is as wide as
the wider of its first two lines, though, and the names stand over the last columns. So the
cells of every line keep their places exactly if the line below the header is no wider than the
header (`HeaderReaches`); if it is, the first cells of all lines are gone, and no error is
reported.

> `records_keep_cells_iff`: a table that is read with a header keeps the cells of its lines
> exactly if the header reaches over the line below it.

The two ways of reading a table can be compared then. Reading as rows fits all lines to the
first one, so a table that has rows has no line that is wider than its header:

> `records_of_rows`: where the first row names the columns, the records pair its cells with
> those of the other rows.
-/

namespace TestScribe.Table

/-! ## Which cells a record holds -/

/-- No line has more cells than the header, and the records pair the names of the columns with
the cells of the lines in order; where a line has too few, empty cells follow. -/
def KeepsCells : List Line → List (List (Text × Text)) → Prop
  | [], records => records = []
  | header :: data, records =>
    (∀ l ∈ data, l.fields.length ≤ header.fields.length) ∧
      records = data.map fun l =>
        (columnNames header.fields).zip (padded header.fields.length l.fields)

/-- The header has cells, and no fewer than the line below it. -/
def HeaderReaches : List Line → Prop
  | header :: second :: _ =>
    header.fields ≠ [] ∧ second.fields.length ≤ header.fields.length
  | _ => True

instance (ls : List Line) : Decidable (HeaderReaches ls) :=
  match ls with
  | [] | [_] => isTrue trivial
  | header :: second :: _ =>
    inferInstanceAs (Decidable
      (header.fields ≠ [] ∧ second.fields.length ≤ header.fields.length))

section
variable {header second : Line}

/-- Under a header that reaches over the line below it a record holds all cells. -/
theorem recordOf_of_le (h : second.fields.length ≤ header.fields.length) (l : Line) :
    recordOf header second l =
      (columnNames header.fields).zip (padded header.fields.length l.fields) := by
  have hwidth : tableWidth header second = header.fields.length := Nat.max_eq_left h
  rw [recordOf, hwidth, Nat.sub_self, List.drop_zero]

variable {below : List Line} {unclosed : Option Nat} {records : List (List (Text × Text))}

/-- With two lines at least, it is the second one that decides. -/
theorem keepsCells_cons_iff
    (h : readRecords (header :: second :: below) unclosed = .ok (.records records)) :
    KeepsCells (header :: second :: below) records ↔
      header.fields ≠ [] ∧ second.fields.length ≤ header.fields.length := by
  rw [readRecords_eq_ok_iff] at h
  by_cases hempty : header.fields = [] ∧ second.fields = []
  · -- There are lines below the header, but no records.
    rw [if_pos hempty] at h
    refine iff_of_false (fun hkeeps => ?_) fun hreaches => hreaches.1 hempty.1
    have hrecords := hkeeps.2
    rw [h, List.map_cons] at hrecords
    cases hrecords
  · rw [if_neg hempty] at h
    obtain ⟨-, hwidth, rfl⟩ := h
    constructor
    · intro hkeeps
      have hsecond := hkeeps.1 second List.mem_cons_self
      refine ⟨fun hheader => hempty ⟨hheader, ?_⟩, hsecond⟩
      rw [hheader, List.length_nil] at hsecond
      exact List.eq_nil_of_length_eq_zero (Nat.le_zero.mp hsecond)
    · rintro ⟨-, hsecond⟩
      rw [tableWidth, Nat.max_eq_left hsecond] at hwidth
      exact ⟨hwidth, List.map_congr_left fun l _ => recordOf_of_le hsecond l⟩

end

/-- A header alone has no records, and there are none without a header. -/
theorem readRecords_short (ls : List Line) {unclosed : Option Nat}
    {records : List (List (Text × Text))} (hshort : ls.length ≤ 1)
    (h : readRecords ls unclosed = .ok (.records records)) : records = [] := by
  match ls with
  | [] | [_] =>
    cases unclosed with
    | none => exact (Contents.records.inj (Except.ok.inj h)).symm
    | some line => cases h

theorem keepsCells_iff {ls : List Line} {unclosed : Option Nat}
    {records : List (List (Text × Text))} (h : readRecords ls unclosed = .ok (.records records)) :
    KeepsCells ls records ↔ HeaderReaches ls := by
  match ls with
  | [] => exact iff_of_true (readRecords_short [] (Nat.zero_le 1) h) trivial
  | [header] =>
    have hnone := readRecords_short [header] (Nat.le_refl 1) h
    exact iff_of_true ⟨nofun, hnone⟩ trivial
  | header :: second :: below => exact keepsCells_cons_iff h

/-- With a header the contents of a table are records. -/
theorem exists_records {ls : List Line} {unclosed : Option Nat} {contents : Contents}
    (h : readRecords ls unclosed = .ok contents) : ∃ records, contents = .records records := by
  cases contents with
  | records records => exact ⟨records, rfl⟩
  | rows rows =>
    match ls with
    | [] | [_] =>
      cases unclosed <;> cases h
    | header :: second :: below =>
      rw [readRecords] at h
      by_cases hempty : (decide (header.fields = []) && decide (second.fields = [])) = true
      · rw [if_pos hempty] at h
        cases h
      · rw [if_neg hempty] at h
        dsimp only at h
        cases hfit : fitAll (max header.fields.length second.fields.length) (second :: below)
          unclosed <;> rw [hfit] at h <;> cases h

/-- A table file that is read with a header has records. Each column has a name, no two the same
one, and different names that the header gives stay as they are. Every cell of the lines below
the header is in the records, under the name of its column, exactly if the header reaches over
the line below it. -/
theorem records_keep_cells_iff {d : Disk} {here : Place} {path : Path} {bytes : List UInt8}
    {s : Text} {skip : Bool} {contents : Contents} (hbytes : d.read here path = .ok bytes)
    (htext : text bytes = .ok s)
    (haccepted : fromDisk d here ⟨skip, true⟩ path = .ok contents) :
    ∃ records, contents = .records records ∧
      (∀ header ∈ (lines skip s).1.head?,
        (columnNames header.fields).length = header.fields.length ∧
          (columnNames header.fields).Nodup ∧
          (header.fields.Nodup → [] ∉ header.fields →
            columnNames header.fields = header.fields)) ∧
      (KeepsCells (lines skip s).1 records ↔ HeaderReaches (lines skip s).1) := by
  obtain ⟨-, bytes', hbytes', hread⟩ := fromDisk_eq_ok_iff.mp haccepted
  obtain ⟨s', htext', hrecords⟩ := read_eq_ok_iff.mp hread
  obtain rfl : bytes = bytes' := Except.ok.inj (hbytes.symm.trans hbytes')
  obtain rfl : s = s' := Except.ok.inj (htext.symm.trans htext')
  rw [readText_records] at hrecords
  obtain ⟨records, rfl⟩ := exists_records hrecords
  exact ⟨records, rfl,
    fun header _ => ⟨length_columnNames _, nodup_columnNames _, columnNames_of_nodup⟩,
    keepsCells_iff hrecords⟩

/-- A table in which a name repeats, a cell has two lines, a line is blank and one is short. -/
def raggedTable : Text := "name,name,\r\n1,\"a\r\nb\",2\r\n\r\n3,\"x,\"\r\n".toList

/-- Its records. -/
def raggedRecords : List (List (Text × Text)) :=
  [[("name".toList, "1".toList), ("name.1".toList, "a\r\nb".toList),
    ("Unnamed: 2".toList, "2".toList)],
   [("name".toList, "3".toList), ("name.1".toList, "x,".toList), ("Unnamed: 2".toList, [])]]

/-- They hold every cell of the table. -/
theorem records_keep_ragged_cells :
    (tableDisk (Utf8.encode raggedTable)).read [] tablePath = .ok (Utf8.encode raggedTable) ∧
      text (Utf8.encode raggedTable) = .ok raggedTable ∧
      fromDisk (tableDisk (Utf8.encode raggedTable)) [] ⟨true, true⟩ tablePath =
        .ok (.records raggedRecords) ∧
      HeaderReaches (lines true raggedTable).1 ∧
      KeepsCells (lines true raggedTable).1 raggedRecords := by
  have htext : text (Utf8.encode raggedTable) = .ok raggedTable := by decide +kernel
  have hreaches : HeaderReaches (lines true raggedTable).1 := by decide +kernel
  have hread : fromDisk (tableDisk (Utf8.encode raggedTable)) [] ⟨true, true⟩ tablePath =
      .ok (.records raggedRecords) := by
    decide +kernel
  obtain ⟨records, hcontents, -, hkeeps⟩ :=
    records_keep_cells_iff (read_tableDisk _) htext hread
  obtain rfl := Contents.records.inj hcontents
  exact ⟨read_tableDisk _, htext, hread, hreaches, hkeeps.mpr hreaches⟩

/-- A table whose first line below the header is wider than the header. -/
def narrowTable : Text := "a\n1,2\n".toList

/-- The first cell of this line is in no record, and there is no error. -/
theorem records_lose_cell :
    (tableDisk (Utf8.encode narrowTable)).read [] tablePath = .ok (Utf8.encode narrowTable) ∧
      text (Utf8.encode narrowTable) = .ok narrowTable ∧
      (lines true narrowTable).1 = [⟨0, ["a".toList]⟩, ⟨1, ["1".toList, "2".toList]⟩] ∧
      fromDisk (tableDisk (Utf8.encode narrowTable)) [] ⟨true, true⟩ tablePath =
        .ok (.records [[("a".toList, "2".toList)]]) ∧
      ¬ KeepsCells (lines true narrowTable).1 [[("a".toList, "2".toList)]] := by
  have hlines : (lines true narrowTable).1 =
      [⟨0, ["a".toList]⟩, ⟨1, ["1".toList, "2".toList]⟩] := by
    decide +kernel
  refine ⟨read_tableDisk _, by decide +kernel, hlines, by decide +kernel, ?_⟩
  rw [hlines]
  intro hkeeps
  exact absurd (hkeeps.1 _ List.mem_cons_self) (by decide)

/-! ## Rows and records of one table -/

/-- Where the first row of a table gives every column a name of its own, the table has records as
well, and they pair these names with the cells of the other rows. -/
theorem records_of_rows {d : Disk} {here : Place} {path : Path} {skip : Bool} {row : List Text}
    {rows : List (List Text)}
    (hrows : fromDisk d here ⟨skip, false⟩ path = .ok (.rows (row :: rows)))
    (hnamed : [] ∉ row) (hnodup : row.Nodup) :
    fromDisk d here ⟨skip, true⟩ path = .ok (.records (rows.map fun r => row.zip r)) ∧
      ∀ r ∈ rows, r.length = row.length := by
  obtain ⟨hname, bytes, hbytes, hread⟩ := fromDisk_eq_ok_iff.mp hrows
  obtain ⟨s, htext, hlines⟩ := read_eq_ok_iff.mp hread
  rw [readText_rows] at hlines
  obtain ⟨first, below, hls, hcells, hclosed, hwidth, rfl, rfl⟩ := readRows_eq_ok_iff.mp hlines
  constructor
  · refine fromDisk_eq_ok_iff.mpr ⟨hname, bytes, hbytes, read_eq_ok_iff.mpr ⟨s, htext, ?_⟩⟩
    rw [readText_records, hls, hclosed]
    cases below with
    | nil => rfl
    | cons second below =>
      have hsecond := hwidth second List.mem_cons_self
      have htable : tableWidth first second = first.fields.length := Nat.max_eq_left hsecond
      rw [readRecords_eq_ok_iff, if_neg fun hempty => hcells hempty.1, htable]
      refine ⟨rfl, hwidth, ?_⟩
      rw [List.map_map]
      refine List.map_congr_left fun l _ => ?_
      rw [recordOf_of_le hsecond, columnNames_of_nodup hnodup hnamed]
      rfl
  · intro r hr
    obtain ⟨l, hl, rfl⟩ := List.mem_map.mp hr
    exact padded_of_le (hwidth l hl)

/-- A table with a blank line, a short line and a cell of two lines. -/
def blankLineTable : Text := "a,b\n\n1\n\"x\ny\",2".toList

/-- With a header its rows become records. -/
theorem records_of_rows_blank_line :
    fromDisk (tableDisk (Utf8.encode blankLineTable)) [] ⟨false, false⟩ tablePath =
        .ok (.rows [["a".toList, "b".toList], [[], []], ["1".toList, []],
          ["x\ny".toList, "2".toList]]) ∧
      [] ∉ ["a".toList, "b".toList] ∧ ["a".toList, "b".toList].Nodup ∧
      fromDisk (tableDisk (Utf8.encode blankLineTable)) [] ⟨false, true⟩ tablePath =
        .ok (.records [
          [("a".toList, []), ("b".toList, [])],
          [("a".toList, "1".toList), ("b".toList, [])],
          [("a".toList, "x\ny".toList), ("b".toList, "2".toList)]]) := by
  have hrows : fromDisk (tableDisk (Utf8.encode blankLineTable)) [] ⟨false, false⟩ tablePath =
      .ok (.rows [["a".toList, "b".toList], [[], []], ["1".toList, []],
        ["x\ny".toList, "2".toList]]) := by
    decide +kernel
  have hnamed : [] ∉ ["a".toList, "b".toList] := by decide
  have hnodup : ["a".toList, "b".toList].Nodup := by decide
  exact ⟨hrows, hnamed, hnodup, (records_of_rows hrows hnamed hnodup).1⟩

end TestScribe.Table
