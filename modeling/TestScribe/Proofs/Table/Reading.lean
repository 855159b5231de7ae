import TestScribe.Proofs.Disk.Writing
import TestScribe.Proofs.Table.Columns
import TestScribe.Table.File

/-!
# What reading a table gives

A table is read from the lines of its text, and this is said here of every stage by itself:
fitting lines to a width, reading them as rows, reading them as records, reading a file. Each
statement says both when there is a result and what it is.

> `readRows_eq_ok_iff`: the rows are the lines, filled up to the width of the first one.
> `readRecords_eq_ok_iff`: a record pairs the names of the columns with the last cells of a
> line that is filled up to the width of the wider of the first two.
> `fromDisk_eq_ok_iff`: a table file is read as the bytes in it are.
-/

namespace TestScribe.Table

/-! ## Widths -/

theorem padded_of_le {width : Nat} {cells : List Text} (h : cells.length ≤ width) :
    (padded width cells).length = width := by
  rw [padded, List.length_append, List.length_replicate, Nat.add_sub_cancel' h]

theorem padded_self (cells : List Text) : padded cells.length cells = cells := by
  rw [padded, Nat.sub_self, List.replicate_zero, List.append_nil]

/-- Lines fit when none is too wide, and they are filled up then. -/
theorem fit_eq_ok_iff {width : Nat} {ls : List Line} {rows : List (List Text)} :
    fit width ls = .ok rows ↔
      (∀ l ∈ ls, l.fields.length ≤ width) ∧ rows = ls.map fun l => padded width l.fields := by
  induction ls generalizing rows with
  | nil =>
    rw [fit]
    exact ⟨fun h => ⟨nofun, (Except.ok.inj h).symm⟩, fun h => congrArg Except.ok h.2.symm⟩
  | cons l ls ih =>
    rw [fit, List.forall_mem_cons, List.map_cons]
    by_cases hwide : width < l.fields.length
    · rw [if_pos hwide]
      exact ⟨nofun, fun h => absurd h.1.1 (Nat.not_le.mpr hwide)⟩
    · rw [if_neg hwide]
      have hl := Nat.not_lt.mp hwide
      constructor
      · intro h
        cases hls : fit width ls with
        | error e =>
          rw [hls] at h
          cases h
        | ok more =>
          rw [hls] at h
          obtain ⟨hall, rfl⟩ := ih.mp hls
          exact ⟨⟨hl, hall⟩, (Except.ok.inj h).symm⟩
      · rintro ⟨⟨-, hall⟩, rfl⟩
        rw [ih.mpr ⟨hall, rfl⟩]
        rfl

/-- All of a file fits when, besides, no quote stays open in it. -/
theorem fitAll_eq_ok_iff {width : Nat} {ls : List Line} {unclosed : Option Nat}
    {rows : List (List Text)} :
    fitAll width ls unclosed = .ok rows ↔ unclosed = none ∧ fit width ls = .ok rows := by
  unfold fitAll
  cases fit width ls with
  | error e => simp
  | ok more => cases unclosed <;> simp

/-- A table without rows is had when no quote stays open. -/
theorem emptyUnless_eq_ok_iff {unclosed : Option Nat} {empty contents : Contents} :
    emptyUnless unclosed empty = .ok contents ↔ unclosed = none ∧ empty = contents := by
  cases unclosed with
  | none => exact ⟨fun h => ⟨rfl, Except.ok.inj h⟩, fun h => congrArg Except.ok h.2⟩
  | some line => exact ⟨nofun, fun h => nomatch h.1⟩

/-- What is made of a result is a result when there is one. -/
theorem map_eq_ok_iff {α : Type} {x : Except Defect α} {f : α → Contents} {contents : Contents} :
    x.map f = .ok contents ↔ ∃ v, x = .ok v ∧ f v = contents := by
  cases x with
  | error e => exact ⟨nofun, fun ⟨_, h, _⟩ => nomatch h⟩
  | ok v =>
    constructor
    · exact fun h => ⟨v, rfl, Except.ok.inj h⟩
    · rintro ⟨v', hv, rfl⟩
      rw [Except.ok.inj hv]
      rfl

/-! ## Rows -/

/-- There are rows when the first line has cells, no line has more, and no quote stays open.
They are the lines, filled up. -/
theorem readRows_eq_ok_iff {ls : List Line} {unclosed : Option Nat} {row : List Text}
    {rows : List (List Text)} :
    readRows ls unclosed = .ok (.rows (row :: rows)) ↔
      ∃ first below, ls = first :: below ∧ first.fields ≠ [] ∧ unclosed = none ∧
        (∀ l ∈ below, l.fields.length ≤ first.fields.length) ∧ row = first.fields ∧
        rows = below.map fun l => padded first.fields.length l.fields := by
  cases ls with
  | nil =>
    refine ⟨fun h => ?_, fun ⟨_, _, h, _⟩ => nomatch h⟩
    cases unclosed <;> cases h
  | cons first below =>
    rw [readRows]
    by_cases hcells : first.fields = []
    · rw [if_pos hcells]
      refine ⟨fun h => ?_, fun ⟨_, _, he, hne, _⟩ => ?_⟩
      · cases h
      · cases he
        exact absurd hcells hne
    · rw [if_neg hcells]
      constructor
      · intro h
        cases hfit : fitAll first.fields.length (first :: below) unclosed with
        | error e =>
          rw [hfit] at h
          cases h
        | ok all =>
          rw [hfit] at h
          obtain ⟨hclosed, hlines⟩ := fitAll_eq_ok_iff.mp hfit
          obtain ⟨hwidth, rfl⟩ := fit_eq_ok_iff.mp hlines
          cases h
          exact ⟨first, below, rfl, hcells, hclosed, (List.forall_mem_cons.mp hwidth).2,
            padded_self _, rfl⟩
      · rintro ⟨first', below', he, -, hclosed, hwidth, rfl, rfl⟩
        cases he
        have hfit : fit first.fields.length (first :: below) =
            .ok (first.fields :: below.map fun l => padded first.fields.length l.fields) := by
          refine fit_eq_ok_iff.mpr ⟨List.forall_mem_cons.mpr ⟨Nat.le_refl _, hwidth⟩, ?_⟩
          rw [List.map_cons, padded_self]
        rw [fitAll_eq_ok_iff.mpr ⟨hclosed, hfit⟩]
        rfl

/-! ## Records -/

/-- The width of a table with a header: that of the wider of the first two lines. -/
def tableWidth (header second : Line) : Nat := max header.fields.length second.fields.length

/-- The record of a line: the names of the columns with the last cells of the line, once it is
filled up to the width of the table. -/
def recordOf (header second l : Line) : List (Text × Text) :=
  (columnNames header.fields).zip ((padded (tableWidth header second) l.fields).drop
    (tableWidth header second - header.fields.length))

section
variable {header second l : Line}

theorem length_drop_padded (h : l.fields.length ≤ tableWidth header second) :
    ((padded (tableWidth header second) l.fields).drop
      (tableWidth header second - header.fields.length)).length =
      (columnNames header.fields).length := by
  have hheader : header.fields.length ≤ tableWidth header second := Nat.le_max_left _ _
  rw [length_columnNames, List.length_drop, padded_of_le h, Nat.sub_sub_self hheader]

theorem keys_recordOf (h : l.fields.length ≤ tableWidth header second) :
    (recordOf header second l).map Prod.fst = columnNames header.fields :=
  List.map_fst_zip (Nat.le_of_eq (length_drop_padded h).symm)

/-- A record holds the last cells of its line. -/
theorem cells_recordOf (h : l.fields.length ≤ tableWidth header second) :
    (recordOf header second l).map Prod.snd <:+ padded (tableWidth header second) l.fields := by
  rw [recordOf, List.map_snd_zip (Nat.le_of_eq (length_drop_padded h))]
  exact List.drop_suffix _ _

end

/-- A header with at least one line below it. Either both lines are without cells, and there
are no records; or there is a record of every line, when no line has too many cells and no
quote stays open. -/
theorem readRecords_eq_ok_iff {header second : Line} {below : List Line} {unclosed : Option Nat}
    {records : List (List (Text × Text))} :
    readRecords (header :: second :: below) unclosed = .ok (.records records) ↔
      if header.fields = [] ∧ second.fields = [] then records = []
      else unclosed = none ∧
        (∀ l ∈ second :: below, l.fields.length ≤ tableWidth header second) ∧
        records = (second :: below).map (recordOf header second) := by
  rw [readRecords]
  by_cases hempty : header.fields = [] ∧ second.fields = []
  · rw [if_pos hempty, if_pos (by simp [hempty])]
    exact ⟨fun h => (Contents.records.inj (Except.ok.inj h)).symm, fun h => h ▸ rfl⟩
  · rw [if_neg hempty, if_neg (by simpa using hempty)]
    dsimp only
    rw [show max header.fields.length second.fields.length = tableWidth header second from rfl]
    constructor
    · intro h
      cases hfit : fitAll (tableWidth header second) (second :: below) unclosed with
      | error e =>
        rw [hfit] at h
        cases h
      | ok rows =>
        rw [hfit] at h
        obtain ⟨hclosed, hlines⟩ := fitAll_eq_ok_iff.mp hfit
        obtain ⟨hwidth, rfl⟩ := fit_eq_ok_iff.mp hlines
        refine ⟨hclosed, hwidth, ?_⟩
        rw [← Contents.records.inj (Except.ok.inj h), List.map_map]
        rfl
    · rintro ⟨hclosed, hwidth, rfl⟩
      rw [fitAll_eq_ok_iff.mpr ⟨hclosed, fit_eq_ok_iff.mpr ⟨hwidth, rfl⟩⟩]
      refine congrArg (fun records => Except.ok (Contents.records records)) ?_
      rw [List.map_map]
      rfl

/-! ## Files -/

theorem readText_rows (skip : Bool) (s : Text) :
    readText ⟨skip, false⟩ s = readRows (lines skip s).1 (lines skip s).2 := rfl

theorem readText_records (skip : Bool) (s : Text) :
    readText ⟨skip, true⟩ s = readRecords (lines skip s).1 (lines skip s).2 := rfl

/-- Bytes are read as the text is that they hold. -/
theorem read_eq_ok_iff {o : ReadOptions} {bytes : List UInt8} {contents : Contents} :
    read o bytes = .ok contents ↔ ∃ s, text bytes = .ok s ∧ readText o s = .ok contents := by
  unfold read
  cases text bytes with
  | error e => simp
  | ok s => simp

/-- A table file is read as the bytes in it are, if it has the name of one. -/
theorem fromDisk_eq_ok_iff {d : Disk} {here : Place} {o : ReadOptions} {path : Path}
    {contents : Contents} :
    fromDisk d here o path = .ok contents ↔
      TestClass.isFileName extension path.name = true ∧
        ∃ bytes, d.read here path = .ok bytes ∧ read o bytes = .ok contents := by
  unfold fromDisk Disk.isThere Disk.isFile Disk.ask Disk.read
  cases hlookup : d.lookup here path with
  | error e =>
    cases habsence : Disk.DiskError.isAbsence e <;> simp [habsence]
  | ok entry =>
    cases entry with
    | directory => simp [Entry.isFile]
    | file bytes =>
      cases hname : TestClass.isFileName extension path.name with
      | false => simp [Entry.isFile]
      | true => cases hread : read o bytes <;> simp [Entry.isFile, hread]

/-- A disk with one table file. -/
def tableDisk (bytes : List UInt8) : Disk := [(["users.csv".toList], .file bytes)]

/-- The path of the file. -/
def tablePath : Path := .ofText "users.csv".toList

theorem read_tableDisk (bytes : List UInt8) : (tableDisk bytes).read [] tablePath = .ok bytes := rfl

end TestScribe.Table
