import TestScribe.Proofs.CommandLine.Accounting
import TestScribe.Proofs.CommandLine.KeptValues
import TestScribe.Proofs.Json.Printing
import TestScribe.Proofs.Table.Records

/-!
# A printed table is read back

The command for tables prints a table as JSON. Every cell and every name of a column is printed as
a string, and every record as an object. Nothing is lost in the objects, because the columns have
different names (`exists_names`); so the contents are a value that is read as it was printed
(`Textual`), and it is left to see that no two tables have the same form (`ofJson?_toJson`).

Which table is printed depends on two flags. The call can only turn a flag off, what is configured
counts where it does not, and without both the flag is on (`flag`).

> `printed_table_read_back`: what the command prints for a table that can be read, without the line
> end after it, is read as this table.
-/

namespace TestScribe

namespace Table

/-! ## The names in records -/

/-- All records of a table have the same names in the same order, and these are different. -/
theorem exists_names {ls : List Line} {unclosed : Option Nat}
    {records : List (List (Text × Text))} (h : readRecords ls unclosed = .ok (.records records)) :
    ∃ names : List Text, names.Nodup ∧ ∀ r ∈ records, r.map Prod.fst = names := by
  match ls with
  | [] =>
    rw [readRecords_short [] (Nat.zero_le 1) h]
    exact ⟨[], .nil, nofun⟩
  | [header] =>
    rw [readRecords_short [header] (Nat.le_refl 1) h]
    exact ⟨[], .nil, nofun⟩
  | header :: second :: below =>
    refine ⟨columnNames header.fields, nodup_columnNames _, fun r hr => ?_⟩
    rw [readRecords_eq_ok_iff] at h
    split at h
    · rw [h] at hr
      cases hr
    · obtain ⟨-, hwidth, rfl⟩ := h
      obtain ⟨l, hl, rfl⟩ := List.mem_map.mp hr
      exact keys_recordOf (hwidth l hl)

/-- Without a header the contents of a table are rows. -/
theorem exists_rows {ls : List Line} {unclosed : Option Nat} {contents : Contents}
    (h : readRows ls unclosed = .ok contents) : ∃ rows, contents = .rows rows := by
  cases contents with
  | rows rows => exact ⟨rows, rfl⟩
  | records records =>
    cases ls with
    | nil => cases (emptyUnless_eq_ok_iff.mp h).2
    | cons first below =>
      rw [readRows] at h
      split at h
      · cases h
      · obtain ⟨rows, -, he⟩ := map_eq_ok_iff.mp h
        cases he

/-! ## Tables as JSON -/

/-- The contents are of the kind that is asked for, and records have the same different names. -/
def Contents.HasShape (useHeader : Bool) : Contents → Prop
  | .rows _ => useHeader = false
  | .records rs => useHeader = true ∧
      ∃ names : List Text, names.Nodup ∧ ∀ r ∈ rs, r.map Prod.fst = names

theorem hasShape_of_fromDisk {d : Disk} {here : Place} {o : ReadOptions} {path : Path}
    {contents : Contents} (h : fromDisk d here o path = .ok contents) :
    contents.HasShape o.useHeader := by
  obtain ⟨-, bytes, -, hread⟩ := fromDisk_eq_ok_iff.mp h
  obtain ⟨s, -, hlines⟩ := read_eq_ok_iff.mp hread
  obtain ⟨skip, _ | _⟩ := o
  · rw [readText_rows] at hlines
    obtain ⟨rows, rfl⟩ := exists_rows hlines
    rfl
  · rw [readText_records] at hlines
    obtain ⟨records, rfl⟩ := exists_records hlines
    exact ⟨rfl, exists_names hlines⟩

theorem textual_toJson {useHeader : Bool} {contents : Contents} (h : contents.HasShape useHeader) :
    Json.Textual contents.toJson := by
  cases contents with
  | rows rows =>
    refine .arr fun v hv => ?_
    obtain ⟨row, -, rfl⟩ := List.mem_map.mp hv
    refine .arr fun w hw => ?_
    obtain ⟨cell, -, rfl⟩ := List.mem_map.mp hw
    exact .str cell
  | records records =>
    obtain ⟨-, names, hnames, hkeys⟩ := h
    refine .arr fun v hv => ?_
    obtain ⟨r, hr, rfl⟩ := List.mem_map.mp hv
    refine .record ?_ fun e he => ?_
    · rw [Dictionary.keys, List.map_map]
      exact (hkeys r hr).symm ▸ hnames
    · obtain ⟨cell, -, rfl⟩ := List.mem_map.mp he
      exact .str cell.2

/-- The cell that a value is. -/
def cell? : Json → Option Text
  | .str s => some s
  | _ => none

/-- The row that a value is: a list of cells. -/
def row? : Json → Option (List Text)
  | .arr cells => cells.mapM cell?
  | _ => none

/-- The cell under a name that an entry of an object is. -/
def namedCell? : Json.Key × Json → Option (Text × Text)
  | (.text name, .str s) => some (name, s)
  | _ => none

/-- The record that a value is: an object of cells, in its order. -/
def record? : Json → Option (List (Text × Text))
  | .obj entries => entries.mapM namedCell?
  | _ => none

/-- The table that a value is: a list of records, or without a header of rows. -/
def Contents.ofJson? (useHeader : Bool) : Json → Option Contents
  | .arr items =>
    if useHeader then (items.mapM record?).map .records else (items.mapM row?).map .rows
  | _ => none

theorem mapM_map_eq_some {α β : Type} {f : α → β} {g : β → Option α} (h : ∀ x, g (f x) = some x)
    (xs : List α) : (xs.map f).mapM g = some xs := by
  have hid : g ∘ f = fun x => pure (id x) := funext h
  rw [List.mapM_map, hid, List.mapM_pure, List.map_id]
  rfl

theorem row?_toJson (row : List Text) : row? (.arr (row.map .str)) = some row :=
  mapM_map_eq_some (g := cell?) (fun _ => rfl) row

theorem record?_toJson (r : List (Text × Text)) :
    record? (.record (r.map fun e => (e.1, .str e.2))) = some r := by
  rw [Json.record, record?, List.map_map]
  exact mapM_map_eq_some (g := namedCell?) (fun _ => rfl) r

/-- A table is found again in its form as JSON. -/
theorem ofJson?_toJson {useHeader : Bool} {contents : Contents}
    (h : contents.HasShape useHeader) : Contents.ofJson? useHeader contents.toJson = some contents := by
  cases contents with
  | rows rows =>
    obtain rfl : useHeader = false := h
    show ((rows.map fun r => Json.arr (r.map .str)).mapM row?).map Contents.rows = _
    rw [mapM_map_eq_some row?_toJson]
    rfl
  | records records =>
    obtain rfl : useHeader = true := h.1
    show ((records.map fun r => Json.record (r.map fun e => (e.1, .str e.2))).mapM record?).map
      Contents.records = _
    rw [mapM_map_eq_some record?_toJson]
    rfl

end Table

namespace CommandLine

variable {values fields : Dictionary Text Json} {name : String}

/-! ## The flags of a table -/

/-- The flags of a table. -/
def tableFlags : List String := ["skip_empty_rows", "use_header"]

/-- A flag as the call has it, without it as it is configured, and else on. -/
def flag (values fields : Dictionary Text Json) (name : String) : Bool :=
  match values.get? name.toList, fields.get? name.toList with
  | some (.bool b), _ => b
  | none, some (.bool b) => b
  | _, _ => true

/-- How a call reads a table. -/
def readOptions (values fields : Dictionary Text Json) : Table.ReadOptions where
  skipEmptyRows := flag values fields "skip_empty_rows"
  useHeader := flag values fields "use_header"

/-- Every flag that is there is a truth value. -/
def HasFlags (fields : Dictionary Text Json) : Prop :=
  ∀ name ∈ tableFlags, ∀ v ∈ fields.get? name.toList, ∃ b, v = .bool b

/-- A call for a table can only turn its flags off. -/
theorem eq_false_of_kept {v : Json} (h : Kept CommandName.csv.usage (name.toList, v))
    (hname : name ∈ tableFlags) : v = .bool false := by
  have hoption : ∀ {e : Effect}, IsOption CommandName.csv.usage e →
      e = .help ∨ e = .sets "use_header".toList (.bool false) ∨
        e = .sets "skip_empty_rows".toList (.bool false) := by
    rintro e ⟨spelling, he⟩
    simp only [CommandName.usage, helpOptions, List.cons_append, List.nil_append,
      List.mem_cons, Prod.mk.injEq, List.not_mem_nil, or_false] at he
    rcases he with ⟨-, he⟩ | ⟨-, he⟩ | ⟨-, he⟩ | ⟨-, he⟩
    · exact .inl he
    · exact .inl he
    · exact .inr (.inl he)
    · exact .inr (.inr he)
  cases h with
  | plain hplain s =>
    -- The only plain argument is the path, which is no flag.
    have hpath : name.toList = "path".toList := List.mem_singleton.mp hplain
    have hother : ∀ n ∈ tableFlags, n.toList ≠ "path".toList := by decide
    exact absurd hpath (hother name hname)
  | sets h =>
    rcases hoption h with he | he | he
    · cases he
    · exact (Effect.sets.inj he).2
    · exact (Effect.sets.inj he).2
  | given h v =>
    rcases hoption h with he | he | he <;> cases he

theorem hasFlags_of_read {arguments : List Text}
    (hread : read CommandName.csv.usage arguments = .values values) : HasFlags values := by
  intro name hname v hv
  obtain ⟨-, hkept⟩ := read_keeps hread
  exact ⟨false, eq_false_of_kept (hkept _ (Dictionary.mem_of_get? hv)) hname⟩

/-- The value of a flag once those of the call are set over the configured ones. -/
theorem fieldOr_flag (hvalues : values.keys.Nodup) (hflags : HasFlags values)
    (hconfigured : HasFlags fields) (hname : name ∈ tableFlags) :
    Generate.Settings.fieldOr Generate.Settings.bool?
        ((values.filter fun e => e.1 ≠ "path".toList).foldl (fun es e => es.set e.1 e.2) fields)
        name true =
      some (flag values fields name) := by
  have hpath : ∀ n ∈ tableFlags, decide (n.toList ≠ "path".toList) = true := by decide
  rw [Generate.Settings.fieldOr, Dictionary.get?_foldl_set (Dictionary.nodup_keys_filter hvalues _),
    Dictionary.get?_filter_keys values fun key => decide (key ≠ "path".toList),
    if_pos (hpath name hname), flag]
  cases hvalue : values.get? name.toList with
  | some v =>
    obtain ⟨b, rfl⟩ := hflags name hname v hvalue
    rfl
  | none =>
    cases hfield : fields.get? name.toList with
    | none => rfl
    | some v =>
      obtain ⟨b, rfl⟩ := hconfigured name hname v hfield
      rfl

theorem readOptions?_eq (hvalues : values.keys.Nodup) (hflags : HasFlags values)
    (hconfigured : HasFlags fields) :
    readOptions? ((values.filter fun e => e.1 ≠ "path".toList).foldl
        (fun es e => es.set e.1 e.2) fields) =
      some (readOptions values fields) := by
  rw [readOptions?, fieldOr_flag hvalues hflags hconfigured (by decide),
    fieldOr_flag hvalues hflags hconfigured (by decide)]
  rfl

/-! ## Printing -/

section
variable {h : Host} {store : Settings.Store} {d : Disk} {arguments : List Text}

/-- The reply about a table that can be read. -/
theorem runCommand_csv {contents : Table.Contents}
    (hread : read CommandName.csv.usage arguments = .values values)
    (hsection : Settings.section? store "csv".toList = some (Json.named fields))
    (hconfigured : HasFlags fields)
    (haccepted : Table.fromDisk d h.here (readOptions values fields) (tablePath values) =
      .ok contents) :
    runCommand h store d .csv arguments = (.ok ⟨0, contents.toJson.print 0 ++ ['\n']⟩, d) := by
  have hall : ¬ fields.length < (Json.named fields).length := by
    rw [Json.named, List.length_map]
    exact Nat.lt_irrefl _
  have htable : printTable h store d values = .ok ⟨0, contents.toJson.print 0 ++ ['\n']⟩ := by
    rw [printTable, hsection]
    dsimp only
    rw [Json.fields_named, if_neg hall,
      readOptions?_eq (read_keeps hread).1 (hasFlags_of_read hread) hconfigured]
    dsimp only
    rw [haccepted]
    exact congrArg (fun output => Except.ok (Reply.mk 0 output)) (List.append_nil _)
  rw [runCommand, hread]
  exact congrArg (fun reply => (reply, d)) htable

/-- What the command prints for a table that can be read, with the flags of the call, those that
are configured, or the defaults, is read as this table, once the line end is taken off. By the
name of the program the command prints the same, if the log can be set up. -/
theorem printed_table_read_back {contents : Table.Contents}
    (hread : read CommandName.csv.usage arguments = .values values)
    (hsection : Settings.section? store "csv".toList = some (Json.named fields))
    (hconfigured : HasFlags fields)
    (haccepted : Table.fromDisk d h.here (readOptions values fields) (tablePath values) =
      .ok contents) :
    ∃ output : Text,
      runCommand h store d .csv arguments = (.ok ⟨0, output ++ ['\n']⟩, d) ∧
      Json.read? output = some contents.toJson ∧
      (Json.read? output).bind
          (Table.Contents.ofJson? (readOptions values fields).useHeader) = some contents ∧
      (∀ records, contents = .records records →
        ∃ names : List Text, names.Nodup ∧ ∀ r ∈ records, r.map Prod.fst = names) ∧
      ∀ levels, Log.configure (Settings.get store "debug.level".toList (.str "INFO".toList))
          [] [] = .ok levels →
        call h store d (CommandName.csv.word :: arguments) = (.ok ⟨0, output ++ ['\n']⟩, d) := by
  have hshape := Table.hasShape_of_fromDisk haccepted
  have hback : Json.read? (contents.toJson.print 0) = some contents.toJson :=
    Json.read?_print (Table.textual_toJson hshape) 0
  have hcommand := runCommand_csv hread hsection hconfigured haccepted
  refine ⟨contents.toJson.print 0, hcommand, hback, ?_, ?_, ?_⟩
  · rw [hback]
    exact Table.ofJson?_toJson hshape
  · rintro records rfl
    exact hshape.2
  · intro levels hlog
    rw [call_word .csv arguments hlog, hcommand]

end

/-- A table with a quote and a line break in its cells, control characters, and a blank line. -/
def awkwardTable : Text := "a,\"q\"\"b\"\n\"x\ny\",\\\t\x01\n\né,\n".toList

/-- Its records, where blank lines are kept. -/
def awkwardRecords : List (List (Text × Text)) :=
  [[("a".toList, "x\ny".toList), ("q\"b".toList, "\\\t\x01".toList)],
   [("a".toList, []), ("q\"b".toList, [])],
   [("a".toList, "é".toList), ("q\"b".toList, [])]]

/-- What is configured for tables: blank lines are passed over. -/
def configuredTable : Dictionary Text Json :=
  [("skip_empty_rows".toList, .bool true), ("comment".toList, .str "none".toList)]

/-- The call keeps the blank lines. -/
theorem printed_table_read_back_awkward :
    let disk := Table.tableDisk (Utf8.encode awkwardTable)
    let store := Json.record [("csv".toList, .record configuredTable)]
    let arguments := ["--keep".toList, "users.csv".toList]
    HasFlags configuredTable ∧
      ∃ output : Text,
        runCommand ⟨[], [], .ofInt 0⟩ store disk .csv arguments = (.ok ⟨0, output ++ ['\n']⟩, disk) ∧
        (Json.read? output).bind (Table.Contents.ofJson? true) =
          some (.records awkwardRecords) := by
  intro disk store arguments
  have hread : read CommandName.csv.usage arguments = .values
      [("skip_empty_rows".toList, .bool false), ("path".toList, .str "users.csv".toList)] := rfl
  have hsection : Settings.section? store "csv".toList = some (Json.named configuredTable) := rfl
  have hconfigured : HasFlags configuredTable := by
    intro name hname v hv
    rcases List.mem_pair.mp hname with rfl | rfl
    · exact ⟨true, (Option.some.inj hv).symm⟩
    · cases hv
  have haccepted : Table.fromDisk disk [] ⟨false, true⟩ Table.tablePath =
      .ok (.records awkwardRecords) := by
    decide +kernel
  obtain ⟨output, hprinted, -, hback, -⟩ := printed_table_read_back (h := ⟨[], [], .ofInt 0⟩) hread hsection
    hconfigured haccepted
  exact ⟨hconfigured, output, hprinted, hback⟩

end CommandLine
end TestScribe
