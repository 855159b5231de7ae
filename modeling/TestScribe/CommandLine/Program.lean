import TestScribe.CommandLine.Commands
import TestScribe.Generate.Batch
import TestScribe.Json.Printer
import TestScribe.Log
import TestScribe.Number.Shortest
import TestScribe.Table.File

/-!
# The program

A call of the program is a list of arguments. What it does depends on the disk, on where it
is called, and on the settings store; it prints lines, ends with a code, and leaves the disk
as it has made it. The code is zero when everything that was asked for could be done.
-/

namespace TestScribe.CommandLine

/-- What a call prints, and the code that it ends with. -/
structure Reply where
  code : Nat
  output : Text
deriving Repr, DecidableEq

/-- What ends a call without a reply. -/
inductive Crash
  /-- The settings ask for a log level that cannot be used. -/
  | log (r : Log.Refusal)
  /-- The settings of a run cannot be put together. -/
  | settings (e : Generate.Settings.BuildError)
  /-- A run breaks down. -/
  | run (b : Generate.Breakdown)
  /-- The path of a table cannot be asked about. -/
  | table (e : DiskError)
deriving Repr, DecidableEq

/-- What is said about a crash. -/
def Crash.message : Crash → Text
  | .log _ => "The log level in the settings cannot be used.".toList
  | .settings _ => "The settings cannot be used.".toList
  | .run _ => "The run broke down.".toList
  | .table _ => "The path of the table cannot be used.".toList

/-- Lines as they are printed. -/
def printed (ls : List Text) : Text := ls.flatMap (· ++ ['\n'])

/-! ## Generating -/

/-- The line about a document that was generated. -/
def successLine? (f : Generate.FileResult) : Option Text :=
  match f.outcome with
  | .ok g => some (f.input.name ++ " -> ".toList ++ g.path.toText)
  | .error _ => none

/-- The last line: how many documents were generated, and in how many seconds. -/
def summaryLine (elapsed : Binary64) (r : Generate.Report) : Text :=
  "Generated ".toList ++ Text.ofNat r.succeeded.length ++ " of ".toList ++
    Text.ofNat r.length ++ " file(s) in ".toList ++ Shortest.render Shortest.standard elapsed ++
      "s.".toList

/-- What is printed about a run: the failures, the generated files, and their number. -/
def reportLines (elapsed : Binary64) (r : Generate.Report) : List Text :=
  r.failureLines ++ r.succeeded.filterMap successLine? ++ [summaryLine elapsed r]

/-- Generates the files of a directory. -/
def generate (h : Host) (store : Settings.Store) (d : Disk) (arguments : Dictionary Text Json) :
    Except Crash Reply × Disk :=
  match Generate.Settings.build h d store arguments with
  | .error e => (.error (.settings e), d)
  | .ok s =>
    match Generate.run d h.here s with
    | (.ok report, d') =>
      (.ok ⟨if report.ok then 0 else 1, printed (reportLines h.elapsed report)⟩, d')
    | (.error (.failure f), d') => (.ok ⟨1, printed [f.message]⟩, d')
    | (.error (.breakdown b), d') => (.error (.run b), d')

/-! ## Tables -/

/-- How a table is read, from fields with the settings' names; `none` where a field has a
value of the wrong kind. -/
def readOptions? (fields : Dictionary Text Json) : Option Table.ReadOptions := do
  let skipEmptyRows ← Generate.Settings.fieldOr Generate.Settings.bool? fields
    "skip_empty_rows" true
  let useHeader ← Generate.Settings.fieldOr Generate.Settings.bool? fields "use_header" true
  pure { skipEmptyRows, useHeader }

/-- The path of the table that a call asks for. -/
def tablePath (arguments : Dictionary Text Json) : Path :=
  match arguments.get? "path".toList with
  | some (.str s) => .ofText s
  | _ => .ofText []

/-- Prints a table. The flags of the call go before those of the store. -/
def printTable (h : Host) (store : Settings.Store) (d : Disk) (arguments : Dictionary Text Json) :
    Except Crash Reply :=
  match Settings.section? store "csv".toList with
  | none => .error (.settings .noSections)
  | some entries =>
    let configured := Json.fields entries
    let flags := arguments.filter fun e => e.1 ≠ "path".toList
    if configured.length < entries.length then .error (.settings .namelessField)
    else
      match readOptions? (flags.foldl (fun fields e => fields.set e.1 e.2) configured) with
      | none => .error (.settings .wrongKind)
      | some o =>
        match Table.fromDisk d h.here o (tablePath arguments) with
        | .ok contents => .ok ⟨0, printed [contents.toJson.print 0]⟩
        | .error (.failure f) => .ok ⟨1, printed [f.message]⟩
        | .error (.breakdown e) => .error (.table e)

/-! ## The whole call -/

/-- Runs a command with its arguments. -/
def runCommand (h : Host) (store : Settings.Store) (d : Disk) (c : CommandName)
    (arguments : List Text) : Except Crash Reply × Disk :=
  match read c.usage arguments with
  | .misuse => (.ok ⟨1, []⟩, d)
  | .help => (.ok ⟨1, c.helpText⟩, d)
  | .values vs =>
    match c with
    | .generate => generate h store d vs
    | .csv => (printTable h store d vs, d)

/-- The words that ask for the overview. -/
def overviewWords : List Text := ["-h".toList, "--help".toList, "help".toList]

/-- Calls the program. Before anything else the log is set up as the store asks for. -/
def call (h : Host) (store : Settings.Store) (d : Disk) (arguments : List Text) :
    Except Crash Reply × Disk :=
  let level := Settings.get store "debug.level".toList (.str "INFO".toList)
  match Log.configure level [] [] with
  | .error r => (.error (.log r), d)
  | .ok _ =>
    match arguments with
    | [] => (.ok ⟨0, printed [overview]⟩, d)
    | word :: rest =>
      if overviewWords.contains word then (.ok ⟨0, printed [overview]⟩, d)
      else
        match CommandName.ofWord? word with
        | some c => runCommand h store d c rest
        | none => (.ok ⟨1, printed ["Unknown command: ".toList ++ word, overview]⟩, d)

end TestScribe.CommandLine
