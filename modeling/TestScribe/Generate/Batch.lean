import TestScribe.Generate.File
import TestScribe.Generate.Scan

/-!
# Runs

A run generates a file for every document of its input directory, in order. A document
that fails is noted in the report and the run goes on, unless it is told to stop at the
first failure. A breakdown ends it in any case. What was written before stays.
-/

namespace TestScribe.Generate

/-- What became of a document. -/
structure FileResult where
  input : Path
  outcome : Except Failure Generated
deriving Repr

namespace FileResult

/-- The file was generated. -/
def ok (r : FileResult) : Bool :=
  match r.outcome with
  | .ok _ => true
  | .error _ => false

end FileResult

/-- The results of a run, one for each document. -/
abbrev Report := List FileResult

namespace Report

/-- The results of the documents that were generated. -/
def succeeded (r : Report) : List FileResult := r.filter (·.ok)

/-- The results of the documents that failed. -/
def failed (r : Report) : List FileResult := r.filter fun f => !f.ok

/-- Every document was generated. -/
def ok (r : Report) : Bool := r.failed.isEmpty

/-- The message about a document that failed: its name and what was wrong. A failure that
has nothing to say is passed over. -/
def failureLine? (f : FileResult) : Option Text :=
  match f.outcome with
  | .ok _ => none
  | .error e =>
    if e.message.isEmpty then none else some (f.input.name ++ ": ".toList ++ e.message)

/-- The messages about the documents that failed. -/
def failureLines (r : Report) : List Text := r.failed.filterMap failureLine?

end Report

/-- Generates one file of a run: a failure is a result, unless the run is to stop at
it. -/
def runOne (d : Disk) (here : Place) (s : Settings) (path : Path) :
    Except Stop FileResult × Disk :=
  match generateFile d here s path with
  | (.ok generated, d') => (.ok ⟨path, .ok generated⟩, d')
  | (.error (.failure f), d') =>
    if s.failFast then (.error (.failure f), d') else (.ok ⟨path, .error f⟩, d')
  | (.error (.breakdown b), d') => (.error (.breakdown b), d')

/-- Generates the files for the documents one after the other. -/
def runAll (here : Place) (s : Settings) (d : Disk) : List Path → Except Stop Report × Disk
  | [] => (.ok [], d)
  | path :: paths =>
    match runOne d here s path with
    | (.error stop, d') => (.error stop, d')
    | (.ok result, d') =>
      match runAll here s d' paths with
      | (.error stop, d'') => (.error stop, d'')
      | (.ok results, d'') => (.ok (result :: results), d'')

/-- A whole run. -/
def run (d : Disk) (here : Place) (s : Settings) : Except Stop Report × Disk :=
  match scan d here s.input s.output s.pattern with
  | (.error stop, d') => (.error stop, d')
  | (.ok paths, d') => runAll here s d' paths

end TestScribe.Generate
