import TestScribe.Generate.Failure

/-!
# Finding the documents

Before a run its input directory must be there, and its output directory is made where it
is missing. The documents are the files that the pattern describes, in the order of their
names, whatever order the disk keeps them in.
-/

namespace TestScribe.Generate

/-- The order of paths by their names. -/
def pathLe (p q : Path) : Bool := Text.listLe p.names q.names

/-- Makes sure of the output directory. -/
def prepareOutput (d : Disk) (here : Place) (output : Path) : Disk × Option Stop :=
  match d.isThere here output with
  | .error e => (d, some (.breakdown (.disk e)))
  | .ok _ =>
    match d.makeDirectories here output with
    | (d', none) => (d', none)
    | (d', some .holdsNul) => (d', some (.breakdown .nul))
    | (d', some _) => (d', some (.failure (.noOutputDirectory output)))

/-- The files below a directory that a pattern describes, in order. -/
def findDocuments (d : Disk) (here : Place) (input : Path) (pattern : Text) :
    Except Breakdown (List Path) :=
  match Glob.pattern pattern with
  | .error e => .error (.pattern e)
  | .ok p =>
    match Glob.find d here input p with
    | .error e => .error (.disk e)
    | .ok found =>
      match found.filterM fun path => d.isFile here path with
      | .error e => .error (.disk e)
      | .ok files => .ok (files.mergeSort pathLe)

/-- The documents of a run. The output directory is there afterwards, if nothing failed
before. -/
def scan (d : Disk) (here : Place) (input output : Path) (pattern : Text) :
    Except Stop (List Path) × Disk :=
  match d.isDirectory here input with
  | .error e => (.error (.breakdown (.disk e)), d)
  | .ok false => (.error (.failure .noInputDirectory), d)
  | .ok true =>
    match prepareOutput d here output with
    | (d', some stop) => (.error stop, d')
    | (d', none) =>
      match findDocuments d' here input pattern with
      | .error b => (.error (.breakdown b), d')
      | .ok [] => (.error (.failure .noDocuments), d')
      | .ok paths => (.ok paths, d')

end TestScribe.Generate
