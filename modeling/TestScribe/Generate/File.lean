import TestScribe.Action.Statement
import TestScribe.Generate.Failure
import TestScribe.Generate.Settings
import TestScribe.Recording
import TestScribe.TestClass.Naming
import TestScribe.TestClass.Template

/-!
# Generating one file

A document becomes a class in a file of its own. Everything that can be wrong with the
document is found before anything is written, so a document that fails leaves the disk as
it was.
-/

namespace TestScribe.Generate

/-- The statements of a document. A document without an address is refused, although the
address is not part of the code. -/
def statements (markup : Text) : Except Stop (List Text) :=
  match Recording.outline markup with
  | .error r => .error (.breakdown (.markup r))
  | .ok root =>
    match Recording.address? root with
    | none => .error (.failure .noAddress)
    | some _ =>
      match Recording.rows root with
      | [] => .error (.failure .noRows)
      | rows => .ok (Action.translate rows)

namespace Settings

/-- The class for a document. -/
def className (s : Settings) (fileName : Text) : Text :=
  TestClass.className s.inputExtension s.classSuffix fileName

/-- The file for a class. -/
def outputPath (s : Settings) (className : Text) : Path :=
  s.output.join (.ofText (className ++ '.' :: s.outputExtension))

end Settings

/-- The name of a document, if it is a plain file name. -/
def checkName (extension name : Text) : Except Failure Text :=
  if TestClass.isFileName extension name then .ok name else .error (.invalidName name)

/-- The text of a document. Bytes that are no characters are replaced. A failure names the
path as it was written. -/
def readDocument (d : Disk) (here : Place) (path : Path) (written : Text) : Except Stop Text :=
  match d.read here path with
  | .ok bytes => .ok (Utf8.decodeReplacing bytes)
  | .error .holdsNul => .error (.breakdown .nul)
  | .error _ => .error (.failure (.unreadable written))

/-- Writes the code of a class. -/
def writeClass (d : Disk) (here : Place) (path : Path) (code : Text) : Except Stop Disk :=
  match d.write here path (Utf8.encode code) with
  | .ok d' => .ok d'
  | .error .holdsNul => .error (.breakdown .nul)
  | .error _ => .error (.failure (.unwritable path))

/-- What has been generated from a document. -/
structure Generated where
  path : Path
  className : Text
  statements : Nat
deriving Repr, DecidableEq

/-- The class and the code for a document. -/
def prepare (d : Disk) (here : Place) (s : Settings) (path : Path) :
    Except Stop (Generated × Text) :=
  match checkName s.inputExtension path.name with
  | .error f => .error (.failure f)
  | .ok name =>
    match readDocument d here path path.toText with
    | .error stop => .error stop
    | .ok markup =>
      match statements markup with
      | .error stop => .error stop
      | .ok ls =>
        let className := s.className name
        .ok (⟨s.outputPath className, className, Action.countStatements ls⟩,
          ClassTemplate.acceptanceTest.render className ls)

/-- Generates the file for a document. -/
def generateFile (d : Disk) (here : Place) (s : Settings) (path : Path) :
    Except Stop Generated × Disk :=
  match prepare d here s path with
  | .error stop => (.error stop, d)
  | .ok (generated, code) =>
    match writeClass d here generated.path code with
    | .error stop => (.error stop, d)
    | .ok d' => (.ok generated, d')

end TestScribe.Generate
