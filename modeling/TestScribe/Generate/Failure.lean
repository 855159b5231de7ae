import TestScribe.Disk.Glob
import TestScribe.Markup.Token

/-!
# What can go wrong in a run

A failure is a fault of the given files and directories, and a run can report it: some
concern the run as a whole, the others one document. A breakdown is anything else; it ends
the run at once.
-/

namespace TestScribe.Generate

/-- A failure that a run reports. -/
inductive Failure
  /-- The input directory is not there. -/
  | noInputDirectory
  /-- The input directory holds no document. -/
  | noDocuments
  /-- The output directory cannot be made. -/
  | noOutputDirectory (path : Path)
  /-- The name of a document is not a plain file name. -/
  | invalidName (name : Text)
  /-- The document has no address. -/
  | noAddress
  /-- The document has no rows. -/
  | noRows
  /-- The document at this written path cannot be read. -/
  | unreadable (written : Text)
  /-- The generated file cannot be written. -/
  | unwritable (path : Path)
deriving Repr, DecidableEq

namespace Failure

/-- The failure concerns the whole run and not one document. -/
def concernsRun : Failure → Bool
  | .noInputDirectory | .noDocuments | .noOutputDirectory _ => true
  | _ => false

/-- The message of a failure. -/
def message : Failure → Text
  | .noInputDirectory => "There is not a directory of input files.".toList
  | .noDocuments => "There are not any input files.".toList
  | .noOutputDirectory path => "Failed to create the output directory. ".toList ++ path.toText
  | .invalidName name => "The file name is invalid. ".toList ++ name
  | .noAddress => "There is not a url in the html file.".toList
  | .noRows => "There is not a test case in the html file.".toList
  | .unreadable written => "Failed to get HTML's contents. ".toList ++ written
  | .unwritable path =>
    "This program failed to output the following file. ".toList ++ path.toText

/-- Every failure has something to say. -/
theorem message_ne_nil (f : Failure) : f.message ≠ [] := by
  have hopening : ∀ s : String, s ≠ "" → s.toList ≠ [] := fun s hs h =>
    hs (String.toList_eq_nil_iff.mp h)
  unfold message
  cases f with
  | noInputDirectory => exact hopening _ (by decide)
  | noDocuments => exact hopening _ (by decide)
  | noOutputDirectory path => exact List.append_ne_nil_of_left_ne_nil (hopening _ (by decide)) _
  | invalidName name => exact List.append_ne_nil_of_left_ne_nil (hopening _ (by decide)) _
  | noAddress => exact hopening _ (by decide)
  | noRows => exact hopening _ (by decide)
  | unreadable written => exact List.append_ne_nil_of_left_ne_nil (hopening _ (by decide)) _
  | unwritable path => exact List.append_ne_nil_of_left_ne_nil (hopening _ (by decide)) _

end Failure

/-- What ends a run at once. -/
inductive Breakdown
  /-- The markup of a document cannot be read. -/
  | markup (r : Markup.Rejection)
  /-- A path holds a NUL. -/
  | nul
  /-- A path cannot be asked about. -/
  | disk (e : DiskError)
  /-- The pattern for the documents is none. -/
  | pattern (e : Glob.PatternError)
deriving Repr, DecidableEq

/-- How a step of a run stops short. -/
inductive Stop
  | failure (f : Failure)
  | breakdown (b : Breakdown)
deriving Repr, DecidableEq

end TestScribe.Generate
