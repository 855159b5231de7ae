import TestScribe.CommandLine.Program

/-!
# What a call can reach

Before a call its disk has to be filled with what the call may look at. For a table that is
its file; for a run it is what stands in the input and the output directory, and what is
further down where a name in the settings leads there.
-/

namespace TestScribe.CommandLine

/-- The part of a disk that a call can look at. -/
structure Reach where
  /-- Paths that are looked at by themselves. -/
  paths : List Path
  /-- Directories whose contents are looked at. -/
  directories : List Path
  /-- Their contents are looked at in full depth. -/
  deep : Bool
deriving Repr

/-- Nothing is looked at. -/
def Reach.nothing : Reach := ⟨[], [], false⟩

/-- What a run looks at. -/
def Reach.ofRun (s : Generate.Settings) : Reach :=
  { paths := []
    directories := [s.input, s.output]
    deep := [s.inputExtension, s.classSuffix, s.outputExtension].any (·.contains '/') }

/-- What a command looks at, from its values. -/
def CommandName.reach (h : Host) (store : Settings.Store) (d : Disk)
    (values : Dictionary Text Json) : CommandName → Reach
  | .csv => ⟨[tablePath values], [], false⟩
  | .generate =>
    match Generate.Settings.build h d store values with
    | .ok s => .ofRun s
    | .error _ => .nothing

/-- What a call looks at. The disk need only hold what tells where the project is. -/
def reach (h : Host) (store : Settings.Store) (d : Disk) (arguments : List Text) : Reach :=
  match arguments with
  | [] => .nothing
  | word :: rest =>
    match CommandName.ofWord? word with
    | none => .nothing
    | some c =>
      match read c.usage rest with
      | .values vs => c.reach h store d vs
      | _ => .nothing

end TestScribe.CommandLine
