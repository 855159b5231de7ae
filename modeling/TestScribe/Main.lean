import TestScribe.CommandLine.Reach
import TestScribe.Settings.Shipped

/-!
# The executable

Copies what a call can reach from the world to a disk, makes the call there, and carries
what the call has changed back to the world. The settings file stands beside the
executable; without one the settings are those that the program ships with.
-/

namespace TestScribe.CommandLine

/-- The written path of a place in the world. -/
def worldPath (p : Place) : String := String.ofList (Place.toPath p).toText

/-- The place that an absolute written path names. -/
def worldPlace (path : String) : Place := (Path.ofText path.toList).names.reverse

/-- The bytes of a file in the world; none where it cannot be read. -/
def bytesAt (p : Place) : IO (List UInt8) := do
  try
    return (← IO.FS.readBinFile (worldPath p)).toList
  catch _ => return []

/-- The disk with what the world has at a place. -/
def copyPlace (d : Disk) (p : Place) : IO Disk := do
  let path := (← IO.currentDir) / worldPath p
  if p.isEmpty then return d
  else if ← path.isDir then return d.put p .directory
  else if ← path.pathExists then return d.put p (.file (← bytesAt p))
  else return d

/-- The disk with what the world has at the places on the way along some names, and the
place where they end. -/
def copyAlong (d : Disk) (p : Place) : List Text → IO (Disk × Place)
  | [] => return (d, p)
  | n :: ns => do
    let q := if n = aboveName then p.tail else n :: p
    copyAlong (← copyPlace d q) q ns

/-- The disk with what the world has along a path, and the place where the path ends. -/
def copyPath (d : Disk) (here : Place) (p : Path) : IO (Disk × Place) := do
  match p.anchor with
  | .here => copyAlong (← copyAlong d [] here.reverse).1 here p.names
  | _ => copyAlong d [] p.names

/-- The disk with what the world has in a directory, down to a depth. -/
def copyContents (d : Disk) (p : Place) : Nat → IO Disk
  | 0 => return d
  | depth + 1 => do
    let path := (← IO.currentDir) / worldPath p
    if ← path.isDir then
      let mut d := d
      for entry in ← path.readDir do
        let q := entry.fileName.toList :: p
        d ← copyContents (← copyPlace d q) q depth
      return d
    else return d

/-- More directories than stand in one another anywhere. -/
def fullDepth : Nat := 4096

/-- The disk with what the world has within reach. -/
def copyReach (d : Disk) (here : Place) (r : Reach) : IO Disk := do
  let mut d := d
  for p in r.paths do
    d := (← copyPath d here p).1
  for p in r.directories do
    let (d', place) ← copyPath d here p
    d ← copyContents d' place (if r.deep then fullDepth else 1)
  return d

/-- The disk with what tells where the project is, at a place and above it. -/
def copySigns (d : Disk) : Place → IO Disk
  | [] => return d
  | n :: above => do
    let p := n :: above
    let d ← copyPlace (← copyPlace d p) ("src".toList :: p)
    copySigns (← copyPlace d ("pyproject.toml".toList :: p)) above

/-- Carries what has changed on a disk back to the world. -/
def carryBack (before after : Disk) : IO Unit :=
  for (p, e) in after do
    if before.at? p ≠ some e then
      match e with
      | .directory => IO.FS.createDir (worldPath p)
      | .file bytes => IO.FS.writeBinFile (worldPath p) ⟨bytes.toArray⟩

/-- Milliseconds as seconds. -/
def seconds (milliseconds : Nat) : Binary64 := .ofDecimal false milliseconds (-3)

/-- Where the executable runs, before any time has passed. -/
def host : IO Host := do
  let executable := worldPlace (← IO.appPath).toString
  return { here := worldPlace (← IO.currentDir).toString, package := executable.tail
           elapsed := seconds 0 }

/-- Makes a call in the world. What it leaves does not depend on the clock, so this is carried
back first; what it prints has the time that all of it took. -/
def execute (arguments : List Text) : IO UInt32 := do
  let h ← host
  let signs ← copySigns (← copyPlace [] h.settingsPlace) h.searchStart
  let store :=
    match signs.at? h.settingsPlace with
    | none => Settings.shipped
    | some _ => h.loadSettings signs
  let start ← IO.monoMsNow
  let before ← copyReach signs h.here (reach h store signs arguments)
  carryBack before (call h store before arguments).2
  let elapsed := seconds ((← IO.monoMsNow) - start)
  match (call { h with elapsed } store before arguments).1 with
  | .ok r =>
    IO.print (String.ofList r.output)
    return UInt32.ofNat r.code
  | .error crash =>
    IO.eprintln (String.ofList crash.message)
    return 1

end TestScribe.CommandLine

/-- Runs the program with the arguments of the command line. -/
def main (arguments : List String) : IO UInt32 :=
  TestScribe.CommandLine.execute (arguments.map String.toList)
