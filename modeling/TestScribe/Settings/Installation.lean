import TestScribe.Disk.Basic
import TestScribe.Settings.Store

/-!
# Where the program is installed

The program's package holds its settings file. The project around it is the nearest
directory above that holds both a directory `src` and a file `pyproject.toml`; its input
and output directories are the defaults. Outside of a project the current directory takes
its place.
-/

namespace TestScribe

/-- Where a run takes place: the current directory, the program's package, and the seconds
that a run takes there by the clock. -/
structure Host where
  here : Place
  package : Place
  elapsed : Binary64
deriving Repr, DecidableEq

/-- The path of a place. -/
def Place.toPath (p : Place) : Path := ⟨.root, p.reverse⟩

namespace Host

/-- The directory of the package where the search for the project begins. -/
def searchStart (h : Host) : Place := "utils".toList :: "core".toList :: h.package

/-- The question is answered with yes. One that cannot be asked counts as answered with no. -/
def isYes : Except DiskError Bool → Bool
  | .ok answer => answer
  | .error _ => false

/-- The directory `src` of a project. -/
def sourcePath (p : Place) : Path := (Place.toPath p).child "src".toList

/-- The file `pyproject.toml` of a project. -/
def manifestPath (p : Place) : Path := (Place.toPath p).child "pyproject.toml".toList

/-- The place is that of a project. -/
def isProject (d : Disk) (p : Place) : Bool :=
  isYes (d.isThere [] (sourcePath p)) && isYes (d.isDirectory [] (sourcePath p)) &&
    isYes (d.isThere [] (manifestPath p)) && isYes (d.isFile [] (manifestPath p))

/-- The nearest project at a place or above it. The root itself is none. -/
def projectAbove? (d : Disk) : Place → Option Place
  | [] => none
  | n :: above => if isProject d (n :: above) then some (n :: above) else projectAbove? d above

/-- The project that the program is installed in. -/
def project? (h : Host) (d : Disk) : Option Place := projectAbove? d h.searchStart

/-- The directory of this name in the project. -/
def projectDirectory? (h : Host) (d : Disk) (name : Text) : Option Path :=
  (h.project? d).map fun p => (Place.toPath p).child name

/-- The directory of the project that holds its input. -/
def projectInput? (h : Host) (d : Disk) : Option Path := h.projectDirectory? d "input".toList

/-- The directory of the project that holds its output. -/
def projectOutput? (h : Host) (d : Disk) : Option Path := h.projectDirectory? d "output".toList

/-- The directories that hold input and output where nothing else is said. -/
def defaultDirectories (h : Host) (d : Disk) : Path × Path :=
  match h.projectInput? d, h.projectOutput? d with
  | some input, some output => (input, output)
  | _, _ => ((Place.toPath h.here).child "input".toList, (Place.toPath h.here).child "output".toList)

/-- Both lie in the project, or both in the current directory. -/
theorem defaultDirectories_eq (h : Host) (d : Disk) : h.defaultDirectories d =
    ((Place.toPath ((h.project? d).getD h.here)).child "input".toList,
      (Place.toPath ((h.project? d).getD h.here)).child "output".toList) := by
  unfold defaultDirectories projectInput? projectOutput? projectDirectory?
  cases h.project? d <;> rfl

/-- The place of the settings file. -/
def settingsPlace (h : Host) : Place := "settings.json".toList :: h.package

/-- The settings as the file has them; without a file the store is empty. -/
def loadSettings (h : Host) (d : Disk) : Settings.Store :=
  match d.at? h.settingsPlace with
  | some (.file bytes) => Settings.ofBytes bytes
  | _ => .obj []

end Host
end TestScribe
