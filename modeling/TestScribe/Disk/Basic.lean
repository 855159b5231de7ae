import TestScribe.Text.Utf8
import TestScribe.Disk.Path

/-!
# Disks

A disk holds files and directories. It is a list of places with what is there; the root
is always a directory. A path leads to a place name by name: each name is looked up in
the directory reached so far, and two points lead to the directory above it.

A file is written, and a directory added, in the one place that the path names:
`at?_put` says that nothing else changes.
-/

namespace TestScribe

/-- A place on a disk: the names that lead there from the root, the last one first. -/
abbrev Place := List Text

/-- What is at a place. -/
inductive Entry
  | file (bytes : List UInt8)
  | directory
deriving Repr, DecidableEq

/-- The entry is a file. -/
def Entry.isFile : Entry → Bool
  | .file _ => true
  | .directory => false

/-- Files and directories with their places. -/
abbrev Disk := List (Place × Entry)

/-- Why a path leads to nothing, or cannot be used as asked. -/
inductive DiskError
  /-- There is nothing there. -/
  | missing
  /-- A name on the way is that of a file. -/
  | notDirectory
  /-- A name is longer than a disk allows. -/
  | nameTooLong
  /-- A directory is there. -/
  | isDirectory
  /-- Something is there already. -/
  | alreadyThere
  /-- The path holds a NUL. -/
  | holdsNul
deriving Repr, DecidableEq

/-- The most bytes that a name may have. -/
def longestFileName : Nat := 255

/-- The name of the directory above. -/
def aboveName : Text := ['.', '.']

namespace Disk

/-- What is at a place. -/
def at? (d : Disk) (p : Place) : Option Entry :=
  if p = [] then some .directory else List.lookup p d

/-- Puts an entry at a place, in the stead of what was there. -/
def put (p : Place) (e : Entry) : Disk → Disk
  | [] => [(p, e)]
  | x :: xs => if x.1 = p then (p, e) :: xs else x :: put p e xs

/-- The place that the names lead to from a place. Every name but the last must be found;
the last one need not be there. -/
def locate (d : Disk) (at_ : Place) : List Text → Except DiskError Place
  | [] => .ok at_
  | n :: ns =>
    match d.at? at_ with
    | none => .error .missing
    | some (.file _) => .error .notDirectory
    | some .directory =>
      if n = aboveName then locate d at_.tail ns
      else if longestFileName < (Utf8.encode n).length then .error .nameTooLong
      else locate d (n :: at_) ns

/-- The place that a path leads to from the current directory `here`. -/
def resolve (d : Disk) (here : Place) (p : Path) : Except DiskError Place :=
  if p.hasNul then .error .holdsNul
  else d.locate (if p.anchor = .here then here else []) p.names

/-- What a path leads to. -/
def lookup (d : Disk) (here : Place) (p : Path) : Except DiskError Entry :=
  match d.resolve here p with
  | .error e => .error e
  | .ok place =>
    match d.at? place with
    | none => .error .missing
    | some e => .ok e

/-- The faults that a question about a path answers with no. -/
def DiskError.isAbsence : DiskError → Bool
  | .missing | .notDirectory | .holdsNul => true
  | _ => false

/-- Asks something about what a path leads to; nothing there means no. A name that is too
long cannot be asked about. -/
def ask (d : Disk) (here : Place) (p : Path) (question : Entry → Bool) : Except DiskError Bool :=
  match d.lookup here p with
  | .ok e => .ok (question e)
  | .error e => if DiskError.isAbsence e then .ok false else .error e

/-- There is something. -/
def isThere (d : Disk) (here : Place) (p : Path) : Except DiskError Bool :=
  d.ask here p fun _ => true

/-- There is a directory. -/
def isDirectory (d : Disk) (here : Place) (p : Path) : Except DiskError Bool :=
  d.ask here p (· = .directory)

/-- There is a file. -/
def isFile (d : Disk) (here : Place) (p : Path) : Except DiskError Bool :=
  d.ask here p Entry.isFile

/-! ## Reading and changing -/

/-- The bytes of a file. -/
def read (d : Disk) (here : Place) (p : Path) : Except DiskError (List UInt8) :=
  match d.lookup here p with
  | .error e => .error e
  | .ok (.file bytes) => .ok bytes
  | .ok .directory => .error .isDirectory

/-- The disk with a file of these bytes at the path. -/
def write (d : Disk) (here : Place) (p : Path) (bytes : List UInt8) : Except DiskError Disk :=
  match d.resolve here p with
  | .error e => .error e
  | .ok place =>
    match d.at? place with
    | some .directory => .error .isDirectory
    | _ => .ok (d.put place (.file bytes))

/-- The disk with a new directory at the path. -/
def addDirectory (d : Disk) (here : Place) (p : Path) : Except DiskError Disk :=
  match d.resolve here p with
  | .error e => .error e
  | .ok place =>
    match d.at? place with
    | some _ => .error .alreadyThere
    | none => .ok (d.put place .directory)

/-- What a failed attempt to add a directory comes to: all is well where a directory is. -/
def unlessDirectory (d : Disk) (here : Place) (p : Path) (e : DiskError) : Option DiskError :=
  match d.isDirectory here p with
  | .ok true => none
  | _ => some e

/-- Makes sure that there is a directory at the path whose names are given with the last
one first. Where the directory above is missing, it is made first. What has been made
stays, also when the rest fails. -/
def ensureDirectory (d : Disk) (here : Place) (anchor : Anchor) :
    List Text → Disk × Option DiskError
  | [] =>
    match d.addDirectory here ⟨anchor, []⟩ with
    | .ok d' => (d', none)
    | .error e => (d, d.unlessDirectory here ⟨anchor, []⟩ e)
  | n :: above =>
    let path : Path := ⟨anchor, (n :: above).reverse⟩
    match d.addDirectory here path with
    | .ok d' => (d', none)
    | .error .missing =>
      match d.ensureDirectory here anchor above with
      | (d', some e) => (d', some e)
      | (d', none) =>
        match d'.addDirectory here path with
        | .ok d'' => (d'', none)
        | .error e => (d', d'.unlessDirectory here path e)
    | .error e => (d, d.unlessDirectory here path e)

/-- Makes sure that there is a directory at the path. -/
def makeDirectories (d : Disk) (here : Place) (p : Path) : Disk × Option DiskError :=
  d.ensureDirectory here p.anchor p.names.reverse

/-- The disk without what is at a place and below it. -/
def remove (d : Disk) (p : Place) : Disk := d.filter fun x => !p.isSuffixOf x.1

/-- What a directory holds: the names with what they are. -/
def listing (d : Disk) (p : Place) : List (Text × Entry) :=
  d.filterMap fun x =>
    match x.1 with
    | n :: above => if above = p then some (n, x.2) else none
    | [] => none

/-- Everything below a place, with the path that leads there from it. -/
def below (d : Disk) (p : Place) : List (Text × Entry) :=
  d.filterMap fun x =>
    if p.isSuffixOf x.1 && x.1 ≠ p then
      some (Text.joinWith ['/'] (x.1.take (x.1.length - p.length)).reverse, x.2)
    else none

/-! ## Laws -/

@[simp] theorem at?_root (d : Disk) : d.at? [] = some .directory := rfl

/-- Putting an entry at a place changes what is at that place and nothing else. -/
theorem at?_put (d : Disk) (p q : Place) (e : Entry) (hp : p ≠ []) :
    at? (put p e d) q = if q = p then some e else at? d q := by
  by_cases hq : q = []
  · subst hq
    rw [if_neg (Ne.symm hp)]
    rfl
  · simp only [at?, if_neg hq]
    induction d with
    | nil =>
      simp only [put, List.lookup_cons, List.lookup_nil]
      by_cases h : q = p
      · simp [h]
      · have : (q == p) = false := by simpa using h
        simp [h, this]
    | cons x xs ih =>
      unfold put
      by_cases hx : x.1 = p
      · rw [if_pos hx, List.lookup_cons, List.lookup_cons]
        by_cases h : q = p
        · simp [h]
        · have h' : (q == p) = false := by simpa using h
          simp [h, hx, h']
      · rw [if_neg hx, List.lookup_cons, List.lookup_cons, ih]
        by_cases h : q = x.1
        · subst h; simp [hx]
        · have : (q == x.1) = false := by simpa using h
          simp [this]

end Disk
end TestScribe
