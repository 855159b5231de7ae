import TestScribe.Text.Basic

/-!
# Paths

A path is written with slashes. Repeated slashes, single points and a slash at the end
say nothing and are dropped when a path is read; two points are kept, since only the disk
knows what lies above a directory. A path that begins with exactly two slashes keeps
them.
-/

namespace TestScribe

/-- Where a path begins. -/
inductive Anchor
  /-- In the current directory. -/
  | here
  /-- At the root. -/
  | root
  /-- At the root, written with two slashes. -/
  | doubleRoot
deriving Repr, DecidableEq

/-- A path: where it begins, and the names on the way. -/
structure Path where
  anchor : Anchor
  names : List Text
deriving Repr, DecidableEq

namespace Path

/-- A name that says nothing. -/
def isIdle (name : Text) : Bool := name == [] || name == ['.']

/-- The names between slashes that say something. -/
def namesOf (s : Text) : List Text := (Text.splitAt '/' s).filter fun n => !isIdle n

/-- Where a written path begins. -/
def anchorOf : Text → Anchor
  | '/' :: '/' :: '/' :: _ => .root
  | '/' :: '/' :: _ => .doubleRoot
  | '/' :: _ => .root
  | _ => .here

/-- Reads a path. -/
def ofText (s : Text) : Path := ⟨anchorOf s, namesOf s⟩

/-- The start of a written path. -/
def anchorText : Anchor → Text
  | .here => []
  | .root => ['/']
  | .doubleRoot => ['/', '/']

/-- The written path; the current directory is a point. -/
def toText (p : Path) : Text :=
  if p.anchor = .here ∧ p.names = [] then ['.']
  else anchorText p.anchor ++ Text.joinWith ['/'] p.names

/-- The path `q` seen from `p`: a path that begins at the root does not care. -/
def join (p q : Path) : Path :=
  match q.anchor with
  | .here => { p with names := p.names ++ q.names }
  | _ => q

/-- The path to a name that is taken as it is. -/
def child (p : Path) (name : Text) : Path := { p with names := p.names ++ [name] }

/-- The last name; none is empty. -/
def name (p : Path) : Text := p.names.getLast?.getD []

/-- The path contains a NUL, which no disk accepts. -/
def hasNul (p : Path) : Bool := p.names.any (·.contains '\x00')

end Path
end TestScribe
