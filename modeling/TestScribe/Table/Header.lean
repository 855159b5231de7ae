import TestScribe.Dictionary

/-!
# The names of the columns

The header gives every column a name of its own. A column without a name is called by
its place; where names repeat, the later ones get a number behind a point. Columns with
a given name choose first, so that a given name is never moved aside by an invented one.
-/

namespace TestScribe.Table

/-- The name of a column that the header leaves without one. -/
def unnamed (column : Nat) : Text := "Unnamed: ".toList ++ Text.ofNat column

/-- A name with a number behind a point. -/
def numbered (name : Text) (k : Nat) : Text := name ++ '.' :: Text.ofNat k

/-- The first of the numbers `k`, `k + 1`, … that gives a name which nobody has. Among as
many numbers as there are names and one more, one does. -/
def freeNumber (names : List Text) (name : Text) (k : Nat) : Nat :=
  ((List.range' k (names.length + 1)).find? fun i => !names.contains (numbered name i)).getD k

/-- The names so far and how often each name has been asked for. -/
structure Naming where
  names : List Text
  asked : Dictionary Text Nat

/-- Settles the name of a column: the first to ask for a name has it, the others get it
with a number. -/
def Naming.settle (n : Naming) (column : Nat) : Naming :=
  let name := n.names.getD column []
  match (n.asked.get? name).getD 0 with
  | 0 => { n with asked := n.asked.set name 1 }
  | k + 1 =>
    let free := freeNumber n.names name (k + 1)
    let chosen := numbered name free
    { names := n.names.set column chosen
      asked := (n.asked.set name (free + 1)).set chosen 1 }

/-- The columns in the order in which they choose: those with a given name first. -/
def choosingOrder (header : List Text) : List Nat :=
  let columns := List.range header.length
  columns.filter (fun i => header.getD i [] ≠ []) ++
    columns.filter (fun i => header.getD i [] = [])

/-- The names of the columns under a header. -/
def columnNames (header : List Text) : List Text :=
  let names := header.zipIdx.map fun c => if c.1 = [] then unnamed c.2 else c.1
  ((choosingOrder header).foldl Naming.settle ⟨names, []⟩).names

end TestScribe.Table
