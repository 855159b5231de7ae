import TestScribe.Disk.Basic
import TestScribe.Json.Basic
import TestScribe.Table.Read
import TestScribe.TestClass.Naming

/-!
# Table files

A table is read from a file with a plain name and the extension `csv`. That there is a
file is asked before its name is looked at.
-/

namespace TestScribe.Table

/-- Why a table cannot be had from a path. -/
inductive FileFailure
  /-- There is nothing at the path. -/
  | notThere (path : Path)
  /-- What is there is no file. -/
  | notFile (path : Path)
  /-- The name is not a plain file name. -/
  | invalidName (name : Text)
  /-- The file holds no table. -/
  | unreadable (path : Path) (defect : Defect)
deriving Repr, DecidableEq

/-- The message of a failure. -/
def FileFailure.message : FileFailure → Text
  | .notThere path => "The file path is invalid. ".toList ++ path.toText
  | .notFile path => "It is not a file. ".toList ++ path.toText
  | .invalidName name => "The file name is invalid. ".toList ++ name
  | .unreadable path defect =>
    "Failed to read the csv file. ".toList ++ path.toText ++ ": ".toList ++ defect.message

/-- How reading a table file stops short. -/
inductive FileStop
  | failure (f : FileFailure)
  /-- The path cannot be asked about. -/
  | breakdown (e : DiskError)
deriving Repr, DecidableEq

/-- The extension of table files. -/
def extension : Text := "csv".toList

/-- Reads the table file at a path. -/
def fromDisk (d : Disk) (here : Place) (o : ReadOptions) (path : Path) :
    Except FileStop Contents :=
  match d.isThere here path, d.isFile here path with
  | .error e, _ => .error (.breakdown e)
  | .ok false, _ => .error (.failure (.notThere path))
  | _, .error e => .error (.breakdown e)
  | _, .ok false => .error (.failure (.notFile path))
  | _, .ok true =>
    if TestClass.isFileName extension path.name then
      match d.read here path with
      | .error e => .error (.breakdown e)
      | .ok bytes =>
        match read o bytes with
        | .ok contents => .ok contents
        | .error defect => .error (.failure (.unreadable path defect))
    else .error (.failure (.invalidName path.name))

/-- The contents of a table as a JSON value: rows are lists, and records are objects. -/
def Contents.toJson : Contents → Json
  | .rows rs => .arr (rs.map fun r => .arr (r.map .str))
  | .records rs => .arr (rs.map fun r => .record (r.map fun e => (e.1, .str e.2)))

end TestScribe.Table
