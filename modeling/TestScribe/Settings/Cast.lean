import TestScribe.Json.Display
import TestScribe.Number.Reading

/-!
# Fitting a value to the one it replaces

A setting keeps its kind where that is possible: a new value is turned into the kind of
value that it replaces, and is stored as given where no such value can be made of it. A
number that is beyond all numbers of the old kind cannot be stored at all.
-/

namespace TestScribe.Settings

/-- The words that mean yes. -/
def yesWords : List Text := ["1".toList, "true".toList, "yes".toList, "on".toList]

/-- A text that means yes, with blanks around it and capitals allowed. -/
def isYes (s : Text) : Bool := yesWords.contains (Text.lower (Text.trim s))

/-- The entry that a value of two parts makes: a list of two values, a text of two
characters, or a map with two keys. Lists and maps are no keys. -/
def entryOf? : Json → Option (Json.Key × Json)
  | .arr [k, v] => k.toKey?.map fun key => (key, v)
  | .str [a, b] => some (.text [a], .str [b])
  | .obj [(a, _), (b, _)] => some (a, b.toJson)
  | _ => none

/-- A whole number made of a value. -/
def toInt? : Json → Option Json
  | .str s => (Number.int? s).map .int
  | .double x => x.truncate?.map .int
  | .bool b => some (.int (if b then 1 else 0))
  | .int n => some (.int n)
  | _ => none

/-- A double made of a value. -/
def toDouble? : Json → Option Json
  | .str s => (Number.double? s).map .double
  | .int n => some (.double (.ofInt n))
  | .bool b => some (.double (.ofInt (if b then 1 else 0)))
  | .double x => some (.double x)
  | _ => none

/-- A list made of a value: the characters of a text, the keys of a map. -/
def toList? : Json → Option Json
  | .str s => some (.arr (s.map fun c => .str [c]))
  | .obj es => some (.arr (es.map fun e => e.1.toJson))
  | .arr items => some (.arr items)
  | _ => none

/-- A map made of a value: a list of entries; the empty text makes an empty one. -/
def toMap? : Json → Option Json
  | .obj es => some (.obj es)
  | .str [] => some (.obj [])
  | .arr items => (items.mapM entryOf?).map fun es => .obj (Dictionary.ofPairs es)
  | _ => none

/-- A text made of a value. -/
def toText? (v : Json) : Option Json := v.display?.map .str

/-- A truth value made of a value: a text that means yes, or anything that counts as
true. -/
def toBool : Json → Json
  | .str s => .bool (isYes s)
  | v => .bool v.truthy

/-- The new value in the kind of the old one. Without an old value, and where no value of
that kind can be made, it is taken as it is. -/
def cast (old new : Json) : Json :=
  match old with
  | .null => new
  | .bool _ => toBool new
  | .str _ => (toText? new).getD new
  | .int _ => (toInt? new).getD new
  | .double _ => (toDouble? new).getD new
  | .arr _ => (toList? new).getD new
  | .obj _ => (toMap? new).getD new

/-- The new value is a number beyond all numbers of the old kind: an infinite double for a
whole number, or a whole number beyond all doubles for a double. -/
def isBeyond (old new : Json) : Bool :=
  match old, new with
  | .int _, .double x => x.isInfinite
  | .double _, .int n => (Binary64.ofInt n).isInfinite
  | _, _ => false

end TestScribe.Settings
