import TestScribe.Text.Printable
import TestScribe.Json.Basic
import TestScribe.Number.Reading
import TestScribe.Number.Shortest

/-!
# The text of a value

A value becomes text where a setting that holds text is given another kind of value. A
string is its own text. Inside lists and maps strings stand in quotes, with everything
that is not printable escaped.

A whole number of more digits than one may have has no text, and then neither has
anything that it is a part of.
-/

namespace TestScribe.Json

/-- A digit of an escape. -/
def escapeDigit (n : Nat) : Char := "0123456789abcdef".toList.getD (n % 16) '0'

/-- The last `count` hexadecimal digits of a number. -/
def hexText : Nat → Nat → Text
  | 0, _ => []
  | count + 1, n => hexText count (n / 16) ++ [escapeDigit n]

/-- A character between quotes of the given kind. -/
def displayChar (mark : Char) (c : Char) : Text :=
  if c = mark || c = '\\' then ['\\', c]
  else if c = '\n' then ['\\', 'n']
  else if c = '\r' then ['\\', 'r']
  else if c = '\t' then ['\\', 't']
  else if isPrintable c then [c]
  else if c.toNat < 0x100 then '\\' :: 'x' :: hexText 2 c.toNat
  else if c.toNat < 0x10000 then '\\' :: 'u' :: hexText 4 c.toNat
  else '\\' :: 'U' :: hexText 8 c.toNat

/-- The quotes for a string: single ones, unless it holds only such. -/
def displayMark (s : Text) : Char := if s.contains '\'' && !s.contains '"' then '"' else '\''

/-- A string in quotes. -/
def displayString (s : Text) : Text :=
  displayMark s :: s.flatMap (displayChar (displayMark s)) ++ [displayMark s]

/-- The text of a whole number, unless it has too many digits. The sign is none. -/
def wholeText? (n : Int) : Option Text :=
  if Number.mostDigits < (Text.ofNat n.natAbs).length then none else some (Text.ofInt n)

/-- The text of a key, or of a plain value as a part of another. -/
def Key.display? : Key → Option Text
  | .text s => some (displayString s)
  | .null => some "None".toList
  | .bool b => some (if b then "True".toList else "False".toList)
  | .int n => wholeText? n
  | .double x => some (Shortest.render Shortest.standard x)

/-- The text of a value as a part of another. -/
def displayPart? : Json → Option Text
  | .null => Key.display? .null
  | .bool b => Key.display? (.bool b)
  | .int n => Key.display? (.int n)
  | .double x => Key.display? (.double x)
  | .str s => Key.display? (.text s)
  | .arr items =>
    (parts? items).map fun parts => '[' :: Text.joinWith ", ".toList parts ++ [']']
  | .obj es =>
    (pairs? es).map fun parts => '\x7b' :: Text.joinWith ", ".toList parts ++ ['\x7d']
where
  /-- The texts of the items of a list. -/
  parts? : List Json → Option (List Text)
    | [] => some []
    | v :: vs => do
      let part ← v.displayPart?
      let rest ← parts? vs
      return part :: rest
  /-- The texts of the entries of a map. -/
  pairs? : List (Key × Json) → Option (List Text)
    | [] => some []
    | (k, v) :: es => do
      let key ← k.display?
      let part ← v.displayPart?
      let rest ← pairs? es
      return (key ++ ": ".toList ++ part) :: rest

/-- The text of a value. -/
def display? : Json → Option Text
  | .str s => some s
  | v => v.displayPart?

end TestScribe.Json
