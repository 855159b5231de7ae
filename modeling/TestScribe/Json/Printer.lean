import TestScribe.Json.Basic
import TestScribe.Number.Shortest

/-!
# Printing JSON

A value is printed over several lines: every item of an array and every entry of an
object has a line of its own, two blanks further in than what is around it; what is
empty stays on its line. Only quotes, backslashes and control characters are escaped.
-/

namespace TestScribe.Json

/-- A digit of a four-digit escape. -/
def hexDigit (n : Nat) : Char := "0123456789abcdef".toList.getD n '0'

/-- A character of a string. -/
def escapeChar (c : Char) : Text :=
  if c = '"' then ['\\', '"']
  else if c = '\\' then ['\\', '\\']
  else if c = '\n' then ['\\', 'n']
  else if c = '\r' then ['\\', 'r']
  else if c = '\t' then ['\\', 't']
  else if c = '\x08' then ['\\', 'b']
  else if c = '\x0c' then ['\\', 'f']
  else if c.toNat < 0x20 then
    ['\\', 'u', '0', '0', hexDigit (c.toNat / 16), hexDigit (c.toNat % 16)]
  else [c]

/-- A string in quotes. -/
def printString (s : Text) : Text := '"' :: s.flatMap escapeChar ++ ['"']

/-- The text of a double. -/
def printDouble : Binary64 → Text
  | .notANumber => "NaN".toList
  | .infinite negative => if negative then "-Infinity".toList else "Infinity".toList
  | x => Shortest.render Shortest.standard x

/-- The text of a key: one that is no text is printed as the value that it is. -/
def Key.print : Key → Text
  | .text s => s
  | .null => "null".toList
  | .bool b => if b then "true".toList else "false".toList
  | .int n => Text.ofInt n
  | .double x => printDouble x

/-- A new line with its indent. -/
def newLine (indent : Nat) : Text := '\n' :: List.replicate indent ' '

/-- How much further in the parts of a value stand. -/
def indentStep : Nat := 2

/-- The text of a value that stands at an indent. -/
def print (indent : Nat) : Json → Text
  | .null => Key.print .null
  | .bool b => Key.print (.bool b)
  | .int n => Key.print (.int n)
  | .double x => Key.print (.double x)
  | .str s => printString s
  | .arr [] => "[]".toList
  | .arr (v :: vs) =>
    '[' :: newLine (indent + indentStep) ++ v.print (indent + indentStep) ++
      items (indent + indentStep) vs ++ newLine indent ++ [']']
  | .obj [] => ['\x7b', '\x7d']
  | .obj ((k, v) :: es) =>
    '\x7b' :: newLine (indent + indentStep) ++ printString k.print ++ ": ".toList ++
      v.print (indent + indentStep) ++ entries (indent + indentStep) es ++ newLine indent ++
      ['\x7d']
where
  /-- The further items of an array, each after a comma on a new line. -/
  items (indent : Nat) : List Json → Text
    | [] => []
    | v :: vs => ',' :: newLine indent ++ v.print indent ++ items indent vs
  /-- The further entries of an object. -/
  entries (indent : Nat) : List (Key × Json) → Text
    | [] => []
    | (k, v) :: es =>
      ',' :: newLine indent ++ printString k.print ++ ": ".toList ++ v.print indent ++
        entries indent es

end TestScribe.Json
