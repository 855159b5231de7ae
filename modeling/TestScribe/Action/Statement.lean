import TestScribe.Text.Blank
import TestScribe.Action.Cells

/-!
# Statements

Every action becomes a block of lines of code: the statement that performs it, and
comments where someone has to look again. A recording becomes the blocks of its rows in
order.
-/

namespace TestScribe.Action

/-- The comment above a statement whose locator needs a second look. -/
def deprecationNotice : Text := "// TODO X Path is deprecated.".toList

/-- A text between single quotes. -/
def quoted (s : Text) : Text := '\'' :: s ++ ['\'']

/-- A call of the actor with its arguments. -/
def call (method : String) (arguments : List Text) : Text :=
  "$I->".toList ++ method.toList ++ '(' ::
    Text.joinWith ", ".toList (arguments.map quoted) ++ ");".toList

/-- What is said above a click that is followed by waiting. -/
def waitingNotice : List Text :=
  [("// TODO Please implement \"waiting\", e.g. ".toList ++
    "$I->waitForJS('return $.active == 0;', 60);".toList),
   "// $I->waitForText('foo', 30);".toList]

/-- The statement of an action, with what is said about waiting. -/
def statement (a : Action) : List Text :=
  match a.command with
  | .openPage => [call "amOnPage" [a.target]]
  | .click => [call "click" [a.target]]
  | .typeText => [call "fillField" [a.target, a.value]]
  | .select => [call "selectOption" [a.target, a.value]]
  | .clickAndWait => waitingNotice ++ [call "click" [a.target]]
  | .unknown => []

/-- The lines of an action. An address is no locator, so opening a page is never
commented on. -/
def lines (a : Action) : List Text :=
  if a.command ≠ .openPage && isDeprecated a.target then deprecationNotice :: a.statement
  else a.statement

/-- The lines of a row. -/
def rowLines (row : Outline) : List Text :=
  match ofRow? row with
  | none => []
  | some a => a.lines

/-- The lines of a recording. -/
def translate (rows : List Outline) : List Text := rows.flatMap rowLines

/-- A line that holds a comment and no statement. -/
def isComment (line : Text) : Bool := Text.beginsWith "//".toList (Text.trimStart line)

/-- The number of lines that are statements. -/
def countStatements (ls : List Text) : Nat := (ls.filter fun l => !isComment l).length

end TestScribe.Action
