import TestScribe.Action.Basic

/-!
# From table cells to actions

The first three cells of a row hold the command, the element's locator and the value.
A locator is rewritten to the form that the generated code uses, and the code holds it
between single quotes, so its own quotes are escaped; the address of an opened page is
taken as it is.
-/

namespace TestScribe.Action

/-! ## Locators -/

/-- The ways to locate an element, with the selector that each becomes. -/
def locatorKinds : List (Text × Text) :=
  [("id=".toList, "#".toList), ("class=".toList, ".".toList), ("css=".toList, [])]

/-- The locator with its kind rewritten: the first kind that fits counts, and a locator
of no kind stays as it is. -/
def rewriteLocator (s : Text) : Text :=
  (locatorKinds.findSome? fun k => (Text.afterPrefix? k.1 s).map (k.2 ++ ·)).getD s

/-- Every single quote with a backslash before it. -/
def escapeQuotes (s : Text) : Text := s.flatMap fun c => if c = '\'' then ['\\', '\''] else [c]

/-- A locator as the generated code holds it. -/
def formatTarget (s : Text) : Text := rewriteLocator (escapeQuotes s)

/-- A locator that uses paths through the document and needs a second look. -/
def isDeprecated (target : Text) : Bool := target.contains '>' || target.contains '/'

/-! ## Values -/

/-- The word that recordings put before the label of a choice. -/
def labelMark : Text := "label=".toList

/-- A value without the mark before it. -/
def formatValue (s : Text) : Text := (Text.afterPrefix? labelMark s).getD s

/-! ## Rows -/

/-- The number of cells that a row needs. -/
def cellsPerRow : Nat := 3

/-- The action from the texts of three cells. -/
def ofCells (command target value : Text) : Action :=
  let c := Command.ofWord command
  { command := c
    written := command
    target := if c = .openPage then target else formatTarget target
    value := formatValue value }

/-- The text of a cell, with none for the placeholder. -/
def cellText (o : Outline) : Text := o.cellText?.getD []

/-- The action of a row: `none` when the row has too few cells. -/
def ofRow? (row : Outline) : Option Action :=
  match row.children "td".toList with
  | command :: target :: value :: _ =>
    some (ofCells (cellText command) (cellText target) (cellText value))
  | _ => none

end TestScribe.Action
