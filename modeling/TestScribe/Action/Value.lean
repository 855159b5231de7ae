import TestScribe.Action.Cells
import TestScribe.Json.Display

/-!
# Values from data

The value of an action can also come from data instead of a table cell. What is empty gives
no text; everything else is shown as text first, if it has one, and then treated like the
text of a cell.
-/

namespace TestScribe.Action

/-- The text that a piece of data has as the value of an action; none where it cannot be
shown as text. -/
def formatData? : Json → Option Text
  | .null => some []
  | .arr [] => some []
  | .obj [] => some []
  | v => v.display?.map formatValue

/-- The text that a piece of data has as the target of an action: only text has one. -/
def formatTargetData : Json → Text
  | .str s => formatTarget s
  | _ => []

end TestScribe.Action
