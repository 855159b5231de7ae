import TestScribe.Text.Capital
import TestScribe.Markup.Tag

/-!
# Names of files and classes

A recorded document `login_test.html` becomes the class `LoginTestCest`. Only plain
file names are accepted: a letter, then letters, digits and underscores, then the
extension. So a name can neither leave its directory nor hide a NUL.
-/

namespace TestScribe.TestClass

/-! ## Camel case -/

/-- A character between two words. -/
def isWordBreak (c : Char) : Bool := c = '_' || c = '-' || c = ' '

/-- The words of a name: one more than there are word breaks. -/
def words : Text → List Text
  | [] => [[]]
  | c :: cs =>
    if isWordBreak c then [] :: words cs
    else
      match words cs with
      | [] => [[c]]
      | w :: ws => (c :: w) :: ws

/-- The words one after the other, each with a capital at its start. -/
def camelCase (s : Text) : Text := (words s).flatMap Text.capitalize

/-! ## File names -/

/-- A character that can follow the first in a file name. -/
def isFileNameChar (c : Char) : Bool :=
  Markup.isLetter c || ('0' ≤ c && c ≤ '9') || c = '_'

/-- A plain file name with the given extension. -/
def isFileName (extension name : Text) : Bool :=
  match name with
  | [] => false
  | c :: cs =>
    Markup.isLetter c && !(cs.takeWhile isFileNameChar).isEmpty &&
      cs.dropWhile isFileNameChar == '.' :: extension

/-- A file name without its extension. -/
def stem (extension name : Text) : Text :=
  (Text.beforeSuffix? ('.' :: extension) name).getD name

/-- The class for a file name. -/
def className (extension suffix name : Text) : Text :=
  camelCase (stem extension name) ++ suffix

end TestScribe.TestClass
