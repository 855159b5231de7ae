import TestScribe.Text.Basic

/-!
# The text of a test class

A template is a text with two placeholders, one for the name of the class and one for
its statements. The statements stand on lines of their own, each behind the indent.
-/

namespace TestScribe

/-- A class with places for its name and its statements, and the indent of the
statements. -/
structure ClassTemplate where
  text : Text
  indent : Text

namespace ClassTemplate

/-- The place for the class name. -/
def namePlace : Text := "\x7b\x7boutputClassName\x7d\x7d".toList

/-- The place for the statements. -/
def codePlace : Text := "\x7b\x7btestCode\x7d\x7d".toList

/-- What stands before the class name. -/
def head : Text := "<?php\n\nclass ".toList

/-- What stands between the class name and the statements. -/
def middle : Text :=
  ("\n\x7b\n    // TODO Please rename the following function name.\n" ++
    "    public function xxxTest(\\AcceptanceTester $I)\n    \x7b\n").toList

/-- What stands after the statements. -/
def tail : Text := "\n    \x7d\n\x7d".toList

/-- The class of an acceptance test. -/
def acceptanceTest : ClassTemplate where
  text := head ++ namePlace ++ middle ++ codePlace ++ tail
  indent := List.replicate 8 ' '

/-- The statements on lines of their own. -/
def body (t : ClassTemplate) (statements : List Text) : Text :=
  Text.joinWith ['\n'] (statements.map (t.indent ++ ·))

/-- The class: first the name takes its place, then the statements take theirs. -/
def render (t : ClassTemplate) (name : Text) (statements : List Text) : Text :=
  Text.replace codePlace (t.body statements) (Text.replace namePlace name t.text)

end ClassTemplate
end TestScribe
