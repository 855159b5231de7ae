import TestScribe.Text.Basic

/-!
# Blank characters

The characters that count as white space wherever the library trims text or asks
whether a text is blank. The set is wider than ASCII: it has the Unicode spaces,
the line and paragraph separators and the four information separators
U+001C to U+001F.
-/

namespace TestScribe

/-- The ranges of blank code points, both ends included. -/
def blankRanges : List (Nat × Nat) :=
  [(0x09, 0x0D), (0x1C, 0x20), (0x85, 0x85), (0xA0, 0xA0), (0x1680, 0x1680),
   (0x2000, 0x200A), (0x2028, 0x2029), (0x202F, 0x202F), (0x205F, 0x205F), (0x3000, 0x3000)]

/-- A blank character. -/
def isBlank (c : Char) : Bool :=
  blankRanges.any fun r => r.1 ≤ c.toNat && c.toNat ≤ r.2

namespace Text

/-- The text without the blanks at its start. -/
def trimStart (s : Text) : Text := s.dropWhile isBlank

/-- The text without the blanks at its end. -/
def trimEnd (s : Text) : Text := (s.reverse.dropWhile isBlank).reverse

/-- The text without the blanks at either end. -/
def trim (s : Text) : Text := trimEnd (trimStart s)

/-- Nothing but blanks, or nothing at all. -/
def blank (s : Text) : Bool := s.all isBlank

end Text
end TestScribe
