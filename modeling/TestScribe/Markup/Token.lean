import TestScribe.Dictionary

/-!
# Tokens

What a markup document is made of when it is read from left to right: runs of
text, tags, and the special constructs that are neither. References have already
been replaced by their characters.
-/

namespace TestScribe.Markup

/-- The constructs that hold characters but no text of the document. -/
inductive Special
  | comment
  | cdata
  | declaration
  | doctype
  | instruction
deriving Repr, DecidableEq

/-- The attributes of a tag: each name with its value, in order. Of a repeated name the
first place and the last value count. -/
abbrev Attributes := Dictionary Text Text

/-- A token of a markup document. -/
inductive Token
  /-- Text between the other tokens, or a part of it. -/
  | text (s : Text)
  /-- `<name …>` -/
  | opening (name : Text) (attributes : Attributes)
  /-- `<name …/>` -/
  | emptyTag (name : Text) (attributes : Attributes)
  /-- `</name>` -/
  | closing (name : Text)
  | special (kind : Special) (s : Text)
deriving Repr, DecidableEq

/-- The markup cannot be read at all. -/
inductive Rejection
  /-- A section `<![…` without a name, or with one that nobody knows. -/
  | unknownSection
  /-- A decimal reference with more digits than a number may have. -/
  | longNumber
deriving Repr, DecidableEq

end TestScribe.Markup
