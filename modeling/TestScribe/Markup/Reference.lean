import TestScribe.Markup.CharacterName
import TestScribe.Number.Reading

/-!
# Character references

A markup document can name a character instead of holding it: `&#233;` by number,
`&eacute;` by name. Two rules say what a reference stands for, one for references
in running text and one for those in attribute values; they differ in the numbers
that name no usable character and in the names that may lack a semicolon.

A decimal number may have only so many digits; a text with a longer one cannot be read.

`asciiForm` goes the other way: it writes every character beyond ASCII as a
decimal reference, so that the markup itself is plain ASCII.
-/

namespace TestScribe.Markup.Reference

/-! ## Digits -/

/-- A decimal digit. -/
def isDecimal (c : Char) : Bool := '0' ≤ c && c ≤ '9'

/-- A hexadecimal digit. -/
def isHex (c : Char) : Bool := isDecimal c || ('a' ≤ c && c ≤ 'f') || ('A' ≤ c && c ≤ 'F')

/-- The value of a hexadecimal digit. -/
def digitValue (c : Char) : Nat :=
  if isDecimal c then c.toNat - 48
  else if 'a' ≤ c && c ≤ 'f' then c.toNat - 87
  else c.toNat - 55

/-- The number that digits to a base denote. -/
def value (base : Nat) (digits : Text) : Nat :=
  digits.foldl (fun n c => n * base + digitValue c) 0

/-- What follows an ampersand is a decimal reference with more digits than a number may
have. -/
def isLongNumber : Text → Bool
  | '#' :: r => Number.mostDigits < (r.takeWhile isDecimal).length
  | _ => false

/-! ## Numbers that are not their own character -/

/-- The characters of the Windows-1252 page for the numbers 0x80 to 0x9F. The five
numbers that the page leaves open stand for themselves. -/
def windowsPage : List Nat :=
  [0x20AC, 0x81, 0x201A, 0x0192, 0x201E, 0x2026, 0x2020, 0x2021,
   0x02C6, 0x2030, 0x0160, 0x2039, 0x0152, 0x8D, 0x017D, 0x8F,
   0x90, 0x2018, 0x2019, 0x201C, 0x201D, 0x2022, 0x2013, 0x2014,
   0x02DC, 0x2122, 0x0161, 0x203A, 0x0153, 0x9D, 0x017E, 0x0178]

/-- The number is the code point of a character. -/
def isScalar (n : Nat) : Bool := n < 0xD800 || (0xDFFF < n && n < 0x110000)

/-- The character that a number in running text stands for. Zero and the numbers
that are no code point become U+FFFD. -/
def ofNumber (n : Nat) : Char :=
  if n = 0 || !isScalar n then '\uFFFD'
  else if 0x80 ≤ n && n < 0xA0 then Char.ofNat (windowsPage.getD (n - 0x80) n)
  else Char.ofNat n

/-- The numbers that an attribute value drops: control characters and the code
points set aside as noncharacters. -/
def isDropped (n : Nat) : Bool :=
  (1 ≤ n && n ≤ 8) || n = 0xB || (0xE ≤ n && n ≤ 0x1F) || (0x7F ≤ n && n ≤ 0x9F) ||
    (0xFDD0 ≤ n && n ≤ 0xFDEF) || n % 0x10000 = 0xFFFE || n % 0x10000 = 0xFFFF

/-- The text that a number in an attribute value stands for. -/
def ofAttributeNumber (n : Nat) : Text :=
  if n = 0 || !isScalar n then ['\uFFFD']
  else if 0x80 ≤ n && n < 0xA0 then [Char.ofNat (windowsPage.getD (n - 0x80) n)]
  else if isDropped n then []
  else [Char.ofNat n]

/-! ## References in running text -/

/-- The text of a name in running text. A name that nobody knows is kept with its
ampersand. -/
def ofName (name : Text) : Text := (CharacterName.lookup name).getD ('&' :: name)

/-! ## References in attribute values -/

/-- A character that can belong to a name in an attribute value. -/
def isAttributeNameChar (c : Char) : Bool := !"\t\n\x0c <&#;".toList.contains c

/-- The longest number of characters a name in an attribute value has. -/
def longestName : Nat := 32

/-- Without a semicolon a name may be longer than what is meant: the longest known
beginning of at least two characters is taken, and the rest is kept as text. -/
def longestLegacy : Nat → Text → Option Text
  | 0, _ | 1, _ => none
  | n + 2, name =>
    match CharacterName.lookupLegacy (name.take (n + 2)) with
    | some t => some (t ++ name.drop (n + 2))
    | none => longestLegacy (n + 1) name

/-- The text of a name in an attribute value: as a whole where it is known, else by
its longest known beginning, else unchanged. -/
def ofAttributeName (name : Text) (closed : Bool) : Text :=
  let written := if closed then name ++ [';'] else name
  match if closed then CharacterName.lookup name else CharacterName.lookupLegacy name with
  | some t => t
  | none =>
    match longestLegacy (written.length - 1) written with
    | some t => t
    | none => '&' :: written

/-- The text without a leading semicolon. -/
def dropSemicolon : Text → Text
  | ';' :: r => r
  | r => r

/-- The reference that follows an ampersand in an attribute value: the text it
stands for and what comes after it. `none` when no reference follows. -/
def attributeReference? (s : Text) : Option (Text × Text) :=
  match s with
  | '#' :: r =>
    match r with
    | x :: h =>
      if isDecimal x then
        some (ofAttributeNumber (value 10 (r.takeWhile isDecimal)),
          dropSemicolon (r.dropWhile isDecimal))
      else if (x = 'x' || x = 'X') && (h.head?.map isHex).getD false then
        some (ofAttributeNumber (value 16 (h.takeWhile isHex)),
          dropSemicolon (h.dropWhile isHex))
      else none
    | [] => none
  | c :: _ =>
    if isAttributeNameChar c then
      let name := (s.take longestName).takeWhile isAttributeNameChar
      let rest := s.drop name.length
      some (ofAttributeName name (rest.head? = some ';'), dropSemicolon rest)
    else none
  | [] => none

theorem dropSemicolon_length_le (s : Text) : (dropSemicolon s).length ≤ s.length := by
  unfold dropSemicolon
  split <;> simp

theorem attributeReference?_length_le {s t r : Text} (h : attributeReference? s = some (t, r)) :
    r.length ≤ s.length := by
  unfold attributeReference? at h
  split at h
  · split at h
    · rename_i x u
      split at h
      · cases h
        have := dropSemicolon_length_le ((x :: u).dropWhile isDecimal)
        have := Text.length_dropWhile_le isDecimal (x :: u)
        simp only [List.length_cons] at *; omega
      · split at h
        · cases h
          have := dropSemicolon_length_le (u.dropWhile isHex)
          have := Text.length_dropWhile_le isHex u
          simp only [List.length_cons] at *; omega
        · cases h
    · cases h
  · rename_i c u _
    split at h
    · cases h
      have := dropSemicolon_length_le
        ((c :: u).drop (((c :: u).take longestName).takeWhile isAttributeNameChar).length)
      simp only [List.length_drop] at *; omega
    · cases h
  · cases h

/-- An attribute value with its references replaced by what they stand for; `none` where
a number is too long. -/
def resolve? (s : Text) : Option Text :=
  match s with
  | [] => some []
  | c :: cs =>
    if c = '&' then
      if isLongNumber cs then none
      else
        match _h : attributeReference? cs with
        | some (t, rest) => (resolve? rest).map (t ++ ·)
        | none => (resolve? cs).map ('&' :: ·)
    else (resolve? cs).map (c :: ·)
termination_by s.length
decreasing_by
  · have := attributeReference?_length_le (by assumption)
    simp only [List.length_cons]; omega
  all_goals simp

/-! ## The ASCII form -/

/-- A character as a decimal reference. -/
def decimal (c : Char) : Text := '&' :: '#' :: Text.ofNat c.toNat ++ [';']

/-- A character of the ASCII form: ASCII as it stands, byte order marks dropped, all
else as a decimal reference. -/
def asciiChar (c : Char) : Text :=
  if c = '\uFEFF' then [] else if c.toNat < 0x80 then [c] else decimal c

/-- The markup with every character beyond ASCII written as a reference. -/
def asciiForm (s : Text) : Text := s.flatMap asciiChar

end TestScribe.Markup.Reference
