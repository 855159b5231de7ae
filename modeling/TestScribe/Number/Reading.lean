import TestScribe.Text.Blank
import TestScribe.Number.Binary64

/-!
# Reading numbers

A number in a setting may have blanks around it, a sign, and single underscores between
its digits; the digits may be those of any script. `int?` reads whole numbers and
`double?` decimals, also with a power of ten, and the words for infinity and for no
number.
-/

namespace TestScribe.Number

/-! ## Digits of any script -/

/-- The code points of the digit zero; the digits of a script follow its zero. -/
def zeros : List Nat :=
  [0x30, 0x660, 0x6F0, 0x7C0, 0x966, 0x9E6, 0xA66, 0xAE6, 0xB66, 0xBE6, 0xC66, 0xCE6, 0xD66,
   0xDE6, 0xE50, 0xED0, 0xF20, 0x1040, 0x1090, 0x17E0, 0x1810, 0x1946, 0x19D0, 0x1A80, 0x1A90,
   0x1B50, 0x1BB0, 0x1C40, 0x1C50, 0xA620, 0xA8D0, 0xA900, 0xA9D0, 0xA9F0, 0xAA50, 0xABF0, 0xFF10,
   0x104A0, 0x10D30, 0x11066, 0x110F0, 0x11136, 0x111D0, 0x112F0, 0x11450, 0x114D0, 0x11650,
   0x116C0, 0x11730, 0x118E0, 0x11950, 0x11C50, 0x11D50, 0x11DA0, 0x16A60, 0x16AC0, 0x16B50,
   0x1D7CE, 0x1D7D8, 0x1D7E2, 0x1D7EC, 0x1D7F6, 0x1E140, 0x1E2F0, 0x1E950, 0x1FBF0]

/-- The value of a decimal digit. -/
def digit? (c : Char) : Option Nat :=
  zeros.findSome? fun z => if z ≤ c.toNat && c.toNat < z + 10 then some (c.toNat - z) else none

/-- A blank around a number. The information separators are none. -/
def isNumberBlank (c : Char) : Bool := isBlank c && !(0x1C ≤ c.toNat && c.toNat ≤ 0x1F)

/-- The text without the blanks around it. -/
def trimmed (s : Text) : Text :=
  ((s.dropWhile isNumberBlank).reverse.dropWhile isNumberBlank).reverse

/-- The sign before a number and what follows it. -/
def signed : Text → Bool × Text
  | '-' :: r => (true, r)
  | '+' :: r => (false, r)
  | r => (false, r)

/-- The digits of a text that holds nothing else but single underscores between them. -/
def digits? : Text → Option (List Nat)
  | [] => none
  | [c] => (digit? c).map ([·])
  | c :: '_' :: r =>
    match digit? c, digits? r with
    | some d, some ds => some (d :: ds)
    | _, _ => none
  | c :: r =>
    match digit? c, digits? r with
    | some d, some ds => some (d :: ds)
    | _, _ => none

/-- The number that decimal digits denote. -/
def ofDigits (ds : List Nat) : Nat := ds.foldl (fun n d => n * 10 + d) 0

/-- The most digits that a whole number may have. -/
def mostDigits : Nat := 4300

/-- The whole number that a text denotes. -/
def int? (s : Text) : Option Int :=
  let (negative, r) := signed (trimmed s)
  match digits? r with
  | none => none
  | some ds =>
    if mostDigits < ds.length then none
    else
      let n : Int := ofDigits ds
      some (if negative then -n else n)

/-! ## Decimals -/

/-- The digits of a part of a decimal that may be missing. -/
def optionalDigits? (s : Text) : Option (List Nat) := if s = [] then some [] else digits? s

/-- The mantissa of a decimal: its digits, and how many stand after the point. -/
def mantissa? (s : Text) : Option (List Nat × Nat) :=
  match Text.cutAt? '.' s with
  | none => (digits? s).map fun ds => (ds, 0)
  | some (whole, fraction) =>
    match optionalDigits? whole, optionalDigits? fraction with
    | some a, some b => if a = [] && b = [] then none else some (a ++ b, b.length)
    | _, _ => none

/-- The power of ten of a decimal. -/
def power? (s : Text) : Option Int :=
  let (negative, r) := signed s
  (digits? r).map fun ds =>
    let n : Int := ofDigits ds
    if negative then -n else n

/-- The letter that stands before the power of ten becomes a small one. -/
def cutAtPower (s : Text) : Option (Text × Text) := Text.cutAt? 'e' (Text.lower s)

/-- The double that a text denotes. -/
def double? (s : Text) : Option Binary64 :=
  let (negative, r) := signed (trimmed s)
  let word := Text.lower r
  if word = "inf".toList || word = "infinity".toList then some (.infinite negative)
  else if word = "nan".toList then some .notANumber
  else
    match cutAtPower r with
    | none =>
      (mantissa? r).map fun m => .ofDecimal negative (ofDigits m.1) (-(m.2 : Int))
    | some (front, back) =>
      match mantissa? front, power? back with
      | some m, some p => some (.ofDecimal negative (ofDigits m.1) (p - m.2))
      | _, _ => none

end TestScribe.Number
