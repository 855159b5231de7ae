import TestScribe.Json.Basic
import TestScribe.Markup.Reference
import TestScribe.Number.Reading

/-!
# Reading JSON

A document is cut into tokens, and the tokens are taken one by one by a machine that
remembers what is still open: the arrays and objects around the place, and what may
stand there. Nothing but blanks may follow the value.

The grammar is the standard one, with the words `NaN`, `Infinity` and `-Infinity` as
further numbers. A repeated key keeps its first place and its last value. Whole numbers
beyond a length that nobody writes are refused.
-/

namespace TestScribe.Json

/-! ## Tokens -/

/-- A token: a value without parts, or a mark. -/
inductive Token
  | value (v : Json)
  | openArray
  | closeArray
  | openObject
  | closeObject
  | comma
  | colon
deriving Repr

/-- A character between tokens. -/
def isSpace (c : Char) : Bool := c = ' ' || c = '\t' || c = '\n' || c = '\r'

/-- The UTF-16 unit that four hexadecimal digits denote. -/
def unitOf? (a b c d : Char) : Option Nat :=
  if [a, b, c, d].all Markup.Reference.isHex then
    some (Markup.Reference.value 16 [a, b, c, d])
  else none

/-- The character that stands after a backslash. -/
def escaped? : Char → Option Char
  | '"' => some '"'
  | '\\' => some '\\'
  | '/' => some '/'
  | 'b' => some '\x08'
  | 'f' => some '\x0c'
  | 'n' => some '\n'
  | 'r' => some '\r'
  | 't' => some '\t'
  | _ => none

/-- The units of a string up to its closing quote, and what follows it. Control
characters may not stand in a string. -/
def stringUnits? : Text → Option (List Nat × Text)
  | [] => none
  | '"' :: rest => some ([], rest)
  | '\\' :: 'u' :: a :: b :: c :: d :: rest =>
    match unitOf? a b c d with
    | none => none
    | some u => (stringUnits? rest).map fun r => (u :: r.1, r.2)
  | '\\' :: c :: rest =>
    match escaped? c with
    | none => none
    | some e => (stringUnits? rest).map fun r => (e.toNat :: r.1, r.2)
  | c :: rest =>
    if c.toNat < 0x20 || c = '\\' then none
    else (stringUnits? rest).map fun r => (c.toNat :: r.1, r.2)

/-- A unit that begins a pair. -/
def isHighUnit (u : Nat) : Bool := 0xD800 ≤ u && u < 0xDC00

/-- A unit that ends a pair. -/
def isLowUnit (u : Nat) : Bool := 0xDC00 ≤ u && u < 0xE000

/-- The characters that units denote: pairs are joined, and a unit of a pair that
stands alone becomes U+FFFD. -/
def ofUnits : List Nat → Text
  | [] => []
  | [u] => [if isHighUnit u || isLowUnit u then '\uFFFD' else Char.ofNat u]
  | u :: v :: rest =>
    if isHighUnit u && isLowUnit v then
      Char.ofNat (0x10000 + (u - 0xD800) * 0x400 + (v - 0xDC00)) :: ofUnits rest
    else (if isHighUnit u || isLowUnit u then '\uFFFD' else Char.ofNat u) :: ofUnits (v :: rest)

/-- The string after an opening quote, and what follows it. -/
def string? (s : Text) : Option (Text × Text) :=
  (stringUnits? s).map fun r => (ofUnits r.1, r.2)

/-- The whole part of a number: a zero alone, or digits that do not begin with one. -/
def wholePart? (s : Text) : Option (Text × Text) :=
  match s with
  | '0' :: rest => some (['0'], rest)
  | _ =>
    let digits := s.takeWhile Markup.Reference.isDecimal
    if digits = [] then none else some (digits, s.dropWhile Markup.Reference.isDecimal)

/-- The digits after a point. Without a digit the point is not part of the number. -/
def fractionPart (s : Text) : Text × Text :=
  match s with
  | '.' :: r =>
    let digits := r.takeWhile Markup.Reference.isDecimal
    if digits = [] then ([], s) else (digits, r.dropWhile Markup.Reference.isDecimal)
  | _ => ([], s)

/-- The sign of a power of ten and what follows it. -/
def exponentSign : Text → Bool × Text
  | '-' :: r => (true, r)
  | '+' :: r => (false, r)
  | r => (false, r)

/-- The power of ten. Without a digit the letter is not part of the number. -/
def exponentPart (s : Text) : Option Int × Text :=
  match s with
  | e :: r =>
    if e = 'e' || e = 'E' then
      let (negative, t) := exponentSign r
      let digits := t.takeWhile Markup.Reference.isDecimal
      if digits = [] then (none, s)
      else
        let n : Int := Markup.Reference.value 10 digits
        (some (if negative then -n else n), t.dropWhile Markup.Reference.isDecimal)
    else (none, s)
  | [] => (none, s)

/-- The number whose sign has been read, and what follows it. -/
def number? (negative : Bool) (s : Text) : Option (Json × Text) :=
  match wholePart? s with
  | none => none
  | some (whole, r) =>
    let (fraction, r) := fractionPart r
    let (power, r) := exponentPart r
    if fraction = [] && power.isNone then
      if Number.mostDigits < whole.length then none
      else
        let n : Int := Markup.Reference.value 10 whole
        some (.int (if negative then -n else n), r)
    else
      let digits := Markup.Reference.value 10 (whole ++ fraction)
      some (.double (.ofDecimal negative digits (power.getD 0 - fraction.length)), r)

/-- The words that are values. -/
def words : List (Text × Json) :=
  [("null".toList, .null), ("true".toList, .bool true), ("false".toList, .bool false),
   ("NaN".toList, .double .notANumber), ("Infinity".toList, .double (.infinite false)),
   ("-Infinity".toList, .double (.infinite true))]

/-- The token at the start of a text that begins with no blank, and what follows it. -/
def token? (s : Text) : Option (Token × Text) :=
  match s with
  | [] => none
  | '[' :: r => some (.openArray, r)
  | ']' :: r => some (.closeArray, r)
  | '\x7b' :: r => some (.openObject, r)
  | '\x7d' :: r => some (.closeObject, r)
  | ',' :: r => some (.comma, r)
  | ':' :: r => some (.colon, r)
  | '"' :: r => (string? r).map fun t => (.value (.str t.1), t.2)
  | c :: r =>
    match words.findSome? fun w => (Text.afterPrefix? w.1 (c :: r)).map fun t => (w.2, t) with
    | some (v, t) => some (.value v, t)
    | none =>
      (if c = '-' then number? true r else number? false (c :: r)).map fun t => (.value t.1, t.2)

/-- The tokens of a text, with at most `fuel` of them; `none` where no token begins. -/
def tokensWith : Nat → Text → Option (List Token)
  | 0, _ => none
  | fuel + 1, s =>
    match s.dropWhile isSpace with
    | [] => some []
    | c :: cs =>
      match token? (c :: cs) with
      | none => none
      | some (t, rest) => (tokensWith fuel rest).map (t :: ·)

/-- The tokens of a text. Every token takes at least one character, so there are no
more tokens than characters. -/
def tokens? (s : Text) : Option (List Token) := tokensWith (s.length + 1) s

/-! ## Nesting -/

/-- An array or object around the place: its parts so far, the last one first; in an
object also the key whose value is awaited. -/
inductive Around
  | inArray (items : List Json)
  | inObject (entries : List (Text × Json)) (key : Text)
deriving Repr

/-- What may stand at the place. -/
inductive Awaited
  | value
  /-- A value, or the end of the array that just began. -/
  | valueOrEnd
  /-- A key of the object with these entries; it may also end if it just began. -/
  | key (entries : List (Text × Json)) (mayEnd : Bool)
  /-- The colon after this key. -/
  | colon (entries : List (Text × Json)) (key : Text)
  /-- A comma or the end of what is around, after this value. -/
  | after (v : Json)
deriving Repr

/-- The state of the machine. -/
structure Machine where
  around : List Around
  awaited : Awaited
deriving Repr

/-- Takes one token; `none` where it may not stand. -/
def Machine.take (m : Machine) (t : Token) : Option Machine :=
  match m.awaited, t with
  | .value, .value v | .valueOrEnd, .value v => some ⟨m.around, .after v⟩
  | .value, .openArray | .valueOrEnd, .openArray => some ⟨.inArray [] :: m.around, .valueOrEnd⟩
  | .value, .openObject | .valueOrEnd, .openObject => some ⟨m.around, .key [] true⟩
  | .valueOrEnd, .closeArray =>
    match m.around with
    | .inArray items :: outer => some ⟨outer, .after (.arr items.reverse)⟩
    | _ => none
  | .key entries _, .value (.str k) => some ⟨m.around, .colon entries k⟩
  | .key entries true, .closeObject =>
    some ⟨m.around, .after (.record (Dictionary.ofPairs entries.reverse))⟩
  | .colon entries k, .colon => some ⟨.inObject entries k :: m.around, .value⟩
  | .after v, .comma =>
    match m.around with
    | .inArray items :: outer => some ⟨.inArray (v :: items) :: outer, .value⟩
    | .inObject entries k :: outer => some ⟨outer, .key ((k, v) :: entries) false⟩
    | [] => none
  | .after v, .closeArray =>
    match m.around with
    | .inArray items :: outer => some ⟨outer, .after (.arr (v :: items).reverse)⟩
    | _ => none
  | .after v, .closeObject =>
    match m.around with
    | .inObject entries k :: outer =>
      some ⟨outer, .after (.record (Dictionary.ofPairs ((k, v) :: entries).reverse))⟩
    | _ => none
  | _, _ => none

/-- The machine after all tokens. -/
def Machine.run (m : Machine) (ts : List Token) : Option Machine := ts.foldlM Machine.take m

/-- Reads a document. -/
def read? (s : Text) : Option Json :=
  match (tokens? s).bind (Machine.run ⟨[], .value⟩) with
  | some ⟨[], .after v⟩ => some v
  | _ => none

end TestScribe.Json
