import TestScribe.Text.Utf8
import TestScribe.Table.Lines
import TestScribe.Table.Header

/-!
# Reading a table

A table file becomes a list of rows, or, with a header, of records that pair the names
of the columns with the cells of a row. Short rows are filled up with empty cells; a row
that is longer than the table is wide is an error. The width is that of the first row,
where there is a header that of the wider of the first two. A header narrower than the
row below it names the last columns, and the columns before them are left out.
-/

namespace TestScribe.Table

/-- Why a table file cannot be read. -/
inductive Defect
  /-- The bytes are no text. -/
  | encoding (e : Utf8.DecodeError)
  /-- A quote is opened in the line with this number and never closed. -/
  | openQuote (line : Nat)
  /-- A row has more cells than the table is wide. -/
  | tooWide (width : Nat) (line : Nat) (cells : Nat)
deriving Repr, DecidableEq

/-- How a table is read. -/
structure ReadOptions where
  skipEmptyRows : Bool
  useHeader : Bool
deriving Repr, DecidableEq

/-- The contents of a table. -/
inductive Contents
  | rows (rs : List (List Text))
  | records (rs : List (List (Text × Text)))
deriving Repr, DecidableEq

/-! ## Text -/

/-- The bytes without a byte order mark before them; a mark that the file cuts off counts
as one. -/
def withoutMark (bytes : List UInt8) : List UInt8 :=
  if bytes.take 3 = Utf8.byteOrderMark then bytes.drop 3
  else if bytes = Utf8.byteOrderMark.take bytes.length then []
  else bytes

/-- The last two bytes of a file are the first two of a surrogate. -/
def isSurrogateStart (bytes : List UInt8) : Bool :=
  match bytes with
  | [a, b] => a = 0xED && 0xA0 ≤ b && b ≤ 0xBF
  | _ => false

/-- The fault is that the file ends inside of what would be one code point. -/
def isCutOff (bytes : List UInt8) (e : Utf8.DecodeError) : Bool :=
  e.fault = .truncated || isSurrogateStart (bytes.drop e.offset)

/-- The text of a file. What the end of the file cuts off is reported on its own, at
offset zero. -/
def text (bytes : List UInt8) : Except Utf8.DecodeError Text :=
  match Utf8.decode (withoutMark bytes) with
  | .ok ('\uFEFF' :: s) => .ok s
  | .ok s => .ok s
  | .error e =>
    .error { e with offset := if isCutOff (withoutMark bytes) e then 0 else e.offset }

/-! ## Widths -/

/-- A row with empty cells at its end up to the width. -/
def padded (width : Nat) (cells : List Text) : List Text :=
  cells ++ List.replicate (width - cells.length) []

/-- The rows at full width; the first that is too wide is an error. -/
def fit (width : Nat) : List Line → Except Defect (List (List Text))
  | [] => .ok []
  | l :: ls =>
    if width < l.fields.length then .error (.tooWide width (l.number + 1) l.fields.length)
    else (fit width ls).map (padded width l.fields :: ·)

/-- The rows at full width, when also the file ends properly. -/
def fitAll (width : Nat) (ls : List Line) (unclosed : Option Nat) :
    Except Defect (List (List Text)) :=
  match fit width ls, unclosed with
  | .ok _, some line => .error (.openQuote line)
  | r, _ => r

/-- A table without rows, unless a quote stays open in it. -/
def emptyUnless (unclosed : Option Nat) (none : Contents) : Except Defect Contents :=
  match unclosed with
  | some line => .error (.openQuote line)
  | .none => .ok none

/-! ## Rows and records -/

/-- The rows of a table without a header. A first row without cells leaves the table
without columns, and then it has no rows. -/
def readRows (ls : List Line) (unclosed : Option Nat) : Except Defect Contents :=
  match ls with
  | [] => emptyUnless unclosed (.rows [])
  | first :: _ =>
    if first.fields = [] then .ok (.rows [])
    else (fitAll first.fields.length ls unclosed).map .rows

/-- The records of a table from its header and the rows below it. A header without cells
over a row without cells leaves the table without columns; over a row with cells it names
none of them, and every record is empty. -/
def readRecords (ls : List Line) (unclosed : Option Nat) : Except Defect Contents :=
  match ls with
  | [] => emptyUnless unclosed (.records [])
  | [_] => emptyUnless unclosed (.records [])
  | header :: second :: below =>
    if header.fields = [] && second.fields = [] then .ok (.records [])
    else
      let names := columnNames header.fields
      let width := max header.fields.length second.fields.length
      (fitAll width (second :: below) unclosed).map fun rows =>
        .records (rows.map fun row => names.zip (row.drop (width - header.fields.length)))

/-- Reads the text of a table. -/
def readText (o : ReadOptions) (s : Text) : Except Defect Contents :=
  let (ls, unclosed) := lines o.skipEmptyRows s
  if o.useHeader then readRecords ls unclosed else readRows ls unclosed

/-- Reads the bytes of a table file. -/
def read (o : ReadOptions) (bytes : List UInt8) : Except Defect Contents :=
  match text bytes with
  | .error e => .error (.encoding e)
  | .ok s => readText o s

/-! ## Messages -/

/-- A byte in two hexadecimal digits. -/
def hexByte (b : UInt8) : Text :=
  let digit (n : Nat) : Char := "0123456789abcdef".toList.getD n '0'
  ['0', 'x', digit (b.toNat / 16), digit (b.toNat % 16)]

/-- What is wrong with a run of bytes. -/
def faultText : Utf8.Fault → String
  | .badStart => "invalid start byte"
  | .badContinuation => "invalid continuation byte"
  | .truncated => "unexpected end of data"

/-- Which bytes cannot be decoded: a single one is shown. -/
def undecodable (e : Utf8.DecodeError) : Text :=
  match e.run with
  | [b] => "byte ".toList ++ hexByte b ++ " in position ".toList ++ Text.ofNat e.offset
  | run =>
    "bytes in position ".toList ++ Text.ofNat e.offset ++ '-' ::
      Text.ofNat (e.offset + run.length - 1)

/-- The message of a defect. -/
def Defect.message : Defect → Text
  | .encoding e =>
    "'utf-8' codec can't decode ".toList ++ undecodable e ++ ": ".toList ++
      (faultText e.fault).toList
  | .openQuote line =>
    "Error tokenizing data. C error: EOF inside string starting at row ".toList ++
      Text.ofNat line
  | .tooWide width line cells =>
    "Error tokenizing data. C error: Expected ".toList ++ Text.ofNat width ++
      " fields in line ".toList ++ Text.ofNat line ++ ", saw ".toList ++ Text.ofNat cells ++
      ['\n']

end TestScribe.Table
