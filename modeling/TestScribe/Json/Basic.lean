import TestScribe.Dictionary
import TestScribe.Number.Binary64

/-!
# JSON values

The values of a settings document and of printed records. Whole numbers and doubles are
different values, as the document writes them; the entries of an object keep their
order.

The keys of a document are texts. An object that is made of a list of pairs has what the
pairs have as keys; no such key is the same as a text, and numbers that are equal are the
same key.
-/

namespace TestScribe

namespace Json

/-- A key of an object: a text, or another plain value. -/
inductive Key
  | text (s : Text)
  | null
  | bool (b : Bool)
  | int (n : Int)
  | double (x : Binary64)
deriving Repr

/-- What a key counts as. -/
inductive Key.Identity
  | text (s : Text)
  | null
  | whole (n : Int)
  /-- A double that is no whole number. -/
  | double (x : Binary64)
deriving Repr, DecidableEq

/-- What a key counts as: no and yes are zero and one, and a double is the whole number
that it equals. -/
def Key.identity : Key → Key.Identity
  | .text s => .text s
  | .null => .null
  | .bool b => .whole (if b then 1 else 0)
  | .int n => .whole n
  | .double x => (x.whole?.map .whole).getD (.double x)

/-- Keys that count as the same are the same key. -/
instance : BEq Key := ⟨fun k l => k.identity == l.identity⟩

instance : EquivBEq Key where
  rfl := BEq.rfl (α := Key.Identity)
  symm := BEq.symm (α := Key.Identity)
  trans := BEq.trans (α := Key.Identity)

end Json

/-- A JSON value. -/
inductive Json
  | null
  | bool (b : Bool)
  | int (n : Int)
  | double (x : Binary64)
  | str (s : Text)
  | arr (items : List Json)
  | obj (entries : List (Json.Key × Json))
deriving Repr

namespace Json

/-- The value that a key is. -/
def Key.toJson : Key → Json
  | .text s => .str s
  | .null => .null
  | .bool b => .bool b
  | .int n => .int n
  | .double x => .double x

/-- A value as a key; lists and objects are none. -/
def toKey? : Json → Option Key
  | .str s => some (.text s)
  | .null => some .null
  | .bool b => some (.bool b)
  | .int n => some (.int n)
  | .double x => some (.double x)
  | .arr _ => none
  | .obj _ => none

/-- The object with these values under these names. -/
def record (fields : Dictionary Text Json) : Json := .obj (fields.map fun e => (.text e.1, e.2))

/-- The entries of an object. -/
def entries? : Json → Option (Dictionary Key Json)
  | .obj es => some es
  | _ => none

/-- The entries under texts. -/
def fields (es : Dictionary Key Json) : Dictionary Text Json :=
  es.filterMap fun e =>
    match e.1 with
    | .text s => some (s, e.2)
    | _ => none

/-- The value is null. -/
def isNull : Json → Bool
  | .null => true
  | _ => false

/-- A value counts as true unless it is null, false, zero or empty. -/
def truthy : Json → Bool
  | .null => false
  | .bool b => b
  | .int n => n != 0
  | .double x => !x.isZero
  | .str s => !s.isEmpty
  | .arr items => !items.isEmpty
  | .obj es => !es.isEmpty

end Json
end TestScribe
