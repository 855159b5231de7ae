import TestScribe.Json.Reader
import TestScribe.Settings.Cast
import TestScribe.Text.Utf8

/-!
# The settings store

Settings are one JSON document. A setting is named by the keys on the way to it, with
points between them. Reading never fails: what is not there is answered by a default.
Setting a value adds the objects that are missing on the way, key by key. Where a value of
another kind is in the way nothing is set, and a value that is beyond the kind that it has
to be breaks the call off.

A document that is no object at all can be loaded, but has neither sections nor settings
that could be set.
-/

namespace TestScribe.Settings

/-- The settings: a JSON document. -/
abbrev Store := Json

/-- The keys of a setting's name. -/
def keysOf (name : Text) : List Text := Text.splitAt '.' name

/-- The value that the keys lead to; nothing where a key is missing or leads through a
value that is no object. -/
def find? (store : Store) : List Text → Option Json
  | [] => some store
  | k :: ks =>
    match store with
    | .obj es => (Dictionary.get? es (.text k)).bind fun v => find? v ks
    | _ => none

/-- The value, or a default in the place of null. -/
def orDefault (v default : Json) : Json := if v.isNull then default else v

/-- The value of a setting. The default stands for a missing one and for null. -/
def get (store : Store) (name : Text) (default : Json) : Json :=
  orDefault ((find? store (keysOf name)).getD .null) default

/-- The entries of a section, none where it is missing or no object; nothing at all from a
store that is no object. -/
def section? (store : Store) (name : Text) : Option (Dictionary Json.Key Json) :=
  store.entries?.map fun es => ((Dictionary.get? es (.text name)).bind Json.entries?).getD []

/-- Why a call on the store breaks off. -/
inductive Breakdown
  /-- The store itself is no object. -/
  | noObject
  /-- The value is beyond all values of the kind that it replaces. -/
  | beyond
deriving Repr, DecidableEq

/-- Walks along the keys and sets the value at the last one. An object that is missing is
added when its key comes; a value of another kind ends the walk. Answers with whether the
value was set, and with the entries as the walk leaves them. -/
def update (value : Json) :
    List Text → Dictionary Json.Key Json → Except Breakdown Bool × Dictionary Json.Key Json
  | [], es => (.ok true, es)
  | [k], es =>
    let old := (es.get? (.text k)).getD .null
    if isBeyond old value then (.error .beyond, es)
    else (.ok true, es.set (.text k) (cast old value))
  | k :: key :: ks, es =>
    let es := es.setDefault (.text k) (.obj [])
    match es.get? (.text k) with
    | some (.obj sub) =>
      let walked := update value (key :: ks) sub
      (walked.1, es.set (.text k) (.obj walked.2))
    | _ => (.ok false, es)

/-- Sets a value, says whether that was done, and leaves the store behind. -/
def set (store : Store) (name : Text) (value : Json) : Except Breakdown Bool × Store :=
  match store with
  | .obj es =>
    let walked := update value (keysOf name) es
    (walked.1, .obj walked.2)
  | _ => (.error .noObject, store)

/-- The store in a file. Bytes that are no document make an empty store. -/
def ofBytes (bytes : List UInt8) : Store :=
  match Utf8.decode bytes with
  | .ok s => (Json.read? s).getD (.obj [])
  | .error _ => .obj []

end TestScribe.Settings
