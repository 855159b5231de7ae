import TestScribe.Json.Basic
import TestScribe.Text.Capital

/-!
# Log levels

How much is logged is said by levels: one for all loggers, and others for loggers by name.
A level is a number, or a word for one; what is neither is answered by a fallback. The
loggers that are to be kept quiet come last and have the last word.
-/

namespace TestScribe.Log

/-- The words for levels. -/
def levelWords : List (Text × Int) :=
  [("NOTSET".toList, 0), ("DEBUG".toList, 10), ("INFO".toList, 20), ("WARN".toList, 30),
   ("WARNING".toList, 30), ("ERROR".toList, 40), ("CRITICAL".toList, 50),
   ("FATAL".toList, 50)]

/-- Why a word cannot be used as a level. -/
inductive Refusal
  /-- The word for the layout of log lines. -/
  | layoutWord
  /-- The word for the styles of log lines. -/
  | stylesWord
deriving Repr, DecidableEq

/-- The words that are taken for something that is no level. -/
def takenWords : List (Text × Refusal) :=
  [("BASIC_FORMAT".toList, .layoutWord), ("_STYLES".toList, .stylesWord)]

/-- The level for everything. -/
def generalFallback : Int := 20

/-- The level of a logger that is to be kept quiet. -/
def quietFallback : Int := 50

/-- The level that a value asks for. Numbers are taken as they are, and truth values with
them; a word may be written in any case. -/
def level (v : Json) (fallback : Int) : Except Refusal Json :=
  match v with
  | .str s =>
    match levelWords.lookup (Text.upper s), takenWords.lookup (Text.upper s) with
    | some n, _ => .ok (.int n)
    | none, some r => .error r
    | none, none => .ok (.int fallback)
  | .int n => .ok (.int n)
  | .bool b => .ok (.bool b)
  | _ => .ok (.int fallback)

/-- The names that mean the logger above all others. -/
def isRoot (name : Text) : Bool := name == [] || name == "root".toList

/-- The levels of the loggers: of the one above all others, and of those set by name. -/
structure Levels where
  root : Json
  named : Dictionary Text Json
deriving Repr

/-- Sets the level of a logger. -/
def Levels.set (l : Levels) (name : Text) (v : Json) : Levels :=
  if isRoot name then { l with root := v } else { l with named := l.named.set name v }

/-- The level of a logger; one that nobody has set has none. -/
def Levels.get (l : Levels) (name : Text) : Json :=
  if isRoot name then l.root else (l.named.get? name).getD (.int 0)

/-- Sets the levels of several loggers. -/
def setAll (fallback : Int) (specs : List (Text × Json)) (l : Levels) : Except Refusal Levels :=
  specs.foldlM (fun acc spec => (level spec.2 fallback).map (acc.set spec.1)) l

/-- The levels after everything has been said: the general level, those of modules, and
those of loggers to be kept quiet. -/
def configure (general : Json) (modules quiet : List (Text × Json)) : Except Refusal Levels := do
  let root ← level general generalFallback
  let l ← setAll generalFallback modules ⟨root, []⟩
  setAll quietFallback quiet l

end TestScribe.Log
