import TestScribe.Json.Basic
import TestScribe.Number.Reading

/-!
# Command line arguments

A command declares its options, which take a value or are flags, and how many plain
arguments it needs. An option may be shortened to a beginning that no other option shares;
its value follows it, or stands behind an equals sign, or directly behind a one-letter
option. Two hyphens alone end the options.

Arguments are read from left to right, and a request for help ends the reading where it
stands. So help is given although something further on is wrong, but not if something
before is.
-/

namespace TestScribe.CommandLine

/-- What an option does. -/
inductive Effect
  /-- It takes a value, which is kept under a name. -/
  | takesValue (name : Text)
  /-- It keeps this value under a name. -/
  | sets (name : Text) (value : Json)
  /-- It asks for help. -/
  | help
deriving Repr

/-- A command's options, by every spelling, and the names of its plain arguments. -/
structure Usage where
  options : List (Text × Effect)
  plain : List Text
deriving Repr

/-- How reading the arguments ends. -/
inductive Outcome
  /-- The values that were given. -/
  | values (vs : Dictionary Text Json)
  /-- Help was asked for. -/
  | help
  /-- The arguments make no sense. -/
  | misuse
deriving Repr

/-! ## One argument -/

/-- What an argument is taken for. -/
inductive Kind
  /-- Something that is no option. -/
  | plain
  /-- Two hyphens alone. -/
  | separator
  /-- An option in one of its spellings, with the value attached to it. -/
  | option (spelling : Text) (effect : Effect) (attached : Option Text)
  /-- It looks like an option, but is none. -/
  | unknown
  /-- It is the beginning of several options. -/
  | ambiguous
deriving Repr

/-- A hyphen and a number; a line end may follow. -/
def isNegativeNumber : Text → Bool
  | '-' :: written =>
    let s := (Text.beforeSuffix? ['\n'] written).getD written
    let allDigits (t : Text) := t.all fun c => (Number.digit? c).isSome
    match Text.cutAt? '.' s with
    | none => !s.isEmpty && allDigits s
    | some (whole, fraction) => allDigits whole && !fraction.isEmpty && allDigits fraction
  | _ => false

/-- An argument cut at its first equals sign. -/
def cutAtEquals (s : Text) : Text × Option Text :=
  match Text.cutAt? '=' s with
  | none => (s, none)
  | some (before, after) => (before, some after)

/-- The options that a shortened spelling can mean, with the value attached to it. -/
def candidates (u : Usage) (s : Text) : List (Text × Effect × Option Text) :=
  match s with
  | '-' :: '-' :: _ =>
    let (beginning, attached) := cutAtEquals s
    (u.options.filter fun o => Text.beginsWith beginning o.1).map fun o => (o.1, o.2, attached)
  | _ =>
    u.options.filterMap fun o =>
      if o.1 = s.take 2 then some (o.1, o.2, some (s.drop 2))
      else if Text.beginsWith s o.1 then some (o.1, o.2, none)
      else none

/-- What an argument is taken for before the options have ended. -/
def kind (u : Usage) (s : Text) : Kind :=
  match s with
  | '-' :: _ :: _ =>
    if s = ['-', '-'] then .separator
    else
      match u.options.lookup s with
      | some e => .option s e none
      | none =>
        let (spelling, attached) := cutAtEquals s
        match attached.bind fun _ => u.options.lookup spelling with
        | some e => .option spelling e attached
        | none =>
          match candidates u s with
          | [(spelling, e, attached)] => .option spelling e attached
          | _ :: _ :: _ => .ambiguous
          | [] => if isNegativeNumber s || s.contains ' ' then .plain else .unknown
  | _ => .plain

/-- What all arguments are taken for: after two hyphens all are plain. -/
def kinds (u : Usage) : List Text → List (Text × Kind)
  | [] => []
  | s :: ss =>
    match kind u s with
    | .separator => (s, .separator) :: ss.map fun t => (t, .plain)
    | k => (s, k) :: kinds u ss

/-! ## Reading on -/

/-- A value as it is kept. Two hyphens alone are dropped even where they are a value, and
leave none. -/
def valueOf (s : Text) : Json := if s = ['-', '-'] then .arr [] else .str s

/-- What the next argument means to the reading. -/
inductive Expectation
  | nothing
  /-- It must be the value of an option, and the flags before the option wait for it. -/
  | value (before : List (Effect × Option Text)) (name : Text)
  /-- A plain argument has just found its use, and a separator may go with it. -/
  | separator
  /-- A separator has just been read, and a plain argument must find its use with it. -/
  | plain
deriving Repr

/-- The state of the reading: the values so far, the names of the plain arguments that are
still awaited, what comes next, and whether some argument found no use. -/
structure Reading where
  values : Dictionary Text Json
  awaited : List Text
  next : Expectation
  leftOver : Bool
deriving Repr

/-- What a run of one-letter options does: those before the last take nothing. -/
inductive Cluster
  /-- All options of the run are flags, or the last has its value attached. -/
  | complete (effects : List (Effect × Option Text))
  /-- The last option awaits a value, after these. -/
  | awaitsValue (before : List (Effect × Option Text)) (name : Text)
  | misuse
deriving Repr

/-- The effects of an option with what is attached to it. A one-letter flag passes what is
attached on: its first letter is the next option. -/
def cluster (u : Usage) (spelling : Text) (e : Effect) (attached : Option Text) : Nat → Cluster
  | 0 => .misuse
  | fuel + 1 =>
    match e, attached with
    | .takesValue name, none => .awaitsValue [] name
    | .takesValue _, some v => .complete [(e, some v)]
    | _, none => .complete [(e, none)]
    | _, some [] => .misuse
    | _, some (c :: rest) =>
      if spelling.take 2 = ['-', '-'] then .misuse
      else
        match u.options.lookup ['-', c] with
        | none => .misuse
        | some e' =>
          match cluster u ['-', c] e' (if rest = [] then none else some rest) fuel with
          | .complete more => .complete ((e, none) :: more)
          | .awaitsValue before name => .awaitsValue ((e, none) :: before) name
          | .misuse => .misuse

/-- Keeps a value under a name. -/
def Reading.keep (r : Reading) (name : Text) (v : Json) : Reading :=
  { r with values := r.values.set name v }

/-- Takes the effects of options in order, up to a request for help. -/
def Reading.apply (r : Reading) : List (Effect × Option Text) → Except Outcome Reading
  | [] => .ok r
  | (.help, _) :: _ => .error .help
  | (.sets name value, _) :: es => (r.keep name value).apply es
  | (.takesValue name, v) :: es => (r.keep name (valueOf (v.getD []))).apply es

/-- Reads one argument that is no option's value. -/
def Reading.argument (u : Usage) (r : Reading) (s : Text) : Kind → Except Outcome Reading
  | .ambiguous => .error .misuse
  | .unknown => .ok { r with next := .nothing, leftOver := true }
  | .plain =>
    match r.awaited with
    | [] => .ok { r with next := .nothing, leftOver := true }
    | name :: names => .ok { r.keep name (.str s) with awaited := names, next := .separator }
  | .separator =>
    match r.next with
    | .separator => .ok { r with next := .nothing }
    | _ => .ok { r with next := .plain }
  | .option spelling e attached =>
    match cluster u spelling e attached ((attached.map List.length).getD 0 + 1) with
    | .misuse => .error .misuse
    | .complete effects => { r with next := .nothing }.apply effects
    | .awaitsValue before name => .ok { r with next := .value before name }

/-- Reads one argument. -/
def Reading.take (u : Usage) (r : Reading) (k : Text × Kind) : Except Outcome Reading :=
  match r.next, k.2 with
  | .value before name, .plain =>
    (Reading.apply { r with next := .nothing } before).map (·.keep name (.str k.1))
  | .value _ _, _ => .error .misuse
  | _, kind => r.argument u k.1 kind

/-- The end of the reading: every plain argument must have been given, and every argument
must have found its use. -/
def Reading.finish (r : Reading) : Outcome :=
  match r.next with
  | .value _ _ | .plain => .misuse
  | _ => if r.leftOver || !r.awaited.isEmpty then .misuse else .values r.values

/-- An argument is ambiguous. -/
def isAmbiguous : Kind → Bool
  | .ambiguous => true
  | _ => false

/-- Reads the arguments of a command. An ambiguous one is noticed before anything else. -/
def read (u : Usage) (arguments : List Text) : Outcome :=
  let ks := kinds u arguments
  if ks.any fun k => isAmbiguous k.2 then .misuse
  else
    match ks.foldlM (Reading.take u) ⟨[], u.plain, .nothing, false⟩ with
    | .error o => o
    | .ok r => r.finish

end TestScribe.CommandLine
