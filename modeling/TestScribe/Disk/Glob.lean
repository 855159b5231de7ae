import TestScribe.Disk.Basic

/-!
# Patterns for file names

A pattern is a path whose names may hold wildcards: a star for any characters, a question
mark for one, brackets for one of a set. A name of two stars stands for a directory and
everything below it. `glob` finds the paths below a directory that a pattern describes.
-/

namespace TestScribe.Glob

/-! ## Patterns for one name -/

/-- A part of a pattern for a name. -/
inductive Glyph
  | char (c : Char)
  /-- Any one character. -/
  | one
  /-- Any characters, also none. -/
  | many
  /-- One character in one of the ranges, or in none of them. -/
  | oneOf (negated : Bool) (ranges : List (Char × Char))
  /-- No character at all. -/
  | never
deriving Repr, DecidableEq

/-- The text of a set cut at the hyphens that make ranges: a hyphen makes a range with
its two neighbours, and so stands neither first nor last nor next to another range. The
first `skip` characters hold none. -/
def rangeCuts (skip : Nat) (s : Text) : Nat → List Text
  | 0 => [s]
  | fuel + 1 =>
    match Text.cutAt? '-' (s.drop skip) with
    | none => [s]
    | some (a, []) => [s.take skip ++ a ++ ['-']]
    | some (a, rest) => (s.take skip ++ a) :: rangeCuts 2 rest fuel

/-- Ranges that run backwards hold nothing: their two ends are dropped and what stands on
both sides is joined. -/
def dropEmptyRanges : List Text → List Text
  | [] => []
  | a :: as =>
    match dropEmptyRanges as with
    | [] => [a]
    | b :: bs =>
      if (b.headD '\x00') < (a.getLastD '\x00') then (a.dropLast ++ b.tail) :: bs
      else a :: b :: bs

/-- The characters and ranges of a cut set. -/
def rangesOf : List Text → List (Char × Char)
  | [] => []
  | [a] => a.map fun c => (c, c)
  | a :: b :: rest =>
    a.dropLast.map (fun c => (c, c)) ++
      (a.getLastD '\x00', b.headD '\x00') :: rangesOf (b.tail :: rest)
termination_by cuts => cuts.length

/-- The set that stands between brackets. An exclamation mark before it takes all other
characters. -/
def setOf (s : Text) : Glyph :=
  let skip := if s.head? = some '!' then 2 else 1
  match dropEmptyRanges (rangeCuts skip s s.length) with
  | [[]] => .never
  | [['!']] => .one
  | ('!' :: a) :: rest => .oneOf true (rangesOf (a :: rest))
  | cuts => .oneOf false (rangesOf cuts)

/-- The text of the set whose opening bracket has been read, and what follows the closing
one. A closing bracket that comes first, or first after an exclamation mark, is part of
the set. -/
def bracketed? (s : Text) : Option (Text × Text) :=
  let lead := match s with
    | '!' :: ']' :: _ => 2
    | '!' :: _ => 1
    | ']' :: _ => 1
    | _ => 0
  (Text.cutAt? ']' (s.drop lead)).map fun r => (s.take lead ++ r.1, r.2)

theorem bracketed?_length_le {s a r : Text} (h : bracketed? s = some (a, r)) :
    r.length ≤ s.length := by
  simp only [bracketed?, Option.map_eq_some_iff] at h
  obtain ⟨⟨b, t⟩, hc, he⟩ := h
  simp only [Prod.mk.injEq] at he
  obtain ⟨_, rfl⟩ := he
  have := Text.cutAt?_length_lt hc
  simp only [List.length_drop] at this
  omega

/-- Reads a pattern for a name. A bracket that is never closed stands for itself. -/
def glyphs (s : Text) : List Glyph :=
  match s with
  | [] => []
  | c :: cs =>
    if c = '*' then .many :: glyphs cs
    else if c = '?' then .one :: glyphs cs
    else if c = '[' then
      match _h : bracketed? cs with
      | some (set, rest) => setOf set :: glyphs rest
      | none => .char '[' :: glyphs cs
    else .char c :: glyphs cs
termination_by s.length
decreasing_by
  · simp
  · simp
  · have := bracketed?_length_le (by assumption)
    simp only [List.length_cons]; omega
  · simp
  · simp

/-- A part of a pattern takes a character. -/
def Glyph.accepts : Glyph → Char → Bool
  | .char d, c => c == d
  | .one, _ => true
  | .oneOf negated ranges, c => (ranges.any fun r => r.1 ≤ c && c ≤ r.2) != negated
  | .many, _ => false
  | .never, _ => false

/-- Some rest of the text, the whole included, has the property. -/
def anyRest (p : Text → Bool) : Text → Bool
  | [] => p []
  | c :: cs => p (c :: cs) || anyRest p cs

/-- The name fits the pattern. -/
def «matches» : List Glyph → Text → Bool
  | [], s => s.isEmpty
  | .many :: gs, s => anyRest («matches» gs) s
  | _ :: _, [] => false
  | g :: gs, c :: cs => g.accepts c && «matches» gs cs

/-! ## Patterns for paths -/

/-- A part of a pattern for a path. -/
inductive Segment
  /-- This very name. -/
  | exact (name : Text)
  /-- The names that fit. -/
  | wild (gs : List Glyph)
  /-- The directory itself and every directory below it. -/
  | everything
deriving Repr, DecidableEq

/-- A pattern for a path, and whether it is closed by a slash and so asks for directories. -/
structure Pattern where
  segments : List Segment
  onlyDirectories : Bool
deriving Repr, DecidableEq

/-- Why a text is no pattern. -/
inductive PatternError
  /-- It is empty, or stars stand side by side within a name. -/
  | malformed
  /-- It begins at the root. -/
  | absolute
  /-- It is a point. -/
  | noSegment
  /-- It is a point with a slash after it. -/
  | noSegmentBeforeSlash
deriving Repr, DecidableEq

/-- Two stars side by side. -/
def holdsDoubleStar : Text → Bool
  | '*' :: '*' :: _ => true
  | _ :: cs => holdsDoubleStar cs
  | [] => false

/-- The name holds a wildcard. -/
def isWild (name : Text) : Bool := name.any fun c => c = '*' || c = '?' || c = '['

/-- Reads a name of a pattern. -/
def segment (name : Text) : Except PatternError Segment :=
  if name = ['*', '*'] then .ok .everything
  else if holdsDoubleStar name then .error .malformed
  else if isWild name then .ok (.wild (glyphs name))
  else .ok (.exact name)

/-- Reads a pattern. -/
def pattern (s : Text) : Except PatternError Pattern :=
  let path := Path.ofText s
  let slash := s.getLast? = some '/'
  if s = [] then .error .malformed
  else if path.anchor ≠ .here then .error .absolute
  else if path.names = [] then .error (if slash then .noSegmentBeforeSlash else .noSegment)
  else (path.names.mapM segment).map fun segments => ⟨segments, slash⟩

/-! ## Finding paths -/

/-- The directory at a place and all directories below it, to a depth, with the paths that
lead there. -/
def directoriesBelow (d : Disk) : Nat → Path → Place → List Path
  | 0, path, _ => [path]
  | depth + 1, path, place =>
    path :: (d.listing place).flatMap fun e =>
      if e.2 = .directory then directoriesBelow d depth (path.child e.1) (e.1 :: place) else []

/-- The paths below a directory that the segments describe. With more to come, or a slash
at the end, only directories will do. -/
def select (d : Disk) (here : Place) (onlyDirectories : Bool) (path : Path) :
    List Segment → Except DiskError (List Path)
  | [] => .ok [path]
  | .exact name :: rest =>
    let target := path.child name
    let wanted :=
      if rest.isEmpty && !onlyDirectories then d.isThere here target
      else d.isDirectory here target
    match wanted with
    | .error e => .error e
    | .ok false => .ok []
    | .ok true => select d here onlyDirectories target rest
  | .wild gs :: rest =>
    match d.resolve here path with
    | .error e => .error e
    | .ok place =>
      let found := (d.listing place).filter fun e =>
        «matches» gs e.1 && (e.2 = .directory || rest.isEmpty && !onlyDirectories)
      (found.mapM fun e => select d here onlyDirectories (path.child e.1) rest).map List.flatten
  | .everything :: rest =>
    match d.resolve here path with
    | .error e => .error e
    | .ok place =>
      ((directoriesBelow d d.length path place).mapM fun p =>
        select d here onlyDirectories p rest).map fun found => found.flatten.eraseDups

/-- The paths below a directory that a pattern describes, in no particular order; none
where there is no directory. -/
def find (d : Disk) (here : Place) (base : Path) (p : Pattern) : Except DiskError (List Path) :=
  match d.isDirectory here base with
  | .error e => .error e
  | .ok false => .ok []
  | .ok true => select d here p.onlyDirectories base p.segments

end TestScribe.Glob
