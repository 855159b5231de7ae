import TestScribe.Text.Basic

/-!
# The lines of a table

A table file is cut into lines and every line into fields. Fields stand between commas;
one that begins with a quote runs to the matching quote, over commas and line ends
alike, with a doubled quote for a quote, and whatever stands between the closing quote
and the next comma belongs to it too. A line ends with a line feed, a carriage return,
or both in that order.

Blank lines are lines of no fields, or they are passed over, where wanted together with
lines of nothing but spaces and tabs. Blank lines that end with a carriage return alone
come back when the line after them is not blank but begins with a space or a tab. Every
line keeps its number, so that an error can name it.

`fields?_length_lt` says that what follows a line is shorter than what was given; the
recursion over lines rests on it.
-/

namespace TestScribe.Table

/-- What stands after the line end that begins here. -/
def afterLineEnd? : Text → Option Text
  | '\n' :: r => some r
  | '\r' :: '\n' :: r => some r
  | '\r' :: r => some r
  | _ => none

/-- What ends a field: a comma, the end of the line, or the end of the file. -/
inductive FieldEnd
  | comma (rest : Text)
  | line (rest : Text)
  | file
deriving Repr, DecidableEq

/-- A field without quotes, or the part of a field after its closing quote. -/
def bareField : Text → Text × FieldEnd
  | [] => ([], .file)
  | ',' :: r => ([], .comma r)
  | '\n' :: r => ([], .line r)
  | '\r' :: '\n' :: r => ([], .line r)
  | '\r' :: r => ([], .line r)
  | c :: r => (c :: (bareField r).1, (bareField r).2)

/-- A field whose opening quote has been read; `none` when it is never closed. -/
def quotedField? : Text → Option (Text × FieldEnd)
  | [] => none
  | '"' :: '"' :: r => (quotedField? r).map fun f => ('"' :: f.1, f.2)
  | '"' :: r => some (bareField r)
  | c :: r => (quotedField? r).map fun f => (c :: f.1, f.2)

/-- The field that begins here; `none` when its quote is never closed. -/
def field? : Text → Option (Text × FieldEnd)
  | '"' :: r => quotedField? r
  | s => some (bareField s)

/-- The text that a field leaves. -/
def FieldEnd.rest : FieldEnd → Text
  | .comma r => r
  | .line r => r
  | .file => []

/-- There is text after the field, and less than before it. -/
def FieldEnd.Shorter (e : FieldEnd) (s : Text) : Prop := e = .file ∨ e.rest.length < s.length

theorem bareField_shorter (s : Text) : (bareField s).2.Shorter s := by
  fun_induction bareField s with
  | case1 => exact .inl rfl
  | case2 | case3 | case5 => exact .inr (by simp [FieldEnd.rest])
  | case4 => exact .inr (by simp only [FieldEnd.rest, List.length_cons]; omega)
  | case6 c r _ _ _ _ ih =>
    exact ih.imp id fun h => by simp only [List.length_cons]; omega

theorem quotedField?_shorter {s : Text} {f : Text × FieldEnd} (h : quotedField? s = some f) :
    f.2.Shorter s := by
  fun_induction quotedField? s generalizing f with
  | case1 => cases h
  | case2 r ih =>
    simp only [Option.map_eq_some_iff] at h
    obtain ⟨g, hg, rfl⟩ := h
    exact (ih hg).imp id fun h => by simp only [List.length_cons]; omega
  | case3 r _ =>
    cases h
    exact (bareField_shorter r).imp id fun h => by simp only [List.length_cons]; omega
  | case4 c r _ _ ih =>
    simp only [Option.map_eq_some_iff] at h
    obtain ⟨g, hg, rfl⟩ := h
    exact (ih hg).imp id fun h => by simp only [List.length_cons]; omega

theorem field?_shorter {s : Text} {f : Text × FieldEnd} (h : field? s = some f) :
    f.2.Shorter s := by
  unfold field? at h
  split at h
  · exact (quotedField?_shorter h).imp id fun h => by simp only [List.length_cons]; omega
  · cases h
    exact bareField_shorter s

/-- The fields of the line that begins here, and what follows the line, if the file does
not end with it; `none` when a quote is never closed. -/
def fields? (s : Text) : Option (List Text × Option Text) :=
  match _h : field? s with
  | none => none
  | some (f, .comma r) => (fields? r).map fun fs => (f :: fs.1, fs.2)
  | some (f, .line r) => some ([f], some r)
  | some (f, .file) => some ([f], none)
termination_by s.length
decreasing_by
  rcases field?_shorter ‹field? s = some _› with h | h
  · cases h
  · exact h

theorem fields?_length_lt {s r : Text} {fs : List Text} (h : fields? s = some (fs, some r)) :
    r.length < s.length := by
  fun_induction fields? s generalizing fs with
  | case1 => cases h
  | case2 s f t hf ih =>
    simp only [Option.map_eq_some_iff] at h
    obtain ⟨⟨gs, t'⟩, hg, he⟩ := h
    cases he
    have := ih hg
    rcases field?_shorter hf with h | h
    · cases h
    · simp only [FieldEnd.rest] at h; omega
  | case3 s f t hf =>
    cases h
    rcases field?_shorter hf with h | h
    · cases h
    · exact h
  | case4 => cases h

/-! ## Lines -/

/-- A space or a tab. -/
def isPadding (c : Char) : Bool := c = ' ' || c = '\t'

/-- What stands after the blank line that begins here: `some []` also when the file ends
with it. -/
def afterBlankLine? (s : Text) : Option Text :=
  match s.dropWhile isPadding with
  | [] => some []
  | t => afterLineEnd? t

/-- A line of a table: the number of lines before it, and its fields. -/
structure Line where
  number : Nat
  fields : List Text
deriving Repr, DecidableEq

theorem afterLineEnd?_length_lt {s r : Text} (h : afterLineEnd? s = some r) :
    r.length < s.length := by
  unfold afterLineEnd? at h
  split at h <;> cases h <;> simp only [List.length_cons] <;> omega

theorem afterBlankLine?_length_lt {c : Char} {s r : Text}
    (h : afterBlankLine? (c :: s) = some r) : r.length < (c :: s).length := by
  unfold afterBlankLine? at h
  split at h
  · cases h; simp
  · have h1 := afterLineEnd?_length_lt h
    have h2 := Text.length_dropWhile_le isPadding (c :: s)
    omega

/-! ## Blank lines that come back -/

/-- What the blank lines hold that may come back, the last one first, when one more is
passed over, which begins here: they all end with a carriage return alone. -/
def passedOver (passed : List Text) (s : Text) : List Text :=
  match s.dropWhile isPadding with
  | '\r' :: '\n' :: _ => []
  | '\r' :: _ => s.takeWhile isPadding :: passed
  | _ => []

/-- The blank lines as lines of one field, and how many lines there are before what
follows. Every line that comes back is counted once more, and with it the blank lines
after it, which are passed over again. -/
def comeBack (number : Nat) : List Text → List Line × Nat
  | [] => ([], number)
  | padding :: passed =>
    let more := comeBack (number + passed.length + 1) passed
    (⟨number, [padding]⟩ :: more.1, more.2)

/-- The lines that come back before the line that begins with this character. -/
def backBefore (number : Nat) (passed : List Text) (c : Char) : List Line × Nat :=
  if isPadding c then comeBack number passed.reverse else ([], number)

/-! ## All lines -/

/-- The lines of a file, with the number of the line in which a quote is opened that is
never closed. `number` lines have been read before, the last of them being blank lines
that may come back. -/
def linesFrom (skipBlank : Bool) (number : Nat) (passed : List Text) (s : Text) :
    List Line × Option Nat :=
  match s with
  | [] => ([], none)
  | c :: cs =>
    match _h : if skipBlank then afterBlankLine? (c :: cs) else none with
    | some rest => linesFrom skipBlank (number + 1) (passedOver passed (c :: cs)) rest
    | none =>
      match _h : afterLineEnd? (c :: cs) with
      | some rest =>
        let more := linesFrom skipBlank (number + 1) [] rest
        (⟨number, []⟩ :: more.1, more.2)
      | none =>
        let back := backBefore number passed c
        match _h : fields? (c :: cs) with
        | none => (back.1, some back.2)
        | some (fs, none) => (back.1 ++ [⟨back.2, fs⟩], none)
        | some (fs, some rest) =>
          let more := linesFrom skipBlank (back.2 + 1) [] rest
          (back.1 ++ ⟨back.2, fs⟩ :: more.1, more.2)
termination_by s.length
decreasing_by
  · split at *
    · exact afterBlankLine?_length_lt (by assumption)
    · contradiction
  · exact afterLineEnd?_length_lt (by assumption)
  · exact fields?_length_lt (by assumption)

/-- The lines of a file. -/
def lines (skipBlank : Bool) (s : Text) : List Line × Option Nat := linesFrom skipBlank 0 [] s

end TestScribe.Table
