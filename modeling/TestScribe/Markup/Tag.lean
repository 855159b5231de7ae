import TestScribe.Text.Blank
import TestScribe.Markup.Reference
import TestScribe.Markup.Token

/-!
# Start tags

Reads `<name attribute …>` as loosely as recorded documents write it. Attributes
stand apart from each other by blanks or slashes, a quoted value needs nothing
after it; a value may be in quotes, bare, or missing; several `=` count as one. A
quote that is never closed belongs to no value.

`startTag` reads what follows the `<`. Either the tag ends properly, or the text
ends inside it, or a character stands where no part of a tag can begin; then what
was read so far is no tag but text. A reference in a value that cannot be read rejects
the markup, unless the text ends inside the tag.
-/

namespace TestScribe.Markup

/-- A letter of the ASCII alphabet. -/
def isLetter (c : Char) : Bool := ('a' ≤ c && c ≤ 'z') || ('A' ≤ c && c ≤ 'Z')

/-- A character that can stand in a tag name. -/
def isTagNameChar (c : Char) : Bool := !"\t\n\r\x0c />\x00".toList.contains c

/-- A character that can begin an attribute. -/
def isAttributeStart (c : Char) : Bool := !(isBlank c || c = '/' || c = '>')

/-- A character that can follow in an attribute name. -/
def isAttributeNameChar (c : Char) : Bool := !(isBlank c || c = '/' || c = '=' || c = '>')

/-- A character of a value without quotes. -/
def isBareValueChar (c : Char) : Bool := !(isBlank c || c = '>')

/-- A quotation mark. -/
def isQuote (c : Char) : Bool := c = '\'' || c = '"'

/-- The name ends in a character that an attribute may follow at once: a quotation mark
or a blank. -/
def endsApart (name : Text) : Bool := name.getLast?.any fun c => isQuote c || isBlank c

/-! ## Gaps between attributes -/

/-- A gap begins here: a blank, or a slash that does not close the tag. -/
def gapAt : Text → Bool
  | [] => false
  | c :: r => isBlank c || (c = '/' && r.head? != some '>')

/-- The text after the gap that begins here. -/
def skipGap : Text → Text
  | [] => []
  | c :: r => if gapAt (c :: r) then skipGap r else c :: r

theorem skipGap_length_le (s : Text) : (skipGap s).length ≤ s.length := by
  induction s with
  | nil => simp [skipGap]
  | cons c r ih =>
    unfold skipGap
    split
    · exact Nat.le_succ_of_le ih
    · exact Nat.le_refl _

/-! ## Values -/

/-- A value as the tag writes it: its text without quotes, whether it had quotes, and
what follows. -/
structure WrittenValue where
  text : Text
  quoted : Bool
  rest : Text

/-- A value without quotes at the start of `s`. -/
def bareValue (s : Text) : WrittenValue :=
  ⟨s.takeWhile isBareValueChar, false, s.dropWhile isBareValueChar⟩

/-- The value that begins at `v`, which `blanks` and, before them, `equals` precede.
A quote that is never closed cannot begin it: then the value is what can be read one
character earlier, an empty one before the last blank or one that begins with the
last of several `=`, and with neither there is no value. -/
def valueAt? (equals blanks v : Text) : Option WrittenValue :=
  match v with
  | [] => some (bareValue [])
  | q :: r =>
    if isQuote q then
      match Text.cutAt? q r with
      | some (inside, rest) => some ⟨inside, true, rest⟩
      | none =>
        match blanks.getLast? with
        | some b => some ⟨[], false, b :: v⟩
        | none => if 2 ≤ equals.length then some (bareValue ('=' :: v)) else none
    else some (bareValue v)

/-- The value that an attribute name is followed by: `none` when there is none. -/
def value? (s : Text) : Option WrittenValue :=
  let t := s.dropWhile isBlank
  let equals := t.takeWhile (· = '=')
  let u := t.dropWhile (· = '=')
  if equals = [] then none
  else valueAt? equals (u.takeWhile isBlank) (u.dropWhile isBlank)

theorem length_takeWhile_add_dropWhile (p : Char → Bool) (s : Text) :
    (s.takeWhile p).length + (s.dropWhile p).length = s.length := by
  rw [← List.length_append, List.takeWhile_append_dropWhile]

theorem bareValue_length_le (s : Text) : (bareValue s).rest.length ≤ s.length :=
  Text.length_dropWhile_le isBareValueChar s

theorem valueAt?_length_le {equals blanks v : Text} {w : WrittenValue}
    (h : valueAt? equals blanks v = some w) :
    w.rest.length ≤ equals.length + blanks.length + v.length := by
  unfold valueAt? at h
  split at h
  · cases h
    have := bareValue_length_le []
    omega
  · rename_i q r
    split at h
    · split at h
      · cases h
        rename_i hcut
        have := Text.cutAt?_length_lt hcut
        simp only [List.length_cons]; omega
      · split at h
        · cases h
          rename_i b hb
          have : blanks ≠ [] := by rintro rfl; simp at hb
          have := List.length_pos_iff.2 this
          simp only [List.length_cons]; omega
        · split at h
          · cases h
            have := bareValue_length_le ('=' :: q :: r)
            simp only [List.length_cons] at *; omega
          · cases h
    · cases h
      have := bareValue_length_le (q :: r)
      omega

theorem value?_length_le {s : Text} {w : WrittenValue} (h : value? s = some w) :
    w.rest.length ≤ s.length := by
  unfold value? at h
  simp only at h
  split at h
  · cases h
  · have h1 := valueAt?_length_le h
    have h2 := length_takeWhile_add_dropWhile isBlank s
    have h3 := length_takeWhile_add_dropWhile (· = '=') (s.dropWhile isBlank)
    have h4 := length_takeWhile_add_dropWhile isBlank
      ((s.dropWhile isBlank).dropWhile (· = '='))
    omega

/-! ## Attributes -/

/-- The attributes from here to the end of the tag, with their values as they are
written, and what follows them. An attribute can only begin where something separates it
from what came before. -/
def attributesFrom (separated : Bool) (s : Text) : List (Text × Text) × Text :=
  match s with
  | [] => ([], [])
  | c :: cs =>
    if separated && isAttributeStart c then
      let name := c :: cs.takeWhile isAttributeNameChar
      let after := cs.dropWhile isAttributeNameChar
      match _hv : value? after with
      | some v =>
        let more := attributesFrom (v.quoted || gapAt v.rest) (skipGap v.rest)
        ((Text.lower name, v.text) :: more.1, more.2)
      | none =>
        let more := attributesFrom (endsApart name || gapAt after)
          (skipGap after)
        ((Text.lower name, []) :: more.1, more.2)
    else ([], c :: cs)
termination_by s.length
decreasing_by
  · have := value?_length_le ‹value? _ = some _›
    have := skipGap_length_le v.rest
    have : after.length ≤ cs.length := Text.length_dropWhile_le isAttributeNameChar cs
    simp only [List.length_cons]; omega
  · have := skipGap_length_le (cs.dropWhile isAttributeNameChar)
    have := Text.length_dropWhile_le isAttributeNameChar cs
    simp only [List.length_cons]; omega

theorem attributesFrom_length_le (separated : Bool) (s : Text) :
    (attributesFrom separated s).2.length ≤ s.length := by
  fun_induction attributesFrom separated s with
  | case1 => simp
  | case2 separated c cs _ name after v hv more ih =>
    have h0 : more.2.length ≤ (skipGap v.rest).length := ih
    have h1 := value?_length_le hv
    have h2 := skipGap_length_le v.rest
    have h3 : after.length ≤ cs.length := Text.length_dropWhile_le isAttributeNameChar cs
    simp only [List.length_cons]; omega
  | case3 separated c cs _ name after hv more ih =>
    have h0 : more.2.length ≤ (skipGap after).length := ih
    have h2 := skipGap_length_le after
    have h3 : after.length ≤ cs.length := Text.length_dropWhile_le isAttributeNameChar cs
    simp only [List.length_cons]; omega
  | case4 => simp

/-! ## The whole tag -/

/-- What is found where a construct was expected. -/
inductive Reading
  /-- It was read, and `rest` follows it. -/
  | complete (tokens : List Token) (rest : Text)
  /-- The text ends before the construct does. -/
  | incomplete
deriving Repr, DecidableEq

/-- The attributes with their values as they are meant; `none` where one holds a reference
that cannot be read. -/
def resolveValues? (as : List (Text × Text)) : Option Attributes :=
  (as.mapM fun a => (Reference.resolve? a.2).map fun v => (a.1, v)).map Dictionary.ofPairs

/-- The end of a start tag with this name, once its attributes are read: a character that
cannot stand in a tag makes all before it text. -/
def endOfTag (s name : Text) (attributes : Attributes) (after : Text) : Reading :=
  match after with
  | [] => .incomplete
  | '>' :: rest => .complete [.opening name attributes] rest
  | '/' :: '>' :: rest => .complete [.emptyTag name attributes] rest
  | c :: rest =>
    if isLetter c || c = '=' || c = '/' then .incomplete
    else .complete [.text ('<' :: s.take (s.length - (c :: rest).length))] (c :: rest)

/-- The start tag that follows a `<`, where `s` begins with a letter. -/
def startTag (s : Text) : Except Rejection Reading :=
  let name := s.takeWhile isTagNameChar
  let after := s.dropWhile isTagNameChar
  let as := attributesFrom (endsApart name || gapAt after) (skipGap after)
  let attributes? := resolveValues? as.1
  match endOfTag s (Text.lower name) (attributes?.getD []) as.2 with
  | .incomplete => .ok .incomplete
  | reading => if attributes?.isNone then .error .longNumber else .ok reading

theorem endOfTag_length_le {s name after rest : Text} {attributes : Attributes}
    {tokens : List Token} (h : endOfTag s name attributes after = .complete tokens rest) :
    rest.length ≤ after.length := by
  unfold endOfTag at h
  split at h
  · cases h
  · cases h
    simp
  · cases h
    simp only [List.length_cons]; omega
  · split at h
    · cases h
    · cases h
      exact Nat.le_refl _

theorem startTag_length_le {s : Text} {tokens : List Token} {rest : Text}
    (h : startTag s = .ok (.complete tokens rest)) : rest.length ≤ s.length := by
  unfold startTag at h
  simp only at h
  have h1 := attributesFrom_length_le
    (endsApart (s.takeWhile isTagNameChar) || gapAt (s.dropWhile isTagNameChar))
    (skipGap (s.dropWhile isTagNameChar))
  have h2 := skipGap_length_le (s.dropWhile isTagNameChar)
  have h3 := Text.length_dropWhile_le isTagNameChar s
  split at h
  · cases h
  · split at h
    · cases h
    · have h4 := endOfTag_length_le (Except.ok.inj h)
      omega

end TestScribe.Markup
