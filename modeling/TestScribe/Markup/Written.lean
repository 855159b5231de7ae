import TestScribe.Markup.Tree

/-!
# The written form of a tree

Every element is written with its end tag, or as `<name/>` if it has no content and
can have none; attributes stand in the order of their names and every value is in
quotes. Characters that markup would take for its own are written as references,
except inside `script` and `style`.
-/

namespace TestScribe.Markup

/-! ## Text and values -/

/-- A character of text, with the markup characters as references. -/
def escapeChar (c : Char) : Text :=
  if c = '&' then "&amp;".toList
  else if c = '<' then "&lt;".toList
  else if c = '>' then "&gt;".toList
  else [c]

/-- A text with its markup characters as references. -/
def escape (s : Text) : Text := s.flatMap escapeChar

/-- A value in quotation marks: double ones, or single ones where the value holds only
double ones; where it holds both, its double ones become references. -/
def quote (s : Text) : Text :=
  if s.contains '"' then
    if s.contains '\'' then '"' :: Text.replace ['"'] "&quot;".toList s ++ ['"']
    else '\'' :: s ++ ['\'']
  else '"' :: s ++ ['"']

/-! ## The character encoding that a document states -/

/-- `charset=` after any blanks: what was read, and what follows. -/
def charsetAt? (s : Text) : Option (Text × Text) :=
  (Text.afterPrefix? "charset=".toList (s.dropWhile isBlank)).map fun r =>
    (s.takeWhile isBlank ++ "charset=".toList, r)

theorem charsetAt?_length_lt {s lead rest : Text} (h : charsetAt? s = some (lead, rest)) :
    rest.length < s.length := by
  simp only [charsetAt?, Option.map_eq_some_iff] at h
  obtain ⟨r, hr, he⟩ := h
  cases he
  have h1 := congrArg List.length (Text.eq_append_of_afterPrefix? hr)
  have h2 := Text.length_dropWhile_le isBlank s
  have h3 : "charset=".toList.length = 8 := by decide
  simp only [List.length_append] at h1
  omega

/-- A charset that begins with `c`: one stands at the start of a line or after a
semicolon. -/
def charsetHere? (lineStart : Bool) (c : Char) (cs : Text) : Option (Text × Text) :=
  match if lineStart then charsetAt? (c :: cs) else none with
  | some found => some found
  | none => if c = ';' then (charsetAt? cs).map fun r => (';' :: r.1, r.2) else none

theorem charsetHere?_length_le {lineStart : Bool} {c : Char} {cs lead rest : Text}
    (h : charsetHere? lineStart c cs = some (lead, rest)) : rest.length ≤ cs.length := by
  unfold charsetHere? at h
  split at h
  · cases h
    rename_i he
    split at he
    · exact Nat.le_of_lt_succ (charsetAt?_length_lt he)
    · cases he
  · split at h
    · simp only [Option.map_eq_some_iff] at h
      obtain ⟨r, hr, he⟩ := h
      cases he
      exact Nat.le_of_lt (charsetAt?_length_lt hr)
    · cases h

/-- The encoding that the written form states. -/
def statedEncoding : Text := "utf-8".toList

/-- A content description with every charset, up to the next semicolon, replaced by
the stated encoding. -/
def restateCharset (lineStart : Bool) (s : Text) : Text :=
  match s with
  | [] => []
  | c :: cs =>
    match _h : charsetHere? lineStart c cs with
    | some (lead, rest) =>
      lead ++ statedEncoding ++ restateCharset false (rest.dropWhile (· ≠ ';'))
    | none => c :: restateCharset (c = '\n') cs
termination_by s.length
decreasing_by
  · have := charsetHere?_length_le ‹charsetHere? lineStart c cs = some _›
    have := Text.length_dropWhile_le (fun d => decide (d ≠ ';')) rest
    simp only [List.length_cons]; omega
  · simp

/-- The attributes of an element as they are written: a `meta` element states the
encoding of the written form. -/
def writtenAttributes (name : Text) (as : Attributes) : Attributes :=
  if name = "meta".toList then
    if (as.get? "charset".toList).isSome then
      as.map fun a => if a.1 = "charset".toList then (a.1, statedEncoding) else a
    else if (as.get? "http-equiv".toList).map Text.lower = some "content-type".toList then
      as.map fun a => if a.1 = "content".toList then (a.1, restateCharset true a.2) else a
    else as
  else as

/-! ## Tags and trees -/

/-- One attribute, with the blank before it. -/
def writeAttribute (a : Text × Text) : Text := ' ' :: a.1 ++ '=' :: quote (escape a.2)

/-- The attributes of a tag in the order of their names. -/
def writeAttributes (name : Text) (as : Attributes) : Text :=
  ((writtenAttributes name as).mergeSort fun a b => Text.le a.1 b.1).flatMap writeAttribute

/-- A special construct. The declaration of the document type ends its line. -/
def writeSpecial : Special → Text → Text
  | .comment, s => "<!--".toList ++ s ++ "-->".toList
  | .cdata, s => "<![CDATA[".toList ++ s ++ "]]>".toList
  | .declaration, s => "<?".toList ++ s ++ "?>".toList
  | .doctype, s => "<!DOCTYPE ".toList ++ s ++ ">\n".toList
  | .instruction, s => "<?".toList ++ s ++ ">".toList

/-- The written form of a tree; inside an element with raw content text stands as it
is. -/
def Tree.write (raw : Bool) : Tree → Text
  | .text s => if raw then s else escape s
  | .special kind s => writeSpecial kind s
  | .element name attributes children =>
    let start := '<' :: name ++ writeAttributes name attributes
    if children.isEmpty && voidElements.contains name then start ++ "/>".toList
    else start ++ '>' :: go (rawElements.contains name) children ++ "</".toList ++ name ++ ['>']
where
  /-- The written form of several trees, one after the other. -/
  go (raw : Bool) : List Tree → Text
    | [] => []
    | t :: ts => t.write raw ++ go raw ts

/-- The written form of a document. -/
def writeDocument (ts : List Tree) : Text := Tree.write.go false ts

end TestScribe.Markup
