import TestScribe.Proofs.Recording.Cells

/-!
# Recorded documents

The document that a recorder exports, as text and as trees: above the table a heading with
values of its own (`Heading`), in the table one row for each step of the test.

> `recording_eq`: the text is the prologues and what is recorded of the trees.

The text is put together piece by piece in the order of the trees, and each piece has its
lemma. In these the text is kept as one name until the trees have been written out, since a
text of many characters in the goal makes every rewriting slow.
-/

namespace TestScribe.Recording

open Markup

/-! ## Recorded documents -/

/-- A cell as it is recorded: its lines with the markup characters as references. -/
def Cell.markup (c : Cell) : Text :=
  "<td>".toList ++ Text.joinWith "<br />".toList (c.lines.map escape) ++ "</td>".toList

/-- A row as it is recorded, each cell on its own line. -/
def Row.markup (r : Row) : Text :=
  "<tr>".toList ++ (r.cells.flatMap fun c => "\n\t".toList ++ c.markup) ++ "\n</tr>".toList

/-- What a recorder writes above the rows, apart from the tags. -/
structure Heading where
  space : Text
  language : Text
  profile : Text
  encoding : Text
  address : Text
  title : Text

/-- The head of a recorded document. -/
def Heading.markup (h : Heading) : Text :=
  "<head profile=\"".toList ++ escapeValue h.profile ++ "\">\n".toList ++
  "<meta http-equiv=\"Content-Type\" content=\"".toList ++ escapeValue h.encoding ++
    "\" />\n".toList ++
  "<link rel=\"selenium.base\" href=\"".toList ++ escapeValue h.address ++ "\" />\n".toList ++
  "<title>".toList ++ escape h.title ++ "</title>\n</head>".toList

/-- The table of a recorded document: the title, and the rows on lines of their own. -/
def tableMarkup (title : Text) (rows : List Row) : Text :=
  "<table cellpadding=\"1\" cellspacing=\"1\" border=\"1\">\n".toList ++
  "<thead>\n<tr><td rowspan=\"1\" colspan=\"3\">".toList ++ escape title ++
    "</td></tr>\n</thead>".toList ++
  "<tbody>\n".toList ++ Text.joinWith ['\n'] (rows.map Row.markup) ++ "\n</tbody></table>".toList

/-- A recorded document. -/
def recording (h : Heading) (rows : List Row) : Text :=
  openingLines ++ "<html xmlns=\"".toList ++ escapeValue h.space ++
    "\" xml:lang=\"".toList ++ escapeValue h.language ++
    "\" lang=\"".toList ++ escapeValue h.language ++ "\">\n".toList ++
  h.markup ++ "\n<body>\n".toList ++ tableMarkup h.title rows ++ "\n</body>\n</html>\n".toList

/-- The end of a line between elements. -/
def lineEnd : Tree := .text ['\n']

/-- The link that holds the address. -/
def linkElement (h : Heading) : Element :=
  ⟨"link".toList, [("rel".toList, "selenium.base".toList), ("href".toList, h.address)], []⟩

/-- The contents of the head. -/
def Heading.trees (h : Heading) : List Tree :=
  [lineEnd,
    .element "meta".toList [("http-equiv".toList, "Content-Type".toList),
      ("content".toList, h.encoding)] [],
    lineEnd, .element "link".toList (linkElement h).attributes [],
    lineEnd, .element "title".toList [] [.text h.title], lineEnd]

/-- The contents of the part of the table that holds the rows. -/
def rowTrees (rows : List Row) : List Tree :=
  (rows.flatMap fun r => [lineEnd, .element "tr".toList [] r.trees]) ++ [lineEnd]

/-- The contents of the table. -/
def tableTrees (title : Text) (rows : List Row) : List Tree :=
  [lineEnd,
    .element "thead".toList []
      [lineEnd, .element "tr".toList []
        [.element "td".toList [("rowspan".toList, ['1']), ("colspan".toList, ['3'])]
          [.text title]], lineEnd],
    .element "tbody".toList [] (rowTrees rows)]

/-- The contents of the body. -/
def bodyTrees (title : Text) (rows : List Row) : List Tree :=
  [lineEnd,
    .element "table".toList [("cellpadding".toList, ['1']), ("cellspacing".toList, ['1']),
      ("border".toList, ['1'])] (tableTrees title rows),
    lineEnd]

/-- The root element of a recorded document. -/
def rootElement (h : Heading) (rows : List Row) : Element :=
  ⟨rootName, [("xmlns".toList, h.space), ("xml:lang".toList, h.language),
      ("lang".toList, h.language)],
    [lineEnd, .element "head".toList [("profile".toList, h.profile)] h.trees,
      lineEnd, .element "body".toList [] (bodyTrees h.title rows), lineEnd]⟩

/-- The trees of a recorded document. -/
def page (h : Heading) (rows : List Row) : List Tree :=
  [.element (rootElement h rows).name (rootElement h rows).attributes
    (rootElement h rows).children, lineEnd]

section
variable (ts us : List Tree) (as : Attributes)

theorem record_text (s : Text) : record (.text s :: ts) = escape s ++ record ts := by
  unfold record
  rw [writeWith]

theorem record_lineEnd : record (lineEnd :: ts) = '\n' :: record ts := record_text ts ['\n']

theorem record_element {name : Text} (h : voidElements.contains name = false) :
    record (.element name as us :: ts) =
      '<' :: (name ++ (recordAttributes name as ++
        '>' :: (record us ++ '<' :: '/' :: (name ++ '>' :: record ts)))) := by
  unfold record
  rw [writeWith, if_neg (by rw [h]; exact Bool.false_ne_true)]
  simp

theorem record_void {name : Text} (h : voidElements.contains name = true) :
    record (.element name as us :: ts) =
      '<' :: (name ++ (recordAttributes name as ++ " />".toList ++ record ts)) := by
  unfold record
  rw [writeWith, if_pos h]
  simp

theorem record_append : record (ts ++ us) = record ts ++ record us := by
  unfold record
  induction ts with
  | nil =>
    rw [writeWith]
    rfl
  | cons t ts ih =>
    cases t with
    | text s => rw [List.cons_append, writeWith, writeWith, ih, List.append_assoc]
    | special kind s => rw [List.cons_append, writeWith, writeWith, ih, List.append_assoc]
    | element name as children =>
      rw [List.cons_append, writeWith, writeWith, ih, List.append_assoc]

theorem record_nil : record [] = [] := by
  unfold record
  rw [writeWith]

/-- Pieces are recorded one after the other. -/
theorem record_flatMap {α : Type} {f : α → List Tree} {g : α → Text}
    (h : ∀ a, record (f a) = g a) (l : List α) : record (l.flatMap f) = l.flatMap g := by
  induction l with
  | nil => exact record_nil
  | cons a l ih => rw [List.flatMap_cons, record_append, h, ih, List.flatMap_cons]

end

/-- A cell as it is recorded. -/
theorem record_cell (c : Cell) (ts : List Tree) :
    record (.element "td".toList [] c.trees :: ts) = c.markup ++ record ts := by
  have hlines : record c.trees = Text.joinWith "<br />".toList (c.lines.map escape) := by
    have hline : ∀ l : Line, record [.element breakName [] [], .text l.text] =
        "<br />".toList ++ escape l.text := by
      intro l
      rw [record_void _ _ _ (by decide), record_text, record_nil, List.append_nil]
      rfl
    rw [Cell.trees, record_text, record_flatMap hline, Cell.lines, List.map_cons, joinWith_cons,
      List.map_map, List.flatMap_map]
    rfl
  rw [record_element _ _ _ (by decide), hlines]
  unfold Cell.markup
  simp only [List.append_assoc]
  rfl

/-- A row as it is recorded. -/
theorem record_row (r : Row) (ts : List Tree) :
    record (.element "tr".toList [] r.trees :: ts) = r.markup ++ record ts := by
  have hcell : ∀ c : Cell, record [.text "\n\t".toList, .element "td".toList [] c.trees] =
      "\n\t".toList ++ c.markup := by
    intro c
    rw [record_text, record_cell, record_nil, List.append_nil]
    rfl
  rw [record_element _ _ _ (by decide), Row.trees, record_append, record_flatMap hcell,
    record_text, record_nil]
  unfold Row.markup
  simp only [List.append_assoc]
  rfl


/-- The head as it is recorded. -/
theorem record_head (h : Heading) (ts : List Tree) :
    record (.element "head".toList [("profile".toList, h.profile)] h.trees :: ts) =
      h.markup ++ record ts := by
  have htype : escapeValue "Content-Type".toList = "Content-Type".toList := by decide
  have hrel : escapeValue "selenium.base".toList = "selenium.base".toList := by decide
  generalize hmarkup : h.markup = markup
  rw [record_element _ _ _ (by decide), Heading.trees, record_lineEnd,
    record_void _ _ _ (by decide), record_lineEnd, record_void _ _ _ (by decide), record_lineEnd,
    record_element _ _ _ (by decide), record_text, record_nil, record_lineEnd, record_nil]
  subst hmarkup
  unfold Heading.markup linkElement recordAttributes
  simp only [List.flatMap_cons, recordAttribute, htype, hrel]
  simp

/-- Rows on lines of their own, joined by line ends or each behind one. -/
theorem record_rows {rows : List Row} (hrows : rows ≠ []) :
    record (rowTrees rows) = '\n' :: (Text.joinWith ['\n'] (rows.map Row.markup) ++ ['\n']) := by
  have hrow : ∀ r : Row, record [lineEnd, .element "tr".toList [] r.trees] =
      ['\n'] ++ r.markup := by
    intro r
    rw [record_lineEnd, record_row, record_nil, List.append_nil]
    rfl
  rw [rowTrees, record_append, record_flatMap hrow, record_lineEnd, record_nil]
  cases rows with
  | nil => exact absurd rfl hrows
  | cons r rs =>
    rw [List.map_cons, joinWith_cons, List.flatMap_cons, List.flatMap_map]
    simp

/-- The table as it is recorded. -/
theorem record_table (title : Text) {rows : List Row} (hrows : rows ≠ []) (ts : List Tree) :
    record (.element "table".toList [("cellpadding".toList, ['1']), ("cellspacing".toList, ['1']),
        ("border".toList, ['1'])] (tableTrees title rows) :: ts) =
      tableMarkup title rows ++ record ts := by
  have hone : escapeValue ['1'] = ['1'] := by decide
  have hthree : escapeValue ['3'] = ['3'] := by decide
  generalize hmarkup : tableMarkup title rows = markup
  rw [record_element _ _ _ (by decide), tableTrees, record_lineEnd,
    record_element _ _ _ (by decide), record_lineEnd, record_element _ _ _ (by decide),
    record_element _ _ _ (by decide), record_text, record_nil, record_lineEnd, record_nil,
    record_element _ _ _ (by decide), record_rows hrows, record_nil]
  subst hmarkup
  unfold tableMarkup recordAttributes
  simp only [List.flatMap_cons, recordAttribute, hone, hthree]
  simp

/-- A recorded document is the prologues and what is recorded of its trees. -/
theorem recording_eq (h : Heading) {rows : List Row} (hrows : rows ≠ []) :
    recording h rows = openingLines ++ record (page h rows) := by
  have hroot : voidElements.contains (rootElement h rows).name = false := by
    show voidElements.contains rootName = false
    decide
  generalize hmarkup : recording h rows = markup
  rw [page, record_element _ _ _ hroot, rootElement, record_lineEnd, record_head, record_lineEnd,
    record_element _ _ _ (by decide), bodyTrees, record_lineEnd, record_table h.title hrows,
    record_lineEnd, record_nil]
  subst hmarkup
  unfold recording recordAttributes rootName
  simp only [List.flatMap_cons, recordAttribute]
  simp

end TestScribe.Recording
