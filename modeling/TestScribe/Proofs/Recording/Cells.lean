import TestScribe.Action.Statement
import TestScribe.Proofs.Recording.Rounds

/-!
# The cells of a recording

A cell of a recorded table holds lines of text with line breaks between them. Nearly every
text can be a line: a byte order mark is lost in the ASCII form, the numbers 0x80 to 0x9F
name other characters, and a line of nothing but blanks may be condensed
(`isLineChar`, `Line`).

Neither round of reading changes a line, and between them the line breaks become tokens:

> `digested_cell`: a cell holds, after both rounds, the text of its lines joined by the token
> for a line break, or nothing where this is empty.
-/

namespace TestScribe.Recording

open Markup Reference

/-! ## Lines -/

/-- A character that is itself again after its number has been read. -/
def isLineChar (c : Char) : Bool := c ≠ '\uFEFF' && !(0x80 ≤ c.toNat && c.toNat < 0xA0)

/-- A line of a cell: empty, or with something to see in it. -/
structure Line where
  text : Text
  chars : text.all isLineChar = true
  visible : text = [] ∨ Text.blank text = false

theorem ofNumber_toNat {c : Char} (h : isLineChar c = true) (hc : ¬ c.toNat < 0x80) :
    ofNumber c.toNat = c := by
  rw [isLineChar, Bool.and_eq_true] at h
  have hscalar : isScalar c.toNat = true := by
    rcases c.valid with hlow | ⟨hlow, hhigh⟩
    · rw [isScalar, Bool.or_eq_true]
      exact .inl (decide_eq_true hlow)
    · rw [isScalar, Bool.or_eq_true, Bool.and_eq_true]
      exact .inr ⟨decide_eq_true hlow, decide_eq_true hhigh⟩
  have hzero : c.toNat ≠ 0 := by omega
  have hpage : ¬ (decide (0x80 ≤ c.toNat) && decide (c.toNat < 0xA0)) = true := by
    intro hpage
    rw [hpage] at h
    exact Bool.false_ne_true h.2
  rw [ofNumber, if_neg (by simp [hscalar, hzero]), if_neg hpage, Char.ofNat_toNat]

/-- A character as it arrives. -/
def arriveChar (c : Char) : Char := if c.toNat < 0x80 then c else ofNumber c.toNat

/-- Without byte order marks a text arrives character by character. -/
theorem arriveText_eq_map {s : Text} (hmark : '\uFEFF' ∉ s) :
    arriveText s = s.map arriveChar := by
  have hchar : ∀ c ∈ s, (if c.toNat < 0x80 then [c] else if c = '\uFEFF' then []
      else [ofNumber c.toNat]) = [arriveChar c] := by
    intro c hc
    have hne : c ≠ '\uFEFF' := fun he => hmark (he ▸ hc)
    by_cases hascii : c.toNat < 0x80
    · rw [if_pos hascii, arriveChar, if_pos hascii]
    · rw [if_neg hascii, if_neg hne, arriveChar, if_neg hascii]
  rw [arriveText, arrive, List.flatMap_def, List.map_congr_left hchar, ← List.flatMap_def]
  exact List.map_eq_flatMap.symm

theorem arriveChar_of_isLineChar {c : Char} (h : isLineChar c = true) : arriveChar c = c := by
  by_cases hc : c.toNat < 0x80
  · exact if_pos hc
  · rw [arriveChar, if_neg hc, ofNumber_toNat h hc]

/-- A line arrives as it is. -/
theorem arriveText_line (l : Line) : arriveText l.text = l.text := by
  have hline : ∀ c ∈ l.text, isLineChar c = true := List.all_eq_true.mp l.chars
  have hmark : '\uFEFF' ∉ l.text := fun hmem => absurd (hline _ hmem) (by decide)
  rw [arriveText_eq_map hmark,
    List.map_congr_left fun c hc => arriveChar_of_isLineChar (hline c hc)]
  exact List.map_id _

theorem isBlank_of_isSpacing {c : Char} (h : isSpacing c = true) : isBlank c = true := by
  have hall : " \n\t\x0c\r".toList.all isBlank = true := by decide
  exact List.all_eq_true.mp hall c (List.contains_iff_mem.mp h)

/-- A text with something to see in it is not condensed. -/
theorem condense_of_visible {s : Text} (h : Text.blank s = false) : condense s = s := by
  rw [condense, if_neg]
  intro hall
  have hblank : Text.blank s = true :=
    List.all_eq_true.mpr fun c hc => isBlank_of_isSpacing (List.all_eq_true.mp hall c hc)
  rw [h] at hblank
  cases hblank

/-- The trees of a text: none for the empty one. -/
def textTrees (s : Text) : List Tree := if s = [] then [] else [.text s]

theorem ended_of_visible {s : Text} (h : s = [] ∨ Text.blank s = false) :
    ended false s = textTrees s := by
  unfold ended textTrees
  rcases h with rfl | h
  · rfl
  · rw [if_neg Bool.false_ne_true, condense_of_visible h]

/-! ## Cells -/

/-- The lines of a cell: at least one. -/
structure Cell where
  first : Line
  others : List Line

namespace Cell

/-- The texts of the lines. -/
def lines (c : Cell) : List Text := c.first.text :: c.others.map Line.text

/-- The text that the cell stands for. -/
def joined (c : Cell) : Text := Text.joinWith breakToken c.lines

/-- The contents of the cell. -/
def trees (c : Cell) : List Tree :=
  .text c.first.text :: c.others.flatMap fun l => [.element breakName [] [], .text l.text]

/-- The outline of the cell: its text, or the placeholder where it has none. -/
def outline (c : Cell) : Outline :=
  if c.joined = [] then .placeholder "td".toList else .text "td".toList c.joined

end Cell

/-! ## Through both rounds -/

theorem joinWith_cons (sep t : Text) (ts : List Text) :
    Text.joinWith sep (t :: ts) = t ++ ts.flatMap fun u => sep ++ u := by
  induction ts generalizing t with
  | nil =>
    rw [Text.joinWith, List.flatMap_nil, List.append_nil]
  | cons u us ih =>
    rw [Text.joinWith, ih, List.flatMap_cons, List.append_assoc, List.append_assoc]
    exact fun h => by cases h

theorem arrived_text (s : Text) (ts : List Tree) :
    arrived (.text s :: ts) = .text (arriveText s) :: arrived ts := by
  rw [arrived, rework]
  rfl

theorem arrived_break (ts : List Tree) :
    arrived (.element breakName [] [] :: ts) = .element breakName [] [] :: arrived ts := by
  rw [arrived, rework, rework]
  rfl

/-- The first round keeps the lines and the line breaks between them. -/
theorem settled_lines (ls : List Line) : ∀ before : Text,
    settled false before (arrived (ls.flatMap fun l => [.element breakName [] [], .text l.text])) =
      ended false before ++
        ls.flatMap fun l => .element breakName [] [] :: textTrees l.text := by
  induction ls with
  | nil =>
    intro before
    rw [List.flatMap_nil, List.flatMap_nil, arrived, rework, settled, List.append_nil]
  | cons l ls ih =>
    intro before
    -- The line break ends the text before it, and the line behind it begins another.
    have hline := ih l.text
    rw [ended_of_visible l.visible] at hline
    rw [List.flatMap_cons, List.flatMap_cons]
    rw [List.cons_append, List.singleton_append, arrived_break, arrived_text, arriveText_line,
      settled, settled, settled, List.nil_append, hline]
    rfl

theorem firstRound_cell (c : Cell) :
    firstRound false c.trees = textTrees c.first.text ++
      c.others.flatMap fun l => .element breakName [] [] :: textTrees l.text := by
  rw [firstRound, Cell.trees, arrived_text, settled, List.nil_append, arriveText_line,
    settled_lines, ended_of_visible c.first.visible]

theorem breaksAsText_textTrees (s : Text) (ts : List Tree) :
    breaksAsText (textTrees s ++ ts) = textTrees s ++ breaksAsText ts := by
  unfold textTrees
  split
  · rfl
  · rw [List.singleton_append, breaksAsText]
    rfl

/-- Between the rounds the line breaks become texts. -/
theorem breaksAsText_lines (ls : List Line) :
    breaksAsText (ls.flatMap fun l => .element breakName [] [] :: textTrees l.text) =
      ls.flatMap fun l => .text breakToken :: textTrees l.text := by
  induction ls with
  | nil =>
    rw [List.flatMap_nil, breaksAsText]
    rfl
  | cons l ls ih =>
    rw [List.flatMap_cons, List.flatMap_cons, List.cons_append, breaksAsText, if_pos ⟨rfl, rfl⟩,
      breaksAsText_textTrees, ih]
    rfl

theorem restated_text (s : Text) (ts : List Tree) :
    restated (.text s :: ts) = .text s :: restated ts := by
  rw [restated, rework]
  rfl

theorem settled_textTrees (s before : Text) (ts : List Tree) :
    settled false before (restated (textTrees s ++ ts)) =
      settled false (before ++ s) (restated ts) := by
  unfold textTrees
  split
  · rename_i h
    rw [h, List.append_nil]
    rfl
  · rw [List.singleton_append, restated_text, settled]

/-- The second round makes one text of the texts. -/
theorem settled_tokens (ls : List Line) : ∀ before : Text,
    settled false before (restated (ls.flatMap fun l => .text breakToken :: textTrees l.text)) =
      ended false (before ++ (ls.map Line.text).flatMap fun t => breakToken ++ t) := by
  induction ls with
  | nil =>
    intro before
    rw [List.flatMap_nil, List.map_nil, List.flatMap_nil, List.append_nil, restated, rework,
      settled]
  | cons l ls ih =>
    intro before
    rw [List.flatMap_cons, List.cons_append, restated_text, settled, settled_textTrees, ih,
      List.map_cons, List.flatMap_cons, List.append_assoc, List.append_assoc, List.append_assoc]

/-- The text of a cell is empty or has something to see in it, as its lines have. -/
theorem visible_joined (c : Cell) : c.joined = [] ∨ Text.blank c.joined = false := by
  rw [Cell.joined, Cell.lines, joinWith_cons]
  cases hothers : c.others with
  | nil =>
    rw [List.map_nil, List.flatMap_nil, List.append_nil]
    exact c.first.visible
  | cons l ls =>
    -- With two lines there is a token between them, and that can be seen.
    refine .inr ?_
    have hmark : isBlank '\\' = false := by decide
    simp [Text.blank, breakToken, hmark]

/-- After both rounds a cell holds the text that it stands for. -/
theorem digested_cell (c : Cell) : digested false c.trees = textTrees c.joined := by
  have hjoined : c.joined = c.first.text ++
      (c.others.map Line.text).flatMap fun t => breakToken ++ t := joinWith_cons _ _ _
  rw [digested, firstRound_cell, breaksAsText_textTrees, breaksAsText_lines, secondRound,
    settled_textTrees, settled_tokens, List.nil_append, ← hjoined,
    ended_of_visible (visible_joined c)]

/-! ## Outlines of cells and rows -/

/-- The cell as an element of the table. -/
def Cell.element (c : Cell) : Element := ⟨"td".toList, [], c.trees⟩

theorem digestedElement_cell (c : Cell) :
    digestedElement false c.element = ⟨"td".toList, [], textTrees c.joined⟩ := by
  have hattributes : restatedAttributes "td".toList (arriveAttributes "td".toList []) = [] :=
    restatedAttributes_eq_nil_iff.mpr rfl
  have hplain : (preformatted.contains "td".toList || false) = false := by decide
  rw [digestedElement, Cell.element]
  dsimp only
  rw [hattributes, hplain, digested_cell]

/-- The outline of a cell after both rounds. -/
theorem ofElement_cell (c : Cell) :
    Outline.ofElement (digestedElement false c.element) = c.outline := by
  rw [digestedElement_cell, Cell.outline]
  unfold textTrees
  by_cases hnone : c.joined = []
  · rw [if_pos hnone, if_pos hnone]
    rfl
  · have hvisible : Text.blank c.joined = false := (visible_joined c).resolve_left hnone
    rw [if_neg hnone, if_neg hnone, Outline.ofElement_text _ hvisible]

/-- A row of a recorded table. -/
structure Row where
  command : Cell
  target : Cell
  value : Cell

namespace Row

/-- The cells in order. -/
def cells (r : Row) : List Cell := [r.command, r.target, r.value]

/-- The outline of the row: its cells. -/
def outline (r : Row) : Outline :=
  .element "tr".toList [] [("td".toList, r.cells.map Cell.outline)] [] []

/-- The contents of the row, each cell on its own line. -/
def trees (r : Row) : List Tree :=
  (r.cells.flatMap fun c => [.text "\n\t".toList, .element "td".toList [] c.trees]) ++
    [.text "\n".toList]

/-- The row as an element of the table. -/
def element (r : Row) : Element := ⟨"tr".toList, [], r.trees⟩

end Row

/-- A row has its cells after both rounds. -/
theorem children_row (r : Row) :
    (Outline.ofElement (digestedElement false r.element)).children "td".toList =
      r.cells.map Cell.outline := by
  have hcells : r.element.childrenNamed "td".toList = r.cells.map Cell.element := rfl
  have hrow : isPlainName r.element.name = true := by
    show isPlainName "tr".toList = true
    decide
  rw [Outline.children_ofElement, childrenNamed_digestedElement hrow (by decide), hcells,
    List.map_map, List.map_map]
  exact List.map_congr_left fun c _ => ofElement_cell c

/-- The lines of code for a row depend on its cells alone, so they are those of its
outline. -/
theorem rowLines_row (r : Row) :
    Action.rowLines (Outline.ofElement (digestedElement false r.element)) =
      Action.rowLines r.outline := by
  rw [Action.rowLines, Action.ofRow?, children_row]
  rfl

end TestScribe.Recording
