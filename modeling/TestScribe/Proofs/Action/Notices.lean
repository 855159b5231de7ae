import TestScribe.Proofs.Action.Counting
import TestScribe.Proofs.Action.Locator

/-!
# Where the notices stand

A locator that is a path through the document needs a second look, and a notice stands above
the lines of its row. Whether it is needed is asked of the locator as the code holds it, with
its quotes escaped and its kind rewritten. This makes no difference. The characters of paths
are neither what escaping puts in nor in the marks and selectors of the kinds
(`isDeprecated_formatTarget`), so it is the text of the cell that decides:

> `notice_above_iff`: the lines of a row begin with the notice exactly if its command does not
> open a page and its locator has a slash or an angle bracket; and the notice stands nowhere
> else.

The lines of a row come from the texts of its first three cells alone (`rowLines_eq`). What is
in these texts never turns a statement into a comment or a comment into a statement, so both
can be counted by looking at the rows:

> `translate_accounted`: a recording has one statement for each row whose first cell has the
> word of a command, two comments for each row that clicks and waits, and one more for each
> notice.
-/

namespace TestScribe.Action

/-! ## Locators as they are recorded -/

theorem mem_escapeQuotes_iff {c : Char} (h : c ≠ '\\') (s : Text) :
    c ∈ escapeQuotes s ↔ c ∈ s := by
  induction s with
  | nil => exact Iff.rfl
  | cons d s ih =>
    by_cases hd : d = '\''
    · rw [hd, escapeQuotes_quote, List.mem_cons, List.mem_cons, List.mem_cons, ih, or_iff_right h]
    · rw [escapeQuotes_cons hd, List.mem_cons, List.mem_cons, ih]

theorem mem_rewriteLocator_iff {c : Char} (h : ∀ k ∈ locatorKinds, c ∉ k.1 ∧ c ∉ k.2)
    (s : Text) : c ∈ rewriteLocator s ↔ c ∈ s := by
  rcases rewriteLocator_cases s with hs | ⟨k, hk, r, hs, hrewritten⟩
  · rw [hs]
  · obtain ⟨hmark, hselector⟩ := h k hk
    rw [hrewritten, hs, List.mem_append, List.mem_append, or_iff_right hmark,
      or_iff_right hselector]

theorem isDeprecated_iff (s : Text) : isDeprecated s = true ↔ '/' ∈ s ∨ '>' ∈ s := by
  rw [isDeprecated, Bool.or_eq_true, List.contains_iff_mem, List.contains_iff_mem, or_comm]

/-- Escaping and rewriting neither add the characters of paths nor take them away. -/
theorem isDeprecated_formatTarget (s : Text) :
    isDeprecated (formatTarget s) = true ↔ '/' ∈ s ∨ '>' ∈ s := by
  have hkept : ∀ {c : Char}, c ≠ '\\' → (∀ k ∈ locatorKinds, c ∉ k.1 ∧ c ∉ k.2) →
      (c ∈ formatTarget s ↔ c ∈ s) := by
    intro c hescape hkinds
    rw [formatTarget, mem_rewriteLocator_iff hkinds, mem_escapeQuotes_iff hescape]
  have hslash : '/' ∈ formatTarget s ↔ '/' ∈ s := hkept (by decide) (by decide)
  have hangle : '>' ∈ formatTarget s ↔ '>' ∈ s := hkept (by decide) (by decide)
  rw [isDeprecated_iff, hslash, hangle]

/-! ## The lines of a row -/

/-- The texts of the first three cells of a row, if it has so many. -/
def cellTexts? (row : Outline) : Option (Text × Text × Text) :=
  match row.children "td".toList with
  | command :: target :: value :: _ => some (cellText command, cellText target, cellText value)
  | _ => none

theorem cellTexts?_eq_none_iff (row : Outline) :
    cellTexts? row = none ↔ (row.children "td".toList).length < cellsPerRow := by
  unfold cellTexts? cellsPerRow
  match row.children "td".toList with
  | [] => simp
  | [_] => simp
  | [_, _] => simp
  | _ :: _ :: _ :: _ => simp

/-- A row has the lines that the texts of its first three cells make, and none without these
cells. -/
theorem rowLines_eq (row : Outline) :
    rowLines row = (cellTexts? row).elim [] fun t => (ofCells t.1 t.2.1 t.2.2).lines := by
  unfold rowLines ofRow? cellTexts?
  match row.children "td".toList with
  | [] => rfl
  | [_] => rfl
  | [_, _] => rfl
  | _ :: _ :: _ :: _ => rfl

/-- The lines that three texts make: the notice, if the command does not open a page and the
second text is a path, and then the statement. -/
theorem lines_ofCells (command target value : Text) :
    (ofCells command target value).lines =
      (if Command.ofWord command ≠ .openPage ∧ ('/' ∈ target ∨ '>' ∈ target)
        then [deprecationNotice] else []) ++ (ofCells command target value).statement := by
  unfold lines
  by_cases h : Command.ofWord command = .openPage
  · have hcommand : (ofCells command target value).command = .openPage := h
    rw [hcommand, if_neg (by simp), if_neg (fun hnotice => hnotice.1 h)]
    rfl
  · have hcommand : (ofCells command target value).command ≠ .openPage := h
    have htarget : (ofCells command target value).target = formatTarget target := if_neg h
    rw [htarget]
    by_cases hpath : '/' ∈ target ∨ '>' ∈ target
    · have hdeprecated := (isDeprecated_formatTarget target).mpr hpath
      rw [if_pos (by simp [hcommand, hdeprecated]), if_pos ⟨h, hpath⟩]
      rfl
    · have hplain := mt (isDeprecated_formatTarget target).mp hpath
      rw [if_neg (by simp [hplain]), if_neg (fun hnotice => hpath hnotice.2)]
      rfl

/-! ## The notice -/

theorem call_ne_deprecationNotice (method : String) (arguments : List Text) :
    call method arguments ≠ deprecationNotice := by
  intro h
  have hcomment := isComment_call method arguments
  rw [h, isComment_deprecationNotice] at hcomment
  cases hcomment

/-- The notice is no part of a statement, nor of what is said about waiting. -/
theorem deprecationNotice_not_mem_statement (a : Action) : deprecationNotice ∉ a.statement := by
  have hcall : ∀ method arguments, deprecationNotice ∉ [call method arguments] := by
    intro method arguments h
    exact call_ne_deprecationNotice method arguments (List.mem_singleton.mp h).symm
  unfold statement
  cases a.command with
  | openPage => exact hcall _ _
  | click => exact hcall _ _
  | typeText => exact hcall _ _
  | select => exact hcall _ _
  | clickAndWait =>
    intro h
    rcases List.mem_append.mp h with hwaiting | hstatement
    · exact absurd hwaiting (by decide)
    · exact hcall _ _ hstatement
  | unknown => exact List.not_mem_nil

/-- The lines of a row begin with the notice exactly if the row does not open a page and its
second cell has a slash or an angle bracket, whether or not the command is known. The notice
is no other line of the row, and none at all where a page is opened. -/
theorem notice_above_iff {row command target value : Outline} {others : List Outline}
    (hcells : row.children "td".toList = command :: target :: value :: others) :
    ((rowLines row).head? = some deprecationNotice ↔
        Command.ofWord (cellText command) ≠ .openPage ∧
          ('/' ∈ cellText target ∨ '>' ∈ cellText target)) ∧
      deprecationNotice ∉ (rowLines row).tail ∧
      (Command.ofWord (cellText command) = .openPage → deprecationNotice ∉ rowLines row) := by
  have hrow : rowLines row =
      (ofCells (cellText command) (cellText target) (cellText value)).lines := by
    rw [rowLines_eq, cellTexts?, hcells]
    rfl
  have hstatement := deprecationNotice_not_mem_statement
    (ofCells (cellText command) (cellText target) (cellText value))
  rw [hrow, lines_ofCells]
  by_cases hnotice : Command.ofWord (cellText command) ≠ .openPage ∧
      ('/' ∈ cellText target ∨ '>' ∈ cellText target)
  · rw [if_pos hnotice]
    exact ⟨⟨fun _ => hnotice, fun _ => rfl⟩, hstatement, fun h => absurd h hnotice.1⟩
  · rw [if_neg hnotice, List.nil_append]
    refine ⟨⟨fun h => ?_, fun h => absurd h hnotice⟩, fun h => ?_, fun _ => hstatement⟩
    · exact absurd (List.mem_of_mem_head? h) hstatement
    · exact hstatement (List.mem_of_mem_tail h)

/-- A row with this command and this locator. -/
def locatingRow (command locator : String) : Outline :=
  .element "tr".toList [] [("td".toList, [.text "td".toList command.toList,
    .text "td".toList locator.toList, .placeholder "td".toList])] [] []

/-- A selector with an angle bracket gets the notice under a command that is not known. -/
theorem notice_above_unknown_command :
    (rowLines (locatingRow "verifyText" "css=ul > li")).head? = some deprecationNotice ∧
      deprecationNotice ∉ (rowLines (locatingRow "verifyText" "css=ul > li")).tail := by
  obtain ⟨hhead, htail, -⟩ := @notice_above_iff (locatingRow "verifyText" "css=ul > li") _ _ _ _ rfl
  exact ⟨hhead.mpr (by decide), htail⟩

/-! ## Counting -/

theorem countP_isComment_statement (a : Action) :
    a.statement.countP isComment = if a.command = .clickAndWait then 2 else 0 := by
  have hcall : ∀ method arguments, [call method arguments].countP isComment = 0 := by
    intro method arguments
    rw [List.countP_singleton, isComment_call]
    rfl
  unfold statement
  cases a.command with
  | openPage => exact hcall _ _
  | click => exact hcall _ _
  | typeText => exact hcall _ _
  | select => exact hcall _ _
  | clickAndWait =>
    have hwaiting : waitingNotice.countP isComment = 2 := by decide
    rw [List.countP_append, hwaiting, hcall]
    rfl
  | unknown => rfl

theorem countP_isComment_lines (command target value : Text) :
    (ofCells command target value).lines.countP isComment =
      (if command = "clickAndWait".toList then 2 else 0) +
        if command ≠ "open".toList ∧ ('/' ∈ target ∨ '>' ∈ target) then 1 else 0 := by
  have hwaits : (ofCells command target value).command = .clickAndWait ↔
      command = "clickAndWait".toList := Command.ofWord_eq_iff (by decide)
  have hopen : Command.ofWord command = .openPage ↔ command = "open".toList :=
    Command.ofWord_eq_iff (by decide)
  have hnotice : (Command.ofWord command ≠ .openPage ∧ ('/' ∈ target ∨ '>' ∈ target)) ↔
      command ≠ "open".toList ∧ ('/' ∈ target ∨ '>' ∈ target) :=
    and_congr_left' (not_congr hopen)
  rw [lines_ofCells, List.countP_append, countP_isComment_statement, Nat.add_comm,
    if_congr hwaits rfl rfl, if_congr hnotice rfl rfl]
  congr 1
  split
  · rw [List.countP_singleton, isComment_deprecationNotice]
    rfl
  · rfl

/-- The words that recordings use for commands. -/
def commandWords : List Text :=
  ["open".toList, "click".toList, "type".toList, "select".toList, "clickAndWait".toList]

theorem performs_eq (row : Outline) :
    performs row = (cellTexts? row).any fun t => t.1 ∈ commandWords := by
  have hword : ∀ w, Command.ofWord w ≠ .unknown ↔ w ∈ commandWords := fun _ =>
    Command.ofWord_ne_unknown_iff
  unfold performs cellTexts? Outline.first?
  match row.children "td".toList with
  | [] => rfl
  | [_] => rfl
  | [_, _] => rfl
  | command :: target :: value :: others =>
    show (_ && decide (Command.ofWord (cellText command) ≠ .unknown)) =
      decide (cellText command ∈ commandWords)
    have hknown : decide (Command.ofWord (cellText command) ≠ .unknown) =
        decide (cellText command ∈ commandWords) := decide_eq_decide.mpr (hword _)
    rw [hknown]
    simp [cellsPerRow]

/-- The lines of a recording are those of its rows in order, and the lines of a row are made of
the texts of its first three cells; a row with fewer cells has none. There is one statement
for each row that has the word of a command in its first cell. There are two comments for each
row that clicks and waits, and one for each row that does not open a page and has a slash or an
angle bracket in its second cell. -/
theorem translate_accounted (rows : List Outline) :
    translate rows = rows.flatMap (fun row =>
        (cellTexts? row).elim [] fun t => (ofCells t.1 t.2.1 t.2.2).lines) ∧
      (∀ row, cellTexts? row = none ↔ (row.children "td".toList).length < cellsPerRow) ∧
      countStatements (translate rows) =
        rows.countP (fun row => (cellTexts? row).any fun t => t.1 ∈ commandWords) ∧
      (translate rows).countP isComment =
        2 * rows.countP (fun row =>
          (cellTexts? row).any fun t => t.1 = "clickAndWait".toList) +
        rows.countP (fun row => (cellTexts? row).any fun t =>
          t.1 ≠ "open".toList ∧ ('/' ∈ t.2.1 ∨ '>' ∈ t.2.1)) := by
  refine ⟨?_, cellTexts?_eq_none_iff, ?_, ?_⟩
  · exact congrArg rows.flatMap (funext rowLines_eq)
  · rw [countStatements_translate]
    exact congrArg rows.countP (funext performs_eq)
  · induction rows with
    | nil => rfl
    | cons row rows ih =>
      have hcons : translate (row :: rows) = rowLines row ++ translate rows := rfl
      rw [hcons, List.countP_append, ih, List.countP_cons, List.countP_cons, rowLines_eq]
      cases cellTexts? row with
      | none => simp
      | some t =>
        have hlines := countP_isComment_lines t.1 t.2.1 t.2.2
        simp only [Option.elim_some, Option.any_some, decide_eq_true_eq, hlines]
        split <;> split <;> omega

/-- An address is no locator, whatever it looks like, and a row that clicks and waits can have
three comments. -/
example : (translate [locatingRow "open" "// a", locatingRow "clickAndWait" "//a"]).map isComment =
    [false, true, true, true, false] := by
  decide

end TestScribe.Action
