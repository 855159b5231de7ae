import TestScribe.Action.Statement

/-!
# How many statements a recording has

The number that a report gives for a document is found by counting the lines that are no
comments. The lines are many and their texts come from the recording, so the count could be
thrown off by what a locator or a value holds. It is not: a call begins with the actor
whatever its arguments are, and the notices are comments of their own. So an action comes to
one statement (`countStatements_lines`), and to none where its command is unknown.

> `countStatements_translate`: the statements of a recording are as many as its rows that
> perform something, which are those with enough cells and a command that is known.
-/

namespace TestScribe.Action

/-- A row that performs something: it has enough cells, and the first one holds the word of a
command. -/
def performs (row : Outline) : Bool :=
  cellsPerRow ≤ (row.children "td".toList).length &&
    (row.first? "td".toList).any fun cell => Command.ofWord (cellText cell) ≠ .unknown

theorem countStatements_append (ls ls' : List Text) :
    countStatements (ls ++ ls') = countStatements ls + countStatements ls' := by
  rw [countStatements, List.filter_append, List.length_append]
  rfl

theorem countStatements_of_comments {ls : List Text} (h : ∀ l ∈ ls, isComment l = true) :
    countStatements ls = 0 := by
  rw [countStatements, List.length_eq_zero_iff, List.filter_eq_nil_iff]
  intro l hl
  rw [h l hl]
  exact Bool.false_ne_true

/-- A call is a statement, whatever is in its arguments. -/
theorem isComment_call (method : String) (arguments : List Text) :
    isComment (call method arguments) = false := rfl

theorem countStatements_call (method : String) (arguments : List Text) :
    countStatements [call method arguments] = 1 := rfl

/-- What is said about waiting is no statement. -/
theorem isComment_waitingNotice : ∀ l ∈ waitingNotice, isComment l = true := by decide

theorem isComment_deprecationNotice : isComment deprecationNotice = true := by decide

theorem countStatements_statement (a : Action) :
    countStatements a.statement = if a.command = .unknown then 0 else 1 := by
  unfold statement
  cases a.command with
  | clickAndWait =>
    rw [countStatements_append, countStatements_of_comments isComment_waitingNotice,
      countStatements_call]
    rfl
  | unknown => rfl
  | openPage => exact countStatements_call _ _
  | click => exact countStatements_call _ _
  | typeText => exact countStatements_call _ _
  | select => exact countStatements_call _ _

/-- An action is one statement, if its command is known. -/
theorem countStatements_lines (a : Action) :
    countStatements a.lines = if a.command = .unknown then 0 else 1 := by
  unfold lines
  split
  · have hnotice : countStatements [deprecationNotice] = 0 :=
      countStatements_of_comments (by simpa using isComment_deprecationNotice)
    rw [← List.singleton_append, countStatements_append, hnotice, Nat.zero_add,
      countStatements_statement]
  · exact countStatements_statement a

/-- A row is one statement, if it performs something. -/
theorem countStatements_rowLines (row : Outline) :
    countStatements (rowLines row) = if performs row then 1 else 0 := by
  unfold rowLines ofRow? performs Outline.first?
  match row.children "td".toList with
  | [] => rfl
  | [_] => rfl
  | [_, _] => rfl
  | command :: target :: value :: cells =>
    have hlines := countStatements_lines
      (ofCells (cellText command) (cellText target) (cellText value))
    show countStatements (lines (ofCells _ _ _)) = _
    rw [hlines]
    by_cases hknown : Command.ofWord (cellText command) = .unknown
    · simp [cellsPerRow, ofCells, hknown]
    · simp [cellsPerRow, ofCells, hknown]

/-- The statements of a recording are as many as the rows that perform something. -/
theorem countStatements_translate (rows : List Outline) :
    countStatements (translate rows) = rows.countP performs := by
  induction rows with
  | nil => rfl
  | cons row rows ih =>
    have hcons : translate (row :: rows) = rowLines row ++ translate rows := rfl
    rw [hcons, countStatements_append, countStatements_rowLines, ih, List.countP_cons,
      Nat.add_comm]

end TestScribe.Action
