import TestScribe.Outline.Basic

/-!
# Recorded actions

A row of a recording names a command, the element that it acts on, and a value. The
commands form a closed vocabulary; a row with another command is kept as an action that
does nothing.
-/

namespace TestScribe

/-- What a recorded action does. -/
inductive Command
  | openPage
  | click
  | typeText
  | select
  | clickAndWait
  /-- Any command outside the vocabulary. -/
  | unknown
deriving Repr, DecidableEq

namespace Command

/-- The word for a command in recordings. -/
def word : Command → Text
  | .openPage => "open".toList
  | .click => "click".toList
  | .typeText => "type".toList
  | .select => "select".toList
  | .clickAndWait => "clickAndWait".toList
  | .unknown => "unknown".toList

/-- The commands that a recording can ask for. -/
def vocabulary : List Command := [.openPage, .click, .typeText, .select, .clickAndWait]

/-- The command that a word asks for. -/
def ofWord (w : Text) : Command := (vocabulary.find? (·.word = w)).getD .unknown

/-- The command whose word this is, where the word for no command counts too. -/
def named? (w : Text) : Option Command := (vocabulary ++ [Command.unknown]).find? (·.word = w)

theorem ofWord_word {c : Command} (h : c ≠ .unknown) : ofWord c.word = c := by
  cases c with
  | unknown => exact absurd rfl h
  | _ => rfl

/-- Each command is asked for by its own word and no other. -/
theorem ofWord_eq_iff {c : Command} (h : c ≠ .unknown) {w : Text} :
    ofWord w = c ↔ w = c.word := by
  constructor
  · intro hw
    unfold ofWord at hw
    cases hfound : vocabulary.find? (·.word = w) with
    | none =>
      rw [hfound] at hw
      exact absurd hw.symm h
    | some c' =>
      rw [hfound] at hw
      have hc : c' = c := hw
      have hword := List.find?_some hfound
      rw [← hc]
      exact (of_decide_eq_true hword).symm
  · intro hw
    rw [hw, ofWord_word h]

/-- A word asks for a command exactly if it is in the vocabulary. -/
theorem ofWord_ne_unknown_iff {w : Text} : ofWord w ≠ .unknown ↔ w ∈ vocabulary.map word := by
  constructor
  · intro h
    have hw : w = (ofWord w).word := (ofWord_eq_iff h).mp rfl
    have hmem : ∀ c : Command, c ≠ .unknown → c ∈ vocabulary := by
      intro c hc
      cases c with
      | unknown => exact absurd rfl hc
      | _ => decide
    exact List.mem_map.mpr ⟨ofWord w, hmem _ h, hw.symm⟩
  · intro h
    obtain ⟨c, hc, rfl⟩ := List.mem_map.mp h
    have hknown : c ≠ .unknown := by
      intro hunknown
      rw [hunknown] at hc
      exact absurd hc (by decide)
    rw [ofWord_word hknown]
    exact hknown

end Command

/-- A recorded action. -/
structure Action where
  command : Command
  /-- The command as the recording writes it. -/
  written : Text
  target : Text
  value : Text
deriving Repr, DecidableEq

end TestScribe
