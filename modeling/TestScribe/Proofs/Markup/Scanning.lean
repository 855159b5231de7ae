import TestScribe.Markup.Tree

/-!
# Reading a text as tokens

A text is read as certain tokens (`Reads`) if a scan takes all of it, whether more could
follow or not, and the tokens it finds make the same tree as these. A scan takes plain text in
runs and not by characters, and a tree does not tell the difference, since it gathers the text
between two tags anyway (`Alike`). So texts can be put together from the back, one character or
one construct at a time (`Reads.plain`, `Reads.step`):

> `read_of_reads`: the tree of such a text is that of the tokens.
-/

namespace TestScribe.Markup

/-! ## Tokens that make the same tree -/

/-- Two token lists that do the same to every tree under construction. -/
def Alike (ts us : List Token) : Prop :=
  ∀ g : Growing, ts.foldl Growing.take g = us.foldl Growing.take g

theorem Alike.refl (ts : List Token) : Alike ts ts := fun _ => rfl

theorem Alike.cons {ts us : List Token} (t : Token) (h : Alike ts us) :
    Alike (t :: ts) (t :: us) := fun g => h (g.take t)

theorem Alike.append_left (ts : List Token) {us vs : List Token} (h : Alike us vs) :
    Alike (ts ++ us) (ts ++ vs) := by
  induction ts with
  | nil => exact h
  | cons t ts ih => exact ih.cons t

theorem Alike.trans {ts us vs : List Token} (h : Alike ts us) (h' : Alike us vs) :
    Alike ts vs := fun g => (h g).trans (h' g)

theorem Alike.symm {ts us : List Token} (h : Alike ts us) : Alike us ts := fun g => (h g).symm

/-- Two pieces of text are one text. -/
theorem alike_text_append (s t : Text) (ts : List Token) :
    Alike (.text s :: .text t :: ts) (.text (s ++ t) :: ts) := by
  intro g
  simp only [List.foldl_cons, Growing.take, List.reverse_append, List.append_assoc]

/-- A text without characters is none. -/
theorem alike_text_nil (ts : List Token) : Alike (.text [] :: ts) ts := fun _ => rfl

/-! ## Steps of a scan -/

section
variable {last : Bool} {c : Char} {cs rest : Text} {ts us : List Token}

/-- A step that goes on is followed by the rest of the scan. -/
theorem scan_cons (hstep : step last c cs = .ok (.go ts rest))
    (hscan : scan last rest = .ok (us, [])) : scan last (c :: cs) = .ok (ts ++ us, []) := by
  rw [scan]
  split
  · rename_i h
    rw [hstep] at h
    cases h
  · rename_i h
    rw [hstep] at h
    cases h
  · rename_i h
    rw [hstep] at h
    cases h
    rw [hscan]

theorem exists_scan_of_scan_cons (hstep : step last c cs = .ok (.go ts rest))
    (hscan : scan last (c :: cs) = .ok (us, [])) :
    ∃ vs, scan last rest = .ok (vs, []) ∧ us = ts ++ vs := by
  rw [scan] at hscan
  split at hscan
  · cases hscan
  · rename_i h
    rw [hstep] at h
    cases h
  · rename_i h
    rw [hstep] at h
    cases h
    split at hscan
    · cases hscan
    · rename_i r hr
      obtain ⟨vs, remainder⟩ := r
      obtain ⟨rfl, rfl⟩ := Prod.mk.inj (Except.ok.inj hscan)
      exact ⟨vs, hr, rfl⟩

end

theorem step_plain (last : Bool) {s : Text} {c : Char} (hc : isPlain c = true) :
    step last c s = .ok (.go [.text (c :: s.takeWhile isPlain)] (s.dropWhile isPlain)) := by
  simp only [isPlain, Bool.and_eq_true, ne_eq, decide_not, Bool.not_eq_true',
    decide_eq_false_iff_not] at hc
  rw [step, if_neg hc.1, if_neg hc.2]

/-! ## Texts that are read as tokens -/

/-- A scan takes the whole text, and the tokens that it finds make the same tree as these. -/
def Reads (s : Text) (ts : List Token) : Prop :=
  ∀ last, ∃ us, scan last s = .ok (us, []) ∧ Alike us ts

theorem Reads.nil : Reads [] [] := fun _ => ⟨[], by rw [scan], Alike.refl []⟩

theorem Reads.of_alike {s : Text} {ts us : List Token} (h : Reads s ts) (halike : Alike ts us) :
    Reads s us := by
  intro last
  obtain ⟨vs, hscan, h'⟩ := h last
  exact ⟨vs, hscan, h'.trans halike⟩

/-- What a step takes can be put in front. -/
theorem Reads.step {c : Char} {cs rest : Text} {first ts : List Token}
    (hstep : ∀ last, step last c cs = .ok (.go first rest)) (h : Reads rest ts) :
    Reads (c :: cs) (first ++ ts) := by
  intro last
  obtain ⟨us, hscan, halike⟩ := h last
  exact ⟨first ++ us, scan_cons (hstep last) hscan, halike.append_left first⟩

/-- A character of plain text can be put in front, though a step may take more with it. -/
theorem Reads.plain {c : Char} {s : Text} {ts : List Token} (hc : isPlain c = true)
    (h : Reads s ts) : Reads (c :: s) (.text [c] :: ts) := by
  intro last
  obtain ⟨us, hscan, halike⟩ := h last
  have hstep := step_plain last (s := s) hc
  -- A text that does not begin plainly is left to the next step as it is.
  have halone : s.takeWhile isPlain = [] → s.dropWhile isPlain = s →
      ∃ vs, scan last (c :: s) = .ok (vs, []) ∧ Alike vs (.text [c] :: ts) := by
    intro htake hdrop
    rw [htake, hdrop] at hstep
    exact ⟨_, scan_cons hstep hscan, halike.cons _⟩
  cases s with
  | nil => exact halone rfl rfl
  | cons d s =>
    by_cases hd : isPlain d = true
    · obtain ⟨vs, hrest, rfl⟩ := exists_scan_of_scan_cons (step_plain last hd) hscan
      rw [List.takeWhile_cons_of_pos hd, List.dropWhile_cons_of_pos hd] at hstep
      exact ⟨_, scan_cons hstep hrest,
        (alike_text_append [c] (d :: s.takeWhile isPlain) vs).symm.trans (halike.cons _)⟩
    · exact halone (List.takeWhile_cons_of_neg hd) (List.dropWhile_cons_of_neg hd)

/-- The tree of a text is that of the tokens as which it is read. -/
theorem read_of_reads {s : Text} {ts : List Token} (h : Reads s ts) :
    Tree.read s = .ok (Tree.ofTokens ts) := by
  obtain ⟨us, hscan, halike⟩ := h false
  have htokens : tokens s = .ok us := by
    rw [tokens, hscan]
    dsimp only
    rw [scan]
    exact congrArg Except.ok (List.append_nil us)
  rw [Tree.read, htokens]
  exact congrArg (fun g => Except.ok (Growing.finish g)) (halike Growing.empty)

end TestScribe.Markup
