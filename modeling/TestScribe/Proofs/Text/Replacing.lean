import TestScribe.Text.Basic

/-!
# Replacing piece by piece

Replacement reads a text from left to right, so it goes through a text piece by piece as
long as no occurrence starts in one piece and ends in the next. None does if the next piece
begins with a character that is in no pattern but at its beginning (`replace_append_cons`).

Some pieces hold no occurrence. A piece without the first character of the pattern is passed
over (`replace_append_of_not_mem`), and so is a piece without one in the middle if what follows
does not lead there (`replace_over`), or without the last one if what comes before it in the
pattern does not stand at the end (`replace_up_to`). And a text in which the first character is
never followed by the second one of the pattern holds no occurrence at all (`replace_eq_self`);
such texts can be put together from such texts (`NeverBefore.append`), which is why this is said
in that way and not as the absence of an occurrence.
-/

namespace TestScribe.Text

/-- An occurrence at the beginning is replaced, and the rest is gone through. -/
theorem replace_append {c : Char} {p : Text} (new s : Text) :
    replace (c :: p) new ((c :: p) ++ s) = new ++ replace (c :: p) new s := by
  rw [List.cons_append, replace]
  have h : afterPrefix? (c :: p) (c :: (p ++ s)) = some s := afterPrefix?_append (c :: p) s
  rw [h]
  simp only [List.drop_left]

/-- Where the pattern does not begin, one character is passed over. -/
theorem replace_cons {old : Text} {c : Char} {s : Text} (new : Text)
    (h : afterPrefix? old (c :: s) = none) :
    replace old new (c :: s) = c :: replace old new s := by
  cases old with
  | nil => cases h
  | cons d old => rw [replace, h]

theorem replace_cons_of_ne {c d : Char} (hd : d ≠ c) (p new s : Text) :
    replace (c :: p) new (d :: s) = d :: replace (c :: p) new s := by
  refine replace_cons new ?_
  rw [afterPrefix?, if_neg (Ne.symm hd)]

/-- A piece without the first character of the pattern is passed over. -/
theorem replace_append_of_not_mem {c : Char} {a : Text} (ha : c ∉ a) (p new s : Text) :
    replace (c :: p) new (a ++ s) = a ++ replace (c :: p) new s := by
  induction a with
  | nil => rfl
  | cons d a ih =>
    have hd : d ≠ c := fun h => ha (h ▸ List.mem_cons_self)
    rw [List.cons_append, replace_cons_of_ne hd, ih fun h => ha (List.mem_cons_of_mem _ h)]
    rfl

/-- One character is replaced wherever it stands. -/
theorem replace_singleton (c : Char) (new s : Text) :
    replace [c] new s = s.flatMap fun d => if d = c then new else [d] := by
  induction s with
  | nil => rw [replace, List.flatMap_nil]
  | cons d s ih =>
    rw [List.flatMap_cons]
    by_cases hd : d = c
    · rw [if_pos hd, hd, ← ih]
      exact replace_append new s
    · rw [if_neg hd, replace_cons_of_ne hd, ih]
      rfl

/-! ## Pieces and what follows them -/

theorem afterPrefix?_append_cons {c : Char} {p : Text} (hc : c ∉ p) (t : Text) : ∀ x : Text,
    afterPrefix? p (x ++ c :: t) = (afterPrefix? p x).map (· ++ c :: t) := by
  induction p with
  | nil => exact fun x => rfl
  | cons d p ih =>
    rw [List.mem_cons, not_or] at hc
    intro x
    cases x with
    | nil => exact if_neg (Ne.symm hc.1)
    | cons e x =>
      rw [List.cons_append, afterPrefix?, afterPrefix?, ih hc.2]
      split
      · rfl
      · rfl

/-- A piece is gone through on its own if what follows begins with a character that is in no
pattern but at its beginning. -/
theorem replace_append_cons {c d : Char} {p : Text} (hc : c ∉ p) (new t x : Text) :
    replace (d :: p) new (x ++ c :: t) =
      replace (d :: p) new x ++ replace (d :: p) new (c :: t) := by
  induction hn : x.length using Nat.strongRecOn generalizing x with
  | ind n ih =>
    cases x with
    | nil => rw [replace, List.nil_append, List.nil_append]
    | cons e x =>
      cases hfound : afterPrefix? (d :: p) (e :: x) with
      | some r =>
        have hlen : r.length < n := by
          have := congrArg List.length (eq_append_of_afterPrefix? hfound)
          rw [hn, List.length_append, List.length_cons] at this
          omega
        rw [eq_append_of_afterPrefix? hfound, List.append_assoc, replace_append, replace_append,
          ih r.length hlen r rfl, List.append_assoc]
      | none =>
        have hnone : afterPrefix? (d :: p) (e :: (x ++ c :: t)) = none := by
          rw [afterPrefix?, afterPrefix?_append_cons hc]
          rw [afterPrefix?] at hfound
          split at hfound
          · rw [if_pos ‹_›, hfound]
            rfl
          · rw [if_neg ‹_›]
        have hlen : x.length < n := by
          rw [← hn, List.length_cons]
          omega
        rw [List.cons_append, replace_cons new hnone, replace_cons new hfound,
          ih x.length hlen x rfl, List.cons_append]

/-- A piece without a character from the middle of the pattern is passed over if what follows
begins with none of those up to there. -/
theorem replace_over {c d y : Char} {p q x : Text} (hx : y ∉ x) (hc : c ∉ p ++ [y]) (new t : Text) :
    replace (d :: (p ++ y :: q)) new (x ++ c :: t) =
      x ++ replace (d :: (p ++ y :: q)) new (c :: t) := by
  have hnone : ∀ {p x : Text}, y ∉ x → c ∉ p ++ [y] →
      afterPrefix? (p ++ y :: q) (x ++ c :: t) = none := by
    intro p
    induction p with
    | nil =>
      intro x hx hc
      have hcy : c ≠ y := fun h => hc (List.mem_singleton.mpr h)
      cases x with
      | nil => exact if_neg (Ne.symm hcy)
      | cons e x =>
        refine if_neg fun h => hx ?_
        rw [h]
        exact List.mem_cons_self
    | cons e p ih =>
      intro x hx hc
      rw [List.cons_append, List.mem_cons, not_or] at hc
      cases x with
      | nil => exact if_neg (Ne.symm hc.1)
      | cons f x =>
        rw [List.cons_append, List.cons_append, afterPrefix?,
          ih (fun h => hx (List.mem_cons_of_mem _ h)) hc.2]
        exact ite_self _
  induction x with
  | nil => rfl
  | cons e x ih =>
    have hx' : y ∉ x := fun h => hx (List.mem_cons_of_mem _ h)
    have hhere : afterPrefix? (d :: (p ++ y :: q)) (e :: (x ++ c :: t)) = none := by
      rw [afterPrefix?, hnone hx' hc]
      exact ite_self _
    rw [List.cons_append, replace_cons new hhere, ih hx']
    rfl

/-- A piece without the last character of the pattern is passed over up to such a character, if
the rest of the pattern does not stand in front of that. -/
theorem replace_up_to {c : Char} {p x : Text} (hp : p ≠ []) (hcp : c ∉ p) (hcx : c ∉ x)
    (hx : ¬ p <:+ x) (new t : Text) :
    replace (p ++ [c]) new (x ++ c :: t) = x ++ replace (p ++ [c]) new (c :: t) := by
  induction x with
  | nil => rfl
  | cons e x ih =>
    have hnone : afterPrefix? (p ++ [c]) (e :: (x ++ c :: t)) = none := by
      cases hfound : afterPrefix? (p ++ [c]) (e :: (x ++ c :: t)) with
      | none => rfl
      | some r =>
        -- Both sides are cut at the first such character.
        have heq : (e :: x) ++ c :: t = p ++ c :: r := by
          rw [List.cons_append, eq_append_of_afterPrefix? hfound, List.append_assoc]
          rfl
        have hcut := cutAt?_append hcx t
        rw [heq, cutAt?_append hcp] at hcut
        obtain ⟨rfl, -⟩ := Prod.mk.inj (Option.some.inj hcut)
        exact absurd List.suffix_rfl hx
    rw [List.cons_append, replace_cons new hnone,
      ih (fun h => hcx (List.mem_cons_of_mem _ h)) (fun h => hx (h.trans (List.suffix_cons e x)))]
    rfl

/-- Without an occurrence nothing is replaced. -/
theorem replace_of_not_infix {old s : Text} (h : ¬ old <:+: s) (new : Text) :
    replace old new s = s := by
  induction s with
  | nil => rw [replace]
  | cons d s ih =>
    have hnone : afterPrefix? old (d :: s) = none := by
      cases hfound : afterPrefix? old (d :: s) with
      | none => rfl
      | some r => exact absurd ⟨[], r, (eq_append_of_afterPrefix? hfound).symm⟩ h
    rw [replace_cons new hnone, ih fun hs => h (List.infix_cons hs)]

/-- Without some character of the pattern nothing is replaced. -/
theorem replace_of_not_mem {c : Char} {old s : Text} (hold : c ∈ old) (hs : c ∉ s) (new : Text) :
    replace old new s = s :=
  replace_of_not_infix (fun h => hs (h.subset hold)) new

/-- Nothing is replaced, or the first replacement stands where something of the text stood. -/
theorem replace_cases (d : Char) (p new s : Text) : replace (d :: p) new s = s ∨
    ∃ a u v, s = a ++ u ∧ replace (d :: p) new s = a ++ (new ++ v) := by
  induction s with
  | nil =>
    rw [replace]
    exact .inl rfl
  | cons c s ih =>
    cases hfound : afterPrefix? (d :: p) (c :: s) with
    | some r =>
      refine .inr ⟨[], c :: s, replace (d :: p) new r, rfl, ?_⟩
      rw [eq_append_of_afterPrefix? hfound, replace_append]
      rfl
    | none =>
      rw [replace_cons new hfound]
      rcases ih with h | ⟨a, u, v, hs, h⟩
      · rw [h]
        exact .inl rfl
      · refine .inr ⟨c :: a, u, v, ?_, ?_⟩
        · rw [hs]
          rfl
        · rw [h]
          rfl

/-! ## Texts without a pair -/

/-- The character `c` is always followed by another one, and never by `x`. -/
def NeverBefore (c x : Char) : Text → Prop
  | [] => True
  | [d] => d ≠ c
  | d :: e :: s => (d = c → e ≠ x) ∧ NeverBefore c x (e :: s)

theorem NeverBefore.of_not_mem {c : Char} (x : Char) {s : Text} (h : c ∉ s) :
    NeverBefore c x s := by
  induction s with
  | nil => trivial
  | cons d s ih =>
    have hd : d ≠ c := fun hd => h (hd ▸ List.mem_cons_self)
    have hs := ih fun hs => h (List.mem_cons_of_mem _ hs)
    cases s with
    | nil => exact hd
    | cons e s => exact ⟨fun hdc => absurd hdc hd, hs⟩

theorem NeverBefore.append {c x : Char} {s t : Text} (hs : NeverBefore c x s)
    (ht : NeverBefore c x t) : NeverBefore c x (s ++ t) := by
  induction s with
  | nil => exact ht
  | cons d s ih =>
    cases s with
    | nil =>
      cases t with
      | nil => exact hs
      | cons e t => exact ⟨fun hd => absurd hd hs, ht⟩
    | cons e s => exact ⟨hs.1, ih hs.2⟩

/-- Without the first two characters of the pattern side by side nothing is replaced. -/
theorem replace_eq_self {c x : Char} (p new : Text) {s : Text} (h : NeverBefore c x s) :
    replace (c :: x :: p) new s = s := by
  induction s with
  | nil => rw [replace]
  | cons d s ih =>
    cases s with
    | nil =>
      rw [replace_cons_of_ne h, replace]
    | cons e s =>
      rw [replace_cons, ih h.2]
      by_cases hd : d = c
      · have he : x ≠ e := Ne.symm (h.1 hd)
        rw [afterPrefix?, if_pos hd.symm, afterPrefix?, if_neg he]
      · rw [afterPrefix?, if_neg (Ne.symm hd)]

end TestScribe.Text
