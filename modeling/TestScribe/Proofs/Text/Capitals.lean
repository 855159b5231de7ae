import Mathlib.Data.Nat.Bitwise
import TestScribe.Text.Capital

/-!
# Capitals have no capitals

A letter stands in the tables with the code points of its capital form, which may be several. What
these code points are made into by the tables again is the question whether a text in capitals is
done. It is, since no code point of a capital form is that of a letter with one:

> `upperCase_of_mem_upperCase`: every character of a capital form is its own capital form.

The tables hold some fourteen hundred letters, so two lists of code points are compared by way of
the bits of two numbers: lists that have a code point in common have a bit in common.
-/

namespace TestScribe

/-! ## Code points as bits -/

/-- The number whose bits are given by the list. -/
def bitsOf (ns : List Nat) : Nat := ns.foldr (fun n bits => bits ||| 1 <<< n) 0

theorem testBit_bitsOf (ns : List Nat) (n : Nat) : (bitsOf ns).testBit n = true ↔ n ∈ ns := by
  induction ns with
  | nil => simp [bitsOf]
  | cons m ns ih =>
    rw [bitsOf, List.foldr_cons, ← bitsOf, Nat.testBit_or, Bool.or_eq_true, ih,
      Nat.one_shiftLeft, Nat.testBit_two_pow, decide_eq_true_eq, List.mem_cons, or_comm, eq_comm]

/-- Lists without a bit in common are disjoint. -/
theorem not_mem_of_bitsOf {ns ms : List Nat} (h : bitsOf ns &&& bitsOf ms = 0) {n : Nat}
    (hn : n ∈ ns) : n ∉ ms := by
  intro hm
  have hbit : (bitsOf ns &&& bitsOf ms).testBit n = true := by
    rw [Nat.testBit_and, (testBit_bitsOf ns n).mpr hn, (testBit_bitsOf ms n).mpr hm]
    rfl
  rw [h, Nat.zero_testBit] at hbit
  cases hbit

theorem toNat_charOfNat {n : Nat} (h : n.isValidChar) : (Char.ofNat n).toNat = n := by
  rw [Char.ofNat, dif_pos h]
  rfl

/-! ## The tables -/

/-- The places of a run, counted from its first letter. -/
def CaseRun.places (r : CaseRun) : List Nat :=
  (List.range (r.last - r.first + 1)).filter (· % r.step = 0)

/-- The code points of the letters that have a capital form. -/
def casedCodes : List Nat :=
  longCapitals.map Prod.fst ++ caseRuns.flatMap fun r => r.places.map (r.first + ·)

/-- The code points that capital forms are made of. -/
def capitalCodes : List Nat :=
  longCapitals.flatMap Prod.snd ++ caseRuns.flatMap fun r => r.places.map (r.target + ·)

theorem isValidChar_of_mem_capitalCodes : ∀ n ∈ capitalCodes, n.isValidChar := by decide +kernel

theorem not_mem_casedCodes {n : Nat} (h : n ∈ capitalCodes) : n ∉ casedCodes :=
  not_mem_of_bitsOf (by decide +kernel) h

/-- What a run gives for a letter is found at the letter's place on it. -/
theorem CaseRun.exists_place {r : CaseRun} {n m : Nat} (h : r.capital? n = some m) :
    ∃ k ∈ r.places, n = r.first + k ∧ m = r.target + k := by
  unfold capital? at h
  split at h
  · rename_i hn
    obtain ⟨hfirst, hlast, hstep⟩ := hn
    refine ⟨n - r.first, ?_, by omega, (Option.some.inj h).symm⟩
    rw [places, List.mem_filter, List.mem_range, decide_eq_true_eq]
    exact ⟨by omega, hstep⟩
  · cases h

/-! ## Capital forms -/

/-- A character that is no letter of the tables is its own capital form. -/
theorem upperCase_of_not_mem {c : Char} (h : c.toNat ∉ casedCodes) : upperCase c = [c] := by
  rw [casedCodes, List.mem_append, not_or] at h
  have hlong : longCapitals.lookup c.toNat = none := by
    rw [List.lookup_eq_none_iff]
    intro e he
    rw [bne_iff_ne]
    exact fun heq => h.1 (List.mem_map.mpr ⟨e, he, heq.symm⟩)
  have hruns : caseRuns.findSome? (·.capital? c.toNat) = none := by
    rw [List.findSome?_eq_none_iff]
    intro r hr
    cases hm : r.capital? c.toNat with
    | none => rfl
    | some m =>
      obtain ⟨k, hk, hfirst, -⟩ := CaseRun.exists_place hm
      exact absurd (List.mem_flatMap.mpr ⟨r, hr, List.mem_map.mpr ⟨k, hk, hfirst.symm⟩⟩) h.2
  rw [upperCase, hlong, hruns]

/-- A capital form is the character itself or is made of the code points of the tables. -/
theorem upperCase_cases (c : Char) : upperCase c = [c] ∨
    ∃ n ns, upperCase c = (n :: ns).map Char.ofNat ∧ ∀ m ∈ n :: ns, m ∈ capitalCodes := by
  cases hlong : longCapitals.lookup c.toNat with
  | some codes =>
    have hne : ∀ e ∈ longCapitals, e.2 ≠ [] := by decide +kernel
    obtain ⟨before, behind, hlist, -⟩ := List.lookup_eq_some_iff.mp hlong
    have he : (c.toNat, codes) ∈ longCapitals := by
      rw [hlist]
      exact List.mem_append_right _ List.mem_cons_self
    obtain ⟨n, ns, rfl⟩ := List.exists_cons_of_ne_nil (hne _ he)
    refine .inr ⟨n, ns, by rw [upperCase, hlong], fun m hm => ?_⟩
    exact List.mem_append_left _ (List.mem_flatMap.mpr ⟨_, he, hm⟩)
  | none =>
    cases hruns : caseRuns.findSome? (·.capital? c.toNat) with
    | some m =>
      obtain ⟨r, hr, hm⟩ := List.exists_of_findSome?_eq_some hruns
      obtain ⟨k, hk, -, rfl⟩ := CaseRun.exists_place hm
      refine .inr ⟨_, [], by rw [upperCase, hlong, hruns]; rfl, fun m hm => ?_⟩
      rw [List.mem_singleton.mp hm]
      exact List.mem_append_right _ (List.mem_flatMap.mpr ⟨r, hr, List.mem_map.mpr ⟨k, hk, rfl⟩⟩)
    | none => exact .inl (by rw [upperCase, hlong, hruns])

theorem upperCase_ne_nil (c : Char) : upperCase c ≠ [] := by
  rcases upperCase_cases c with h | ⟨n, ns, h, -⟩ <;> rw [h] <;> simp

/-- A character of a capital form is a letter that the tables leave as it is, or its code point is
one of the tables. -/
theorem of_mem_upperCase {c d : Char} (h : d ∈ upperCase c) :
    d = c ∧ upperCase c = [c] ∨ d.toNat ∈ capitalCodes := by
  rcases upperCase_cases c with hc | ⟨n, ns, hc, hcodes⟩
  · rw [hc] at h
    exact .inl ⟨List.mem_singleton.mp h, hc⟩
  · rw [hc] at h
    obtain ⟨m, hm, rfl⟩ := List.mem_map.mp h
    have hm' := hcodes m hm
    rw [toNat_charOfNat (isValidChar_of_mem_capitalCodes m hm')]
    exact .inr hm'

/-- Every character of a capital form is its own capital form. -/
theorem upperCase_of_mem_upperCase {c d : Char} (h : d ∈ upperCase c) : upperCase d = [d] := by
  rcases of_mem_upperCase h with ⟨rfl, hself⟩ | hcode
  · exact hself
  · exact upperCase_of_not_mem (not_mem_casedCodes hcode)

/-- A text that begins with a capital form has its capital already. -/
theorem Text.capitalize_upperCase (c : Char) (s : Text) :
    capitalize (upperCase c ++ s) = upperCase c ++ s := by
  obtain ⟨d, ds, hc⟩ := List.exists_cons_of_ne_nil (upperCase_ne_nil c)
  have hd : upperCase d = [d] := upperCase_of_mem_upperCase (hc ▸ List.mem_cons_self)
  rw [hc, List.cons_append, capitalize, hd]
  rfl

end TestScribe
