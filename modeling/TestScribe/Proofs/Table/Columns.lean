import Mathlib.Data.List.GetD
import Mathlib.Data.List.Nodup
import Mathlib.Data.List.Perm.Subperm
import TestScribe.Table.Header

/-!
# The names of the columns are different

A header may leave columns without a name and repeat names; the names that it gives to the
columns are different all the same:

> `nodup_columnNames`: no two columns have the same name.

One column after the other settles its name. What is kept is that the settled ones have
different names and that each of these names has been asked for (`Settled`). So a column
whose name nobody has asked for can keep it; any other one gets a number, and a number that
gives a name which nobody has is there to be found, because there are more numbers to try
than names (`numbered_freeNumber_not_mem`).

Where the header gives different names to begin with, nobody ever asks for a name twice:

> `columnNames_of_nodup`: different names that are not empty are the names of the columns.
-/

namespace TestScribe.Table

/-! ## Numbers behind a name -/

theorem ofNat_injective {a b : Nat} (h : Text.ofNat a = Text.ofNat b) : a = b := by
  have hvalue : ∀ n, Nat.ofDigitChars 10 (Text.ofNat n) 0 = n := fun n =>
    Nat.ofDigitChars_ten_toDigits
  rw [← hvalue a, h, hvalue b]

theorem numbered_injective (name : Text) : Function.Injective (numbered name) := fun _ _ h =>
  ofNat_injective (List.cons.inj (List.append_cancel_left h)).2

/-- The number that is found gives a name which nobody has. -/
theorem numbered_freeNumber_not_mem (names : List Text) (name : Text) (k : Nat) :
    numbered name (freeNumber names name k) ∉ names := by
  unfold freeNumber
  cases hfound : (List.range' k (names.length + 1)).find? fun i =>
      !names.contains (numbered name i) with
  | some i => simpa using List.find?_some hfound
  | none =>
    -- All numbered names would be taken, and there are more of them than names.
    have htaken : (List.range' k (names.length + 1)).map (numbered name) ⊆ names := by
      intro t ht
      obtain ⟨i, hi, rfl⟩ := List.mem_map.mp ht
      simpa using List.find?_eq_none.mp hfound i hi
    have hnodup : ((List.range' k (names.length + 1)).map (numbered name)).Nodup :=
      List.Nodup.map (numbered_injective name) List.nodup_range'
    have hlength := (List.subperm_of_subset hnodup htaken).length_le
    rw [List.length_map, List.length_range'] at hlength
    omega

/-! ## One column -/

namespace Naming

variable {n : Naming} {column : Nat}

/-- How often a name has been asked for. -/
def timesAsked (n : Naming) (name : Text) : Nat := (n.asked.get? name).getD 0

/-- The name of a column so far. -/
def nameOf (n : Naming) (column : Nat) : Text := n.names.getD column []

/-- A column keeps a name that nobody has asked for. -/
theorem settle_of_unasked (h : n.timesAsked (n.nameOf column) = 0) :
    n.settle column = { n with asked := n.asked.set (n.nameOf column) 1 } := by
  unfold settle
  dsimp only
  rw [show (n.asked.get? (n.names.getD column [])).getD 0 = 0 from h]
  rfl

/-- A column whose name has been asked for gets a name that nobody has. -/
theorem settle_of_asked (h : n.timesAsked (n.nameOf column) ≠ 0) :
    ∃ chosen k, chosen ∉ n.names ∧ n.settle column =
      { names := n.names.set column chosen
        asked := (n.asked.set (n.nameOf column) (k + 1)).set chosen 1 } := by
  obtain ⟨k, hk⟩ := Nat.exists_eq_succ_of_ne_zero h
  refine ⟨_, freeNumber n.names (n.nameOf column) (k + 1),
    numbered_freeNumber_not_mem n.names (n.nameOf column) (k + 1), ?_⟩
  unfold settle
  dsimp only
  rw [show (n.asked.get? (n.names.getD column [])).getD 0 = k + 1 from hk]
  rfl

theorem length_settle (n : Naming) (column : Nat) :
    (n.settle column).names.length = n.names.length := by
  by_cases h : n.timesAsked (n.nameOf column) = 0
  · rw [settle_of_unasked h]
  · obtain ⟨chosen, k, -, hsettle⟩ := settle_of_asked h
    rw [hsettle, List.length_set]

theorem nameOf_mem {i : Nat} (h : i < n.names.length) : n.nameOf i ∈ n.names := by
  rw [nameOf, List.getD_eq_getElem _ _ h]
  exact List.getElem_mem h

/-- The other columns have the names that they had. -/
theorem nameOf_settle_of_ne {i : Nat} (h : i ≠ column) :
    (n.settle column).nameOf i = n.nameOf i := by
  by_cases hasked : n.timesAsked (n.nameOf column) = 0
  · rw [settle_of_unasked hasked]
    rfl
  · obtain ⟨chosen, k, -, hsettle⟩ := settle_of_asked hasked
    rw [hsettle, nameOf, List.getD_eq_getElem?_getD, List.getElem?_set_ne h.symm,
      ← List.getD_eq_getElem?_getD]
    rfl

/-- A name that has been asked for stays so. -/
theorem timesAsked_settle {name : Text} (h : n.timesAsked name ≠ 0) :
    (n.settle column).timesAsked name ≠ 0 := by
  by_cases hasked : n.timesAsked (n.nameOf column) = 0
  · rw [settle_of_unasked hasked, timesAsked, Dictionary.get?_set]
    split
    · exact Nat.one_ne_zero
    · exact h
  · obtain ⟨chosen, k, -, hsettle⟩ := settle_of_asked hasked
    rw [hsettle, timesAsked, Dictionary.get?_set, Dictionary.get?_set]
    split
    · exact Nat.one_ne_zero
    · split
      · exact Nat.succ_ne_zero k
      · exact h

/-- The name that the column has now has been asked for. Nobody had it whose own name had
been asked for. -/
theorem nameOf_settle (h : column < n.names.length) :
    (n.settle column).timesAsked ((n.settle column).nameOf column) ≠ 0 ∧
      ∀ i < n.names.length, n.timesAsked (n.nameOf i) ≠ 0 →
        n.nameOf i ≠ (n.settle column).nameOf column := by
  by_cases hasked : n.timesAsked (n.nameOf column) = 0
  · have hname : (n.settle column).nameOf column = n.nameOf column := by
      rw [settle_of_unasked hasked]
      rfl
    rw [hname]
    refine ⟨?_, fun i _ hi he => hi (he ▸ hasked)⟩
    rw [settle_of_unasked hasked, timesAsked, Dictionary.get?_set, if_pos (beq_iff_eq.mpr rfl)]
    exact Nat.one_ne_zero
  · obtain ⟨chosen, k, hchosen, hsettle⟩ := settle_of_asked hasked
    have hname : (n.settle column).nameOf column = chosen := by
      rw [hsettle, nameOf, List.getD_eq_getElem?_getD, List.getElem?_set_self h, Option.getD_some]
    rw [hname]
    refine ⟨?_, fun i hi _ he => hchosen (he ▸ nameOf_mem hi)⟩
    rw [hsettle, timesAsked, Dictionary.get?_set, if_pos (beq_iff_eq.mpr rfl)]
    exact Nat.one_ne_zero

/-! ## All columns -/

theorem length_foldl_settle (columns : List Nat) : ∀ n : Naming,
    (columns.foldl settle n).names.length = n.names.length := by
  induction columns with
  | nil => exact fun n => rfl
  | cons column columns ih =>
    intro n
    rw [List.foldl_cons, ih, length_settle]

/-- The columns that are done have different names, and each of these has been asked for. -/
structure Settled (n : Naming) (done : List Nat) : Prop where
  within : ∀ i ∈ done, i < n.names.length
  asked : ∀ i ∈ done, n.timesAsked (n.nameOf i) ≠ 0
  apart : ∀ i ∈ done, ∀ j ∈ done, n.nameOf i = n.nameOf j → i = j

/-- One more column is done. -/
theorem Settled.settle {done : List Nat} (h : Settled n done)
    (hcolumn : column < n.names.length) (hnew : column ∉ done) :
    Settled (n.settle column) (column :: done) := by
  obtain ⟨hasked, hfresh⟩ := nameOf_settle hcolumn
  have hkept : ∀ i ∈ done, (n.settle column).nameOf i = n.nameOf i := fun i hi =>
    nameOf_settle_of_ne fun he => hnew (he ▸ hi)
  have hfree : ∀ i ∈ done, (n.settle column).nameOf i ≠ (n.settle column).nameOf column :=
    fun i hi => hkept i hi ▸ hfresh i (h.within i hi) (h.asked i hi)
  constructor
  case within =>
    rw [length_settle]
    exact List.forall_mem_cons.mpr ⟨hcolumn, h.within⟩
  case asked =>
    refine List.forall_mem_cons.mpr ⟨hasked, fun i hi => ?_⟩
    rw [hkept i hi]
    exact timesAsked_settle (h.asked i hi)
  case apart =>
    intro i hi j hj hij
    rcases List.mem_cons.mp hi with hi | hi
    · rcases List.mem_cons.mp hj with hj | hj
      · rw [hi, hj]
      · exact absurd (hi ▸ hij.symm) (hfree j hj)
    · rcases List.mem_cons.mp hj with hj | hj
      · exact absurd (hj ▸ hij) (hfree i hi)
      · rw [hkept i hi, hkept j hj] at hij
        exact h.apart i hi j hj hij

/-- All the columns of a list are done, one after the other. -/
theorem Settled.foldl (columns : List Nat) : ∀ {n : Naming} {done : List Nat}, Settled n done →
    (∀ i ∈ columns, i < n.names.length) → (columns.reverse ++ done).Nodup →
    Settled (columns.foldl Naming.settle n) (columns.reverse ++ done) := by
  induction columns with
  | nil => exact fun h _ _ => h
  | cons column columns ih =>
    intro n done h hwithin hnodup
    rw [List.reverse_cons, List.append_assoc] at hnodup ⊢
    have hnew : column ∉ done := (List.nodup_cons.mp (List.nodup_append.mp hnodup).2.1).1
    refine ih (h.settle (hwithin column List.mem_cons_self) hnew) (fun i hi => ?_) hnodup
    rw [length_settle]
    exact hwithin i (List.mem_cons_of_mem _ hi)

end Naming

theorem perm_choosingOrder (header : List Text) :
    (choosingOrder header).Perm (List.range header.length) := by
  unfold choosingOrder
  have hnot : (fun i => decide (header.getD i [] = [])) =
      fun i => !decide (header.getD i [] ≠ []) := by
    funext i
    simp
  rw [hnot]
  exact List.filter_append_perm _ _

/-- The names that the columns have before they settle them. -/
def askedNames (header : List Text) : List Text :=
  header.zipIdx.map fun c => if c.1 = [] then unnamed c.2 else c.1

theorem columnNames_eq (header : List Text) : columnNames header =
    ((choosingOrder header).foldl Naming.settle ⟨askedNames header, []⟩).names := rfl

theorem length_askedNames (header : List Text) : (askedNames header).length = header.length := by
  rw [askedNames, List.length_map, List.length_zipIdx]

/-- Every column has a name. -/
theorem length_columnNames (header : List Text) :
    (columnNames header).length = header.length := by
  rw [columnNames_eq, Naming.length_foldl_settle, length_askedNames]

/-- No two columns have the same name. -/
theorem nodup_columnNames (header : List Text) : (columnNames header).Nodup := by
  have hperm := perm_choosingOrder header
  have hmem : ∀ i, i ∈ choosingOrder header ↔ i < header.length := fun i =>
    hperm.mem_iff.trans List.mem_range
  have hstart : Naming.Settled ⟨askedNames header, []⟩ [] := ⟨nofun, nofun, nofun⟩
  have hsettled := hstart.foldl (choosingOrder header)
    (fun i hi => (length_askedNames header).symm ▸ (hmem i).mp hi)
    (by rw [List.append_nil, List.nodup_reverse]; exact hperm.nodup_iff.mpr List.nodup_range)
  rw [List.append_nil] at hsettled
  refine List.nodup_iff_injective_getElem.mpr fun ⟨i, hi⟩ ⟨j, hj⟩ hij => Fin.ext ?_
  have hdone : ∀ k, k < (columnNames header).length → k ∈ (choosingOrder header).reverse := by
    intro k hk
    rw [List.mem_reverse, hmem, ← length_columnNames]
    exact hk
  refine hsettled.apart i (hdone i hi) j (hdone j hj) ?_
  rw [Naming.nameOf, Naming.nameOf, ← columnNames_eq, List.getD_eq_getElem _ _ hi,
    List.getD_eq_getElem _ _ hj]
  exact hij

/-! ## Headers that name every column differently -/

/-- No column that is left has a name which has been asked for. -/
def Unasked (header : List Text) (asked : Dictionary Text Nat) (columns : List Nat) : Prop :=
  ∀ i ∈ columns, i < header.length ∧ Naming.timesAsked ⟨header, asked⟩ (header.getD i []) = 0

/-- Where all names are different, no column changes its name. -/
theorem foldl_settle_of_nodup {header : List Text} (hnodup : header.Nodup) (columns : List Nat) :
    ∀ asked, columns.Nodup → Unasked header asked columns →
      (columns.foldl Naming.settle ⟨header, asked⟩).names = header := by
  induction columns with
  | nil => exact fun asked _ _ => rfl
  | cons column columns ih =>
    intro asked hcolumns hunasked
    obtain ⟨hcolumn, hrest⟩ := List.nodup_cons.mp hcolumns
    obtain ⟨hwithin, hasked⟩ := hunasked column List.mem_cons_self
    rw [List.foldl_cons, Naming.settle_of_unasked hasked]
    refine ih _ hrest fun i hi => ?_
    obtain ⟨hi', hzero⟩ := hunasked i (List.mem_cons_of_mem _ hi)
    -- Only the name of `column` has been asked for, which is another one.
    have hne : header.getD i [] ≠ Naming.nameOf ⟨header, asked⟩ column := by
      rw [Naming.nameOf, List.getD_eq_getElem _ _ hi', List.getD_eq_getElem _ _ hwithin]
      intro he
      exact hcolumn ((List.Nodup.getElem_inj_iff hnodup).mp he ▸ hi)
    refine ⟨hi', ?_⟩
    rw [Naming.timesAsked, Dictionary.get?_set, if_neg fun hbeq => hne (beq_iff_eq.mp hbeq)]
    exact hzero

/-- Different names that are not empty are the names of the columns. -/
theorem columnNames_of_nodup {header : List Text} (hnodup : header.Nodup) (hnamed : [] ∉ header) :
    columnNames header = header := by
  have hnames : askedNames header = header := by
    have hkeep : ∀ c ∈ header.zipIdx, (if c.1 = [] then unnamed c.2 else c.1) = c.1 := by
      intro c hc
      have hmem : c.1 ∈ header := List.fst_mem_of_mem_zipIdx hc
      exact if_neg fun (he : c.1 = []) => hnamed (he ▸ hmem)
    rw [askedNames, List.map_congr_left hkeep]
    exact List.zipIdx_map_fst 0 header
  have hperm := perm_choosingOrder header
  rw [columnNames_eq, hnames]
  refine foldl_settle_of_nodup hnodup _ [] (hperm.nodup_iff.mpr List.nodup_range) fun i hi => ?_
  exact ⟨List.mem_range.mp (hperm.mem_iff.mp hi), rfl⟩

end TestScribe.Table
