import TestScribe.Json.Display
import TestScribe.Json.Reader
import TestScribe.Proofs.Dictionary
import TestScribe.Proofs.Markup.References

/-!
# Values that have a text

A value has a text unless there is a whole number of too many digits in it, as a key or as a
value (`hasText_arr_iff`, `hasText_obj_iff`). A document cannot bring such a number: digits
that many are no token of it. Arrays and objects are made of what has been read before, so
nothing in them has too many digits either.

> `hasText_of_read?`: every value that is read from a document has a text.

That a machine which takes one token keeps what holds of all values in it is said for any
property that passes from the parts to the whole (`Machine.All.take`).
-/

namespace TestScribe.Json

open Markup.Reference (isDecimal value value_lt)

/-- The value can be made a text. -/
def HasText (v : Json) : Prop := v.display?.isSome = true

/-! ## Parts and wholes -/

section
variable {v : Json} {vs : List Json} {es : List (Key × Json)}

/-- Whatever has a text has one as a part, too. -/
theorem hasText_iff : v.HasText ↔ v.displayPart?.isSome = true := by
  cases v with
  | str s => exact iff_of_true rfl rfl
  | _ => exact Iff.rfl

theorem isSome_parts?_iff :
    (displayPart?.parts? vs).isSome = true ↔ ∀ v ∈ vs, v.HasText := by
  induction vs with
  | nil => exact iff_of_true rfl nofun
  | cons v vs ih =>
    rw [List.forall_mem_cons, ← ih, hasText_iff, displayPart?.parts?]
    cases v.displayPart? <;> cases displayPart?.parts? vs <;> simp

theorem isSome_pairs?_iff : (displayPart?.pairs? es).isSome = true ↔
    ∀ e ∈ es, e.1.display?.isSome = true ∧ e.2.HasText := by
  induction es with
  | nil => exact iff_of_true rfl nofun
  | cons e es ih =>
    obtain ⟨k, v⟩ := e
    rw [List.forall_mem_cons, ← ih, hasText_iff, displayPart?.pairs?]
    cases k.display? <;> cases v.displayPart? <;> cases displayPart?.pairs? es <;> simp

/-- A list has a text if its items have. -/
theorem hasText_arr_iff : (arr vs).HasText ↔ ∀ v ∈ vs, v.HasText := by
  rw [← isSome_parts?_iff, hasText_iff, displayPart?, Option.isSome_map]

/-- A map has a text if its keys and values have. -/
theorem hasText_obj_iff :
    (obj es).HasText ↔ ∀ e ∈ es, e.1.display?.isSome = true ∧ e.2.HasText := by
  rw [← isSome_pairs?_iff, hasText_iff, displayPart?, Option.isSome_map]

/-- A whole number has a text if its digits are not too many. -/
theorem hasText_int_iff {n : Int} : (int n).HasText ↔ n.natAbs < 10 ^ Number.mostDigits := by
  have hlength : (Text.ofNat n.natAbs).length ≤ Number.mostDigits ↔
      n.natAbs < 10 ^ Number.mostDigits :=
    Nat.length_toDigits_le_iff (by decide) (by decide)
  rw [hasText_iff, displayPart?, Key.display?, wholeText?, ← hlength]
  split
  · rename_i h
    exact iff_of_false Bool.false_ne_true (Nat.not_le.mpr h)
  · rename_i h
    exact iff_of_true rfl (Nat.not_lt.mp h)

end

/-! ## Plain values of a document -/

/-- The digits of a number that is read are decimal digits. -/
theorem isDecimal_of_wholePart? {s whole rest : Text} (h : wholePart? s = some (whole, rest)) :
    ∀ c ∈ whole, isDecimal c = true := by
  unfold wholePart? at h
  split at h
  · cases h
    exact List.forall_mem_singleton.mpr rfl
  · dsimp only at h
    split at h
    · cases h
    · cases h
      exact List.all_eq_true.mp List.all_takeWhile

theorem hasText_of_number? {negative : Bool} {s rest : Text} {v : Json}
    (h : number? negative s = some (v, rest)) : v.HasText := by
  unfold number? at h
  split at h
  · cases h
  · rename_i whole r hwhole
    dsimp only at h
    split at h
    · split at h
      · cases h
      · rename_i hshort
        cases h
        have hvalue : value 10 whole < 10 ^ Number.mostDigits :=
          Nat.lt_of_lt_of_le (value_lt (isDecimal_of_wholePart? hwhole))
            (Nat.pow_le_pow_right (by decide) (Nat.not_lt.mp hshort))
        rw [hasText_int_iff]
        split
        · rwa [Int.natAbs_neg]
        · exact hvalue
    · cases h
      rfl

theorem hasText_of_mem_words {w : Text × Json} (h : w ∈ words) : w.2.HasText := by
  simp only [words, List.mem_cons, List.not_mem_nil, or_false] at h
  rcases h with rfl | rfl | rfl | rfl | rfl | rfl
  all_goals rfl

/-- A value that is a token has a text. -/
theorem hasText_of_token? {s rest : Text} {v : Json} (h : token? s = some (.value v, rest)) :
    v.HasText := by
  unfold token? at h
  split at h
  case h_8 =>
    obtain ⟨t, -, ht⟩ := Option.map_eq_some_iff.mp h
    cases ht
    rfl
  case h_9 =>
    split at h
    · rename_i hword
      obtain ⟨w, hw, hw'⟩ := List.exists_of_findSome?_eq_some hword
      obtain ⟨t, -, ht⟩ := Option.map_eq_some_iff.mp hw'
      cases ht
      cases h
      exact hasText_of_mem_words hw
    · obtain ⟨t, hnumber, ht⟩ := Option.map_eq_some_iff.mp h
      cases ht
      split at hnumber
      all_goals exact hasText_of_number? hnumber
  all_goals cases h

theorem hasText_of_tokensWith {fuel : Nat} : ∀ {s : Text} {ts : List Token},
    tokensWith fuel s = some ts → ∀ v, .value v ∈ ts → v.HasText := by
  induction fuel with
  | zero => exact nofun
  | succ fuel ih =>
    intro s ts h v hv
    rw [tokensWith] at h
    split at h
    · cases h
      cases hv
    · split at h
      · cases h
      · rename_i htoken
        obtain ⟨us, hus, rfl⟩ := Option.map_eq_some_iff.mp h
        rcases List.mem_cons.mp hv with rfl | hv
        · exact hasText_of_token? htoken
        · exact ih hus v hv

/-! ## The machine -/

/-- Something holds of all values in what is around the place. -/
def Around.All (p : Json → Prop) : Around → Prop
  | .inArray items => ∀ v ∈ items, p v
  | .inObject entries _ => ∀ e ∈ entries, p e.2

/-- Something holds of all values that what may stand at the place depends on. -/
def Awaited.All (p : Json → Prop) : Awaited → Prop
  | .value => True
  | .valueOrEnd => True
  | .key entries _ => ∀ e ∈ entries, p e.2
  | .colon entries _ => ∀ e ∈ entries, p e.2
  | .after v => p v

/-- Something holds of all values in the machine. -/
structure Machine.All (p : Json → Prop) (m : Machine) : Prop where
  around : ∀ a ∈ m.around, a.All p
  awaited : m.awaited.All p

/-- What passes from the parts to arrays and objects that are made of them. -/
structure Inherited (p : Json → Prop) : Prop where
  array : ∀ items : List Json, (∀ v ∈ items, p v) → p (.arr items)
  record : ∀ fields : Dictionary Text Json, (∀ e ∈ fields, p e.2) → p (.record fields)

section
variable {p : Json → Prop}

theorem Inherited.reversed (hp : Inherited p) {entries : List (Text × Json)}
    (h : ∀ e ∈ entries, p e.2) : p (.record (Dictionary.ofPairs entries.reverse)) :=
  hp.record _ fun e he => h e (List.mem_reverse.mp (Dictionary.mem_of_mem_ofPairs he))

/-- A token whose value has what all values in the machine have changes nothing of that. -/
theorem Machine.All.take (hp : Inherited p) {m m' : Machine} {t : Token} (hm : m.All p)
    (ht : ∀ v, t = .value v → p v) (h : m.take t = some m') : m'.All p := by
  obtain ⟨around, awaited⟩ := m
  obtain ⟨haround, hawaited⟩ := hm
  unfold Machine.take at h
  split at h
  -- A plain value, and the brackets that open something.
  case h_1 | h_2 =>
    cases h
    exact ⟨haround, ht _ rfl⟩
  case h_3 | h_4 =>
    cases h
    exact ⟨List.forall_mem_cons.mpr ⟨(fun _ hv => nomatch hv), haround⟩, trivial⟩
  case h_5 | h_6 =>
    cases h
    exact ⟨haround, fun _ he => nomatch he⟩
  -- The end of an empty array.
  case h_7 =>
    split at h
    · rename_i items outer hinner
      cases h
      obtain rfl : around = .inArray items :: outer := hinner
      obtain ⟨hitems, houter⟩ := List.forall_mem_cons.mp haround
      exact ⟨houter, hp.array _ fun v hv => hitems v (List.mem_reverse.mp hv)⟩
    · cases h
  -- A key, the end after a key was awaited, and the colon.
  case h_8 entries mayEnd k he =>
    cases h
    obtain rfl : awaited = .key entries mayEnd := he
    exact ⟨haround, hawaited⟩
  case h_9 entries he =>
    cases h
    obtain rfl : awaited = .key entries true := he
    exact ⟨haround, hp.reversed hawaited⟩
  case h_10 entries k he =>
    cases h
    obtain rfl : awaited = .colon entries k := he
    exact ⟨List.forall_mem_cons.mpr ⟨hawaited, haround⟩, trivial⟩
  -- A comma, and the brackets that close something.
  case h_11 v he =>
    obtain rfl : awaited = .after v := he
    split at h
    · rename_i items outer hinner
      cases h
      obtain rfl : around = .inArray items :: outer := hinner
      obtain ⟨hitems, houter⟩ := List.forall_mem_cons.mp haround
      exact ⟨List.forall_mem_cons.mpr ⟨List.forall_mem_cons.mpr ⟨hawaited, hitems⟩, houter⟩,
        trivial⟩
    · rename_i entries k outer hinner
      cases h
      obtain rfl : around = .inObject entries k :: outer := hinner
      obtain ⟨hentries, houter⟩ := List.forall_mem_cons.mp haround
      exact ⟨houter, List.forall_mem_cons.mpr ⟨hawaited, hentries⟩⟩
    · cases h
  case h_12 v he =>
    obtain rfl : awaited = .after v := he
    split at h
    · rename_i items outer hinner
      cases h
      obtain rfl : around = .inArray items :: outer := hinner
      obtain ⟨hitems, houter⟩ := List.forall_mem_cons.mp haround
      have hall : ∀ w ∈ v :: items, p w := List.forall_mem_cons.mpr ⟨hawaited, hitems⟩
      exact ⟨houter, hp.array _ fun w hw => hall w (List.mem_reverse.mp hw)⟩
    · cases h
  case h_13 v he =>
    obtain rfl : awaited = .after v := he
    split at h
    · rename_i entries k outer hinner
      cases h
      obtain rfl : around = .inObject entries k :: outer := hinner
      obtain ⟨hentries, houter⟩ := List.forall_mem_cons.mp haround
      exact ⟨houter, hp.reversed (List.forall_mem_cons.mpr ⟨hawaited, hentries⟩)⟩
    · cases h
  case h_14 => cases h

theorem Machine.All.run (hp : Inherited p) {ts : List Token} : ∀ {m m' : Machine}, m.All p →
    (∀ v, .value v ∈ ts → p v) → m.run ts = some m' → m'.All p := by
  induction ts with
  | nil =>
    intro m m' hm _ h
    cases h
    exact hm
  | cons t ts ih =>
    intro m m' hm hts h
    rw [Machine.run, List.foldlM_cons] at h
    obtain ⟨m₁, hstep, hrest⟩ := Option.bind_eq_some_iff.mp h
    have hm₁ := hm.take hp (fun v hv => hts v (hv ▸ List.mem_cons_self)) hstep
    exact ih hm₁ (fun v hv => hts v (List.mem_cons_of_mem _ hv)) hrest

end

theorem inherited_hasText : Inherited HasText where
  array _ h := hasText_arr_iff.mpr h
  record fields h := by
    rw [record, hasText_obj_iff, List.forall_mem_map]
    exact fun e he => ⟨rfl, h e he⟩

/-- The value is that of a document. -/
def Readable (v : Json) : Prop := ∃ s, read? s = some v

/-- Every value that is read from a document has a text. -/
theorem hasText_of_read? {s : Text} {v : Json} (h : read? s = some v) : v.HasText := by
  unfold read? at h
  split at h
  · rename_i hrun
    cases h
    obtain ⟨ts, hts, hrun⟩ := Option.bind_eq_some_iff.mp hrun
    have hstart : Machine.All HasText ⟨[], .value⟩ := ⟨nofun, trivial⟩
    exact (hstart.run inherited_hasText (hasText_of_tokensWith hts) hrun).awaited
  · cases h

end TestScribe.Json
