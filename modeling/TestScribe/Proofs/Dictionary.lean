import TestScribe.Dictionary

/-!
# Keys of dictionaries

However a dictionary is made, it has each key once (`keys_ofPairs`). Pairs whose keys are
different already are the dictionary that they make (`ofPairs_of_nodup`), so nothing is lost
when such pairs are written down and read again.

Setting a key twice is setting it to the second value (`set_set`), and setting it to the value
that it has changes nothing, not even the order (`set_of_get?`).

Where no key comes twice, looking up is all there is to know about leaving entries out
(`get?_filter_values`) and about setting those of one dictionary over another (`get?_foldl_set`).
-/

namespace TestScribe.Dictionary

variable {κ α : Type}

theorem nodup_keys_filter {d : Dictionary κ α} (h : d.keys.Nodup) (p : κ × α → Bool) :
    (keys (d.filter p)).Nodup :=
  h.sublist (List.filter_sublist.map _)

variable [BEq κ]

section
variable {d : Dictionary κ α} {key : κ} {value : α}

/-- A key keeps the value that it has: nothing changes. -/
theorem set_of_get? (h : d.get? key = some value) : d.set key value = d := by
  induction d with
  | nil => cases h
  | cons e es ih =>
    rw [get?_cons] at h
    rw [set]
    by_cases hkey : key == e.1
    · rw [if_pos hkey] at h ⊢
      obtain rfl := Option.some.inj h
      rfl
    · rw [if_neg hkey] at h ⊢
      rw [ih h]

theorem setDefault_of_get? (h : d.get? key = some value) (default : α) :
    d.setDefault key default = d := by
  rw [setDefault, h]
  rfl

theorem setDefault_of_missing (h : d.get? key = none) (default : α) :
    d.setDefault key default = d.set key default := by
  rw [setDefault, h]
  rfl

variable [EquivBEq κ]

theorem get?_set_self (d : Dictionary κ α) (key : κ) (value : α) :
    (d.set key value).get? key = some value := by
  rw [get?_set, if_pos BEq.rfl]

theorem set_set (d : Dictionary κ α) (key : κ) (value value' : α) :
    (d.set key value).set key value' = d.set key value' := by
  induction d with
  | nil => rw [set, set, set, if_pos BEq.rfl]
  | cons e es ih =>
    rw [set, set]
    by_cases h : key == e.1
    · rw [if_pos h, if_pos h, set, if_pos h]
    · rw [if_neg h, if_neg h, set, if_neg h, ih]

end

variable [LawfulBEq κ]

theorem set_of_not_mem {d : Dictionary κ α} {key : κ} (h : key ∉ d.keys) (value : α) :
    d.set key value = d ++ [(key, value)] := by
  induction d with
  | nil => rfl
  | cons e d ih =>
    rw [keys_cons, List.mem_cons, not_or] at h
    have hne : (key == e.1) = false := beq_eq_false_iff_ne.mpr h.1
    rw [set, hne, ih h.2]
    rfl

/-- Pairs with different keys are the dictionary that they make. -/
theorem ofPairs_of_nodup {ps : Dictionary κ α} (h : ps.keys.Nodup) : ofPairs ps = ps := by
  have hfold : ∀ (ps d : Dictionary κ α), (d.keys ++ ps.keys).Nodup →
      ps.foldl (fun d p => set p.1 p.2 d) d = d ++ ps := by
    intro ps
    induction ps with
    | nil => exact fun d _ => (List.append_nil d).symm
    | cons p ps ih =>
      intro d hd
      rw [keys_cons, List.nodup_append] at hd
      have hp : p.1 ∉ d.keys := fun hmem => hd.2.2 _ hmem _ List.mem_cons_self rfl
      rw [List.foldl_cons, set_of_not_mem hp, ih]
      · rw [List.append_assoc]
        rfl
      · rw [keys, List.map_append, List.append_assoc]
        exact List.nodup_append.mpr hd
  exact hfold ps [] h

/-- A key has a value. -/
theorem isSome_get? {d : Dictionary κ α} {key : κ} (h : key ∈ d.keys) :
    (d.get? key).isSome = true := by
  induction d with
  | nil => cases h
  | cons e es ih =>
    rw [get?_cons]
    by_cases hkey : key = e.1
    · rw [if_pos (beq_iff_eq.mpr hkey)]
      rfl
    · rw [if_neg (fun hbeq => hkey (beq_iff_eq.mp hbeq))]
      exact ih ((List.mem_cons.mp h).resolve_left hkey)

/-- An entry after setting a key was there before, or is the one that was set. -/
theorem mem_set {d : Dictionary κ α} {key : κ} {value : α} {e : κ × α} (h : e ∈ d.set key value) :
    e ∈ d ∨ e = (key, value) := by
  induction d with
  | nil => exact .inr (List.mem_singleton.mp h)
  | cons e' d ih =>
    rw [set] at h
    by_cases hkey : key == e'.1
    · rw [if_pos hkey, ← beq_iff_eq.mp hkey] at h
      rcases List.mem_cons.mp h with rfl | h
      · exact .inr rfl
      · exact .inl (List.mem_cons_of_mem _ h)
    · rw [if_neg hkey] at h
      rcases List.mem_cons.mp h with rfl | h
      · exact .inl List.mem_cons_self
      · exact (ih h).imp (List.mem_cons_of_mem _) id

/-- A dictionary that is made from pairs has no other entries. -/
theorem mem_of_mem_ofPairs {ps : List (κ × α)} {e : κ × α} (h : e ∈ ofPairs ps) : e ∈ ps := by
  have hfold : ∀ (ps : List (κ × α)) (d : Dictionary κ α),
      e ∈ ps.foldl (fun d p => set p.1 p.2 d) d → e ∈ d ∨ e ∈ ps := by
    intro ps
    induction ps with
    | nil => exact fun d hd => .inl hd
    | cons p ps ih =>
      intro d hd
      rw [List.foldl_cons] at hd
      rcases ih _ hd with hset | hlater
      · rcases mem_set hset with hd | rfl
        · exact .inl hd
        · exact .inr List.mem_cons_self
      · exact .inr (List.mem_cons_of_mem _ hlater)
  exact (hfold ps [] h).resolve_left List.not_mem_nil

/-- A value that is found is that of an entry. -/
theorem mem_of_get? {d : Dictionary κ α} {key : κ} {value : α} (h : d.get? key = some value) :
    (key, value) ∈ d := by
  induction d with
  | nil => cases h
  | cons e d ih =>
    rw [get?_cons] at h
    by_cases hkey : key == e.1
    · rw [if_pos hkey] at h
      cases h
      rw [beq_iff_eq.mp hkey]
      exact List.mem_cons_self
    · rw [if_neg hkey] at h
      exact List.mem_cons_of_mem _ (ih h)

theorem nodup_keys_set {d : Dictionary κ α} (h : d.keys.Nodup) (key : κ) (value : α) :
    (d.set key value).keys.Nodup := by
  rw [keys_set]
  split
  · exact h
  · rename_i hkey
    rw [List.nodup_append]
    refine ⟨h, List.pairwise_singleton _ _, fun a ha b hb hab => hkey ?_⟩
    rw [List.contains_iff_mem, ← List.mem_singleton.mp hb, ← hab]
    exact ha

/-- A dictionary that is made from pairs has each key once, and no others. -/
theorem keys_ofPairs (ps : List (κ × α)) :
    (ofPairs ps).keys.Nodup ∧ ∀ key ∈ (ofPairs ps).keys, key ∈ ps.map Prod.fst := by
  have hfold : ∀ (ps : List (κ × α)) (d : Dictionary κ α), d.keys.Nodup →
      (ps.foldl (fun d p => set p.1 p.2 d) d).keys.Nodup ∧
        ∀ key ∈ (ps.foldl (fun d p => set p.1 p.2 d) d).keys,
          key ∈ d.keys ∨ key ∈ ps.map Prod.fst := by
    intro ps
    induction ps with
    | nil => exact fun d hd => ⟨hd, fun key hkey => .inl hkey⟩
    | cons p ps ih =>
      intro d hd
      obtain ⟨hnodup, hmem⟩ := ih (set p.1 p.2 d) (nodup_keys_set hd p.1 p.2)
      refine ⟨hnodup, fun key hkey => ?_⟩
      rw [List.map_cons, List.mem_cons]
      rcases hmem key hkey with h | h
      · rw [keys_set] at h
        split at h
        · exact .inl h
        · rcases List.mem_append.mp h with h | h
          · exact .inl h
          · exact .inr (.inl (List.mem_singleton.mp h))
      · exact .inr (.inr h)
  obtain ⟨hnodup, hmem⟩ := hfold ps [] .nil
  exact ⟨hnodup, fun key hkey => (hmem key hkey).resolve_left List.not_mem_nil⟩

/-! ## Entries that are left out, and entries that go before others -/

/-- A key without an entry has no value. -/
theorem get?_of_not_mem {d : Dictionary κ α} {key : κ} (h : key ∉ d.keys) : d.get? key = none := by
  induction d with
  | nil => rfl
  | cons e d ih =>
    rw [keys_cons, List.mem_cons, not_or] at h
    rw [get?_cons, if_neg (fun hkey => h.1 (beq_iff_eq.mp hkey)), ih h.2]

/-- Leaving out keys leaves the values of the others. -/
theorem get?_filter_keys (d : Dictionary κ α) (p : κ → Bool) (key : κ) :
    get? (d.filter fun e => p e.1) key = if p key then d.get? key else none := by
  induction d with
  | nil => exact (ite_self none).symm
  | cons e d ih =>
    rw [List.filter_cons, get?_cons]
    by_cases hkey : key == e.1
    · rw [if_pos hkey, beq_iff_eq.mp hkey]
      by_cases hp : p e.1
      · rw [if_pos hp, if_pos hp, get?_cons, if_pos BEq.rfl]
      · rw [if_neg hp, if_neg hp, ← beq_iff_eq.mp hkey, ih, beq_iff_eq.mp hkey, if_neg hp]
    · rw [if_neg hkey, ← ih]
      split
      · rw [get?_cons, if_neg hkey]
      · rfl

/-- Leaving out values leaves the others, where no key comes twice. -/
theorem get?_filter_values {d : Dictionary κ α} (h : d.keys.Nodup) (p : α → Bool) (key : κ) :
    get? (d.filter fun e => p e.2) key = (d.get? key).filter p := by
  induction d with
  | nil => rfl
  | cons e d ih =>
    rw [keys_cons, List.nodup_cons] at h
    rw [List.filter_cons, get?_cons]
    by_cases hkey : key == e.1
    · rw [if_pos hkey, Option.filter_some]
      split
      · rw [get?_cons, if_pos hkey]
      · rw [ih h.2, get?_of_not_mem (beq_iff_eq.mp hkey ▸ h.1), Option.filter_none]
    · rw [if_neg hkey, ← ih h.2]
      split
      · rw [get?_cons, if_neg hkey]
      · rfl

/-- Where entries are set one after the other, they go before what was there. -/
theorem get?_foldl_set {es : Dictionary κ α} (h : es.keys.Nodup) (d : Dictionary κ α) (key : κ) :
    get? (es.foldl (fun d e => d.set e.1 e.2) d) key = (es.get? key).or (d.get? key) := by
  induction es generalizing d with
  | nil => rfl
  | cons e es ih =>
    rw [keys_cons, List.nodup_cons] at h
    rw [List.foldl_cons, ih h.2, get?_set, get?_cons]
    by_cases hkey : key == e.1
    · rw [if_pos hkey, if_pos hkey, get?_of_not_mem (beq_iff_eq.mp hkey ▸ h.1)]
      rfl
    · rw [if_neg hkey, if_neg hkey]

end TestScribe.Dictionary
