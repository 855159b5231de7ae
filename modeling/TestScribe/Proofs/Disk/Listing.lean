import Mathlib.Data.List.Nodup
import TestScribe.Proofs.Disk.Making

/-!
# What a directory lists

On a proper disk no place is taken twice, and the names are names that a file can have. What
is at a place is then the one entry with this place (`at?_eq_some_iff`), in whatever order the
disk keeps its entries (`SameContents.of_perm`). A directory lists exactly what is at the
places in it, each name once (`mem_listing_iff`, `nodup_listing`).

Making directories leaves a proper disk proper (`Proper.makeDirectories`).
-/

namespace TestScribe.Disk

/-- A name that a file or a directory can have. -/
structure IsName (n : Text) : Prop where
  not_above : n ≠ aboveName
  no_nul : '\x00' ∉ n
  short : (Utf8.encode n).length ≤ longestFileName

instance (n : Text) : Decidable (IsName n) :=
  decidable_of_iff
    (n ≠ aboveName ∧ '\x00' ∉ n ∧ (Utf8.encode n).length ≤ longestFileName)
    ⟨fun h => ⟨h.1, h.2.1, h.2.2⟩, fun h => ⟨h.not_above, h.no_nul, h.short⟩⟩

/-- A disk as a file system can be: no place is taken twice, and the names, those of the
current directory `here` too, are names that a file can have. -/
structure Proper (d : Disk) (here : Place) : Prop where
  once : (d.map Prod.fst).Nodup
  named : ∀ x ∈ d, ∀ n ∈ x.1, IsName n
  here_named : ∀ n ∈ here, IsName n

/-- A disk that is one of a file system, seen from the current directory. -/
structure ProperDisk (here : Place) where
  disk : Disk
  proper : disk.Proper here

/-! ## Entries and places -/

section
variable {d e : Disk} {here place : Place} {n : Text} {x : Entry}

/-- What is at a place is the entry with this place. -/
theorem at?_eq_some_iff (h : (d.map Prod.fst).Nodup) (hroot : place ≠ []) :
    d.at? place = some x ↔ (place, x) ∈ d := by
  rw [at?, if_neg hroot]
  induction d with
  | nil => simp
  | cons y ys ih =>
    obtain ⟨p, y⟩ := y
    rw [List.map_cons, List.nodup_cons] at h
    rw [List.lookup_cons, List.mem_cons]
    by_cases hp : place = p
    · subst hp
      have hrest : (place, x) ∉ ys := fun hx => h.1 (List.mem_map.mpr ⟨_, hx, rfl⟩)
      simp [hrest, eq_comm]
    · have hbeq : (place == p) = false := by simpa using hp
      rw [hbeq, ih h.2]
      simp [hp]

/-- The order of the entries makes no difference to what is at a place. -/
theorem SameContents.of_perm (h : (d.map Prod.fst).Nodup) (hperm : e.Perm d) :
    SameContents d e := by
  intro p
  by_cases hroot : p = []
  · rw [hroot, at?_root, at?_root]
  · have h' : (e.map Prod.fst).Nodup := (hperm.map Prod.fst).nodup_iff.mpr h
    refine Option.ext fun x => ?_
    rw [at?_eq_some_iff h' hroot, at?_eq_some_iff h hroot, hperm.mem_iff]

theorem Proper.of_perm (hd : d.Proper here) (hperm : e.Perm d) : e.Proper here :=
  ⟨(hperm.map Prod.fst).nodup_iff.mpr hd.once, fun x hx => hd.named x (hperm.mem_iff.mp hx),
    hd.here_named⟩

/-! ## Lists of names -/

theorem mem_listing : (n, x) ∈ d.listing place ↔ (n :: place, x) ∈ d := by
  rw [listing, List.mem_filterMap]
  constructor
  · rintro ⟨⟨p, y⟩, hy, hsome⟩
    dsimp only at hsome
    split at hsome
    · rename_i m above
      split at hsome
      · rename_i habove
        cases hsome
        exact habove ▸ hy
      · cases hsome
    · cases hsome
  · exact fun h => ⟨_, h, if_pos rfl⟩

/-- A directory lists what is at the places in it. -/
theorem mem_listing_iff (h : (d.map Prod.fst).Nodup) :
    (n, x) ∈ d.listing place ↔ d.at? (n :: place) = some x := by
  rw [mem_listing, at?_eq_some_iff h (List.cons_ne_nil _ _)]

theorem listing_sublist (d : Disk) (place : Place) :
    ((d.listing place).map fun e => e.1 :: place).Sublist (d.map Prod.fst) := by
  unfold listing
  induction d with
  | nil => exact .slnil
  | cons y ys ih =>
    rw [List.filterMap_cons, List.map_cons]
    split
    · exact ih.cons _
    · rename_i e he
      split at he
      · rename_i n above hy
        split at he
        · rename_i habove
          cases he
          rw [List.map_cons, hy, habove]
          exact ih.cons_cons _
        · cases he
      · cases he

/-- No name is listed twice. -/
theorem nodup_listing (h : (d.map Prod.fst).Nodup) (place : Place) :
    ((d.listing place).map Prod.fst).Nodup := by
  have hplaces : (((d.listing place).map Prod.fst).map (· :: place)).Nodup := by
    rw [List.map_map]
    exact (listing_sublist d place).nodup h
  exact .of_map _ hplaces

end

/-! ## Adding directories -/

section
variable {d d' : Disk} {here place : Place} {p : Path} {x : Entry}

/-- Where nothing was, an entry is put behind the others. -/
theorem put_of_none (h : d.at? place = none) : d.put place x = d ++ [(place, x)] := by
  rw [at?, if_neg (ne_root_of_none h)] at h
  induction d with
  | nil => rfl
  | cons y ys ih =>
    rw [List.lookup_cons] at h
    split at h
    · cases h
    · rename_i hy
      rw [put, if_neg (fun he => by simp [he] at hy), ih h, List.cons_append]

/-- A path leads through names that a file can have. -/
theorem isName_of_resolve (hhere : ∀ n ∈ here, IsName n) (h : d.resolve here p = .ok place) :
    ∀ n ∈ place, IsName n := by
  have hnul : ∀ n ∈ p.names, '\x00' ∉ n := by
    simpa [Path.hasNul] using hasNul_eq_false_of_resolve h
  exact forall_mem_of_resolve hhere (fun n hn habove hshort => ⟨habove, hnul n hn, hshort⟩) h

theorem Proper.addUnlessThere {r : Option DiskError} (hd : d.Proper here)
    (h : d.addUnlessThere here p = (d', r)) : d'.Proper here := by
  rcases addUnlessThere_cases h with ⟨q, hq, hnone, rfl, -⟩ | ⟨rfl, -⟩
  · have hfree : q ∉ d.map Prod.fst := by
      intro hm
      obtain ⟨⟨q', y⟩, hy, rfl⟩ := List.mem_map.mp hm
      rw [(at?_eq_some_iff hd.once (ne_root_of_none hnone)).mpr hy] at hnone
      cases hnone
    rw [put_of_none hnone]
    refine ⟨?_, ?_, hd.here_named⟩
    · rw [List.map_append, List.nodup_append_comm]
      exact List.nodup_cons.mpr ⟨hfree, hd.once⟩
    · exact List.forall_mem_append.mpr ⟨hd.named,
        List.forall_mem_singleton.mpr (isName_of_resolve hd.here_named hq)⟩
  · exact hd

theorem Proper.makeDirectories {r : Option DiskError} (hd : d.Proper here)
    (h : d.makeDirectories here p = (d', r)) : d'.Proper here :=
  @ensureDirectory_keeps here p.anchor (fun e => e.Proper here)
    (fun hadd hd => hd.addUnlessThere hadd) _ d d' r h hd

end

end TestScribe.Disk
