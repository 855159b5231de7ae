import TestScribe.Proofs.Disk.Writing

/-!
# Making directories twice

Making sure of a directory adds what is missing on the way to it and takes no directory
away (`keepsDirectories_of_ensureDirectory`). When it succeeds the directory is there, and
making sure of it again has nothing to do. When it fails it may still have added directories
on the way; the second attempt then comes to the same end by another way:

> `makeDirectories_again`: on the disk that making directories leaves, making them again
> changes nothing, and fails exactly if it failed before.

The errors of the two attempts can differ. The first may stop at a directory above that
cannot be made, and the second, which finds more on the way, at what is in its place.
-/

namespace TestScribe.Disk

/-! ## More directories -/

/-- The directories of the disk `d` are directories of the disk `d'` too. -/
def KeepsDirectories (d d' : Disk) : Prop :=
  ∀ q, d.at? q = some .directory → d'.at? q = some .directory

theorem KeepsDirectories.refl (d : Disk) : KeepsDirectories d d := fun _ h => h

theorem KeepsDirectories.trans {d e f : Disk} (h : KeepsDirectories d e)
    (h' : KeepsDirectories e f) : KeepsDirectories d f := fun q hq => h' q (h q hq)

theorem keepsDirectories_put {d : Disk} {place : Place} (h : d.at? place = none) (e : Entry) :
    KeepsDirectories d (d.put place e) := by
  have hroot : place ≠ [] := ne_root_of_none h
  intro q hq
  have hne : q ≠ place := by
    rintro rfl
    rw [h] at hq
    cases hq
  rw [at?_put d place q e hroot, if_neg hne, hq]

section
variable {d d' : Disk} {here : Place} {p : Path}

theorem locate_of_keepsDirectories (h : KeepsDirectories d d') (ns : List Text) :
    ∀ start place, d.locate start ns = .ok place → d'.locate start ns = .ok place := by
  induction ns with
  | nil => exact fun start place hp => hp
  | cons n ns ih =>
    intro start place hp
    rw [locate_cons_eq_ok] at hp ⊢
    obtain ⟨hdir, hrest⟩ := hp
    refine ⟨h _ hdir, ?_⟩
    by_cases hn : n = aboveName
    · rw [if_pos hn] at hrest ⊢
      exact ih _ _ hrest
    · rw [if_neg hn] at hrest ⊢
      exact ⟨hrest.1, ih _ _ hrest.2⟩

theorem resolve_of_keepsDirectories (h : KeepsDirectories d d') {place : Place}
    (hp : d.resolve here p = .ok place) : d'.resolve here p = .ok place := by
  have hnul := hasNul_eq_false_of_resolve hp
  rw [resolve_eq_locate hnul] at hp ⊢
  exact locate_of_keepsDirectories h _ _ _ hp

/-- There is a directory exactly where the path leads to one. -/
theorem isDirectory_eq_true_iff : d.isDirectory here p = .ok true ↔
    ∃ place, d.resolve here p = .ok place ∧ d.at? place = some .directory := by
  unfold isDirectory ask lookup
  cases hr : d.resolve here p with
  | error e => cases e <;> simp [DiskError.isAbsence]
  | ok place =>
    cases ha : d.at? place with
    | none => simp [ha, DiskError.isAbsence]
    | some e => simp [ha]

theorem isDirectory_of_keepsDirectories (h : KeepsDirectories d d')
    (hp : d.isDirectory here p = .ok true) : d'.isDirectory here p = .ok true := by
  obtain ⟨place, hplace, hdir⟩ := isDirectory_eq_true_iff.mp hp
  exact isDirectory_eq_true_iff.mpr ⟨place, resolve_of_keepsDirectories h hplace, h _ hdir⟩

end

/-! ## Questions that have an answer -/

section
variable {d : Disk} {here : Place} {p : Path}

/-- Where no name is too long, the names lead somewhere or something is absent. -/
theorem isAbsence_of_locate {e : DiskError} (ns : List Text)
    (hshort : ∀ n ∈ ns, (Utf8.encode n).length ≤ longestFileName) :
    ∀ start, d.locate start ns = .error e → DiskError.isAbsence e = true := by
  induction ns with
  | nil => exact fun start h => nomatch h
  | cons n ns ih =>
    have ih' := ih fun m hm => hshort m (List.mem_cons_of_mem _ hm)
    intro start h
    rw [locate] at h
    split at h
    · cases h
      rfl
    · cases h
      rfl
    · split at h
      · exact ih' _ h
      · rw [if_neg (Nat.not_lt.mpr (hshort n List.mem_cons_self))] at h
        exact ih' _ h

/-- Where no name is too long, a question about the path has an answer. -/
theorem exists_ask (hshort : ∀ n ∈ p.names, (Utf8.encode n).length ≤ longestFileName)
    (question : Entry → Bool) : ∃ b, d.ask here p question = .ok b := by
  unfold ask lookup
  cases hr : d.resolve here p with
  | error e =>
    have he : DiskError.isAbsence e = true := by
      rw [resolve] at hr
      split at hr
      · cases hr
        rfl
      · exact isAbsence_of_locate _ hshort _ hr
    exact ⟨false, by simp [he]⟩
  | ok place =>
    cases ha : d.at? place with
    | none => exact ⟨false, by simp [ha, DiskError.isAbsence]⟩
    | some e => exact ⟨question e, by simp [ha]⟩

/-- Where a directory is, something is there. -/
theorem isThere_of_isDirectory (h : d.isDirectory here p = .ok true) :
    d.isThere here p = .ok true := by
  obtain ⟨place, hplace, hdir⟩ := isDirectory_eq_true_iff.mp h
  unfold isThere ask lookup
  rw [hplace]
  dsimp only
  rw [hdir]

end

/-! ## Names in front and at the end -/

theorem locate_append {d : Disk} {place : Place} (ns ms : List Text) :
    ∀ start, d.locate start ns = .ok place →
      d.locate start (ns ++ ms) = d.locate place ms := by
  induction ns with
  | nil =>
    intro start h
    cases h
    rfl
  | cons n ns ih =>
    intro start h
    obtain ⟨hdir, hrest⟩ := locate_cons_eq_ok.mp h
    rw [List.cons_append, locate, hdir]
    dsimp only
    by_cases hn : n = aboveName
    · rw [if_pos hn] at hrest ⊢
      exact ih _ hrest
    · rw [if_neg hn] at hrest ⊢
      rw [if_neg (Nat.not_lt.mpr hrest.1)]
      exact ih _ hrest.2

/-- What leads to a place leads through the places on the way. -/
theorem exists_locate_of_append {d : Disk} {place : Place} (ns ms : List Text) :
    ∀ start, d.locate start (ns ++ ms) = .ok place →
      ∃ mid, d.locate start ns = .ok mid ∧ d.locate mid ms = .ok place := by
  induction ns with
  | nil => exact fun start h => ⟨start, rfl, h⟩
  | cons n ns ih =>
    intro start h
    obtain ⟨hdir, hrest⟩ := locate_cons_eq_ok.mp h
    by_cases hn : n = aboveName
    · rw [if_pos hn] at hrest
      obtain ⟨mid, hmid, hplace⟩ := ih _ hrest
      exact ⟨mid, locate_cons_eq_ok.mpr ⟨hdir, by rw [if_pos hn]; exact hmid⟩, hplace⟩
    · rw [if_neg hn] at hrest
      obtain ⟨mid, hmid, hplace⟩ := ih _ hrest.2
      exact ⟨mid, locate_cons_eq_ok.mpr ⟨hdir, by rw [if_neg hn]; exact ⟨hrest.1, hmid⟩⟩, hplace⟩

section
variable {d d' : Disk} {here place : Place} {p : Path} {n : Text}

theorem hasNul_child : (p.child n).hasNul = (p.hasNul || n.contains '\x00') := by
  rw [Path.hasNul, Path.child, List.any_append, List.any_cons, List.any_nil, Bool.or_false]
  rfl

/-- Where a path to a name leads, the path without it leads to a directory. -/
theorem exists_directory_of_child (h : d.resolve here (p.child n) = .ok place) :
    ∃ q, d.resolve here p = .ok q ∧ d.at? q = some .directory ∧
      place = if n = aboveName then q.tail else n :: q := by
  have hnul := hasNul_eq_false_of_resolve h
  have hnul' : p.hasNul = false := (Bool.or_eq_false_iff.mp (hasNul_child ▸ hnul)).1
  rw [resolve_eq_locate hnul] at h
  obtain ⟨q, hq, hlast⟩ := exists_locate_of_append p.names [n] _ h
  obtain ⟨hdir, hrest⟩ := locate_cons_eq_ok.mp hlast
  refine ⟨q, ?_, hdir, ?_⟩
  · rw [resolve_eq_locate hnul']
    exact hq
  · by_cases hn : n = aboveName
    · rw [if_pos hn] at hrest ⊢
      exact (Except.ok.inj hrest).symm
    · rw [if_neg hn] at hrest ⊢
      exact (Except.ok.inj hrest.2).symm

/-- From a directory a name leads to its place there, if a disk can have the name. -/
theorem resolve_child (hp : d.resolve here p = .ok place) (hdir : d.at? place = some .directory)
    (hn : n ≠ aboveName) : d.resolve here (p.child n) =
      if n.contains '\x00' then .error .holdsNul
      else if longestFileName < (Utf8.encode n).length then .error .nameTooLong
      else .ok (n :: place) := by
  have hnul := hasNul_eq_false_of_resolve hp
  rw [resolve_eq_locate hnul] at hp
  rw [resolve, hasNul_child, hnul, Bool.false_or]
  by_cases hc : n.contains '\x00' = true
  · rw [if_pos hc, if_pos hc]
  · rw [if_neg hc, if_neg hc]
    show d.locate (if p.anchor = .here then here else []) (p.names ++ [n]) = _
    rw [locate_append _ _ _ hp, locate, hdir]
    dsimp only
    rw [if_neg hn]
    rfl

end

/-! ## Adding a directory -/

/-- Adds a directory, unless one is there. -/
def addUnlessThere (d : Disk) (here : Place) (p : Path) : Disk × Option DiskError :=
  match d.addDirectory here p with
  | .ok d' => (d', none)
  | .error e => (d, d.unlessDirectory here p e)

section
variable {d d' : Disk} {here : Place} {p : Path}

theorem addDirectory_eq_ok_iff : d.addDirectory here p = .ok d' ↔
    ∃ place, d.resolve here p = .ok place ∧ d.at? place = none ∧ d' = d.put place .directory := by
  unfold addDirectory
  cases hr : d.resolve here p with
  | error e => simp
  | ok place =>
    cases ha : d.at? place with
    | none => simp [ha, eq_comm]
    | some e => simp [ha]

theorem unlessDirectory_eq_none_iff {e : DiskError} :
    d.unlessDirectory here p e = none ↔ d.isDirectory here p = .ok true := by
  unfold unlessDirectory
  split
  · rename_i h
    exact iff_of_true rfl h
  · rename_i h
    exact iff_of_false nofun h

/-- A directory is added where nothing was, or the disk stays as it was. -/
theorem addUnlessThere_cases {r : Option DiskError} (h : d.addUnlessThere here p = (d', r)) :
    (∃ place, d.resolve here p = .ok place ∧ d.at? place = none ∧
        d' = d.put place .directory ∧ r = none) ∨
      d' = d ∧ ∃ e, d.addDirectory here p = .error e ∧ r = d.unlessDirectory here p e := by
  unfold addUnlessThere at h
  split at h
  · rename_i d₁ hadd
    cases h
    obtain ⟨place, hplace, hnone, rfl⟩ := addDirectory_eq_ok_iff.mp hadd
    exact .inl ⟨place, hplace, hnone, rfl, rfl⟩
  · rename_i e hadd
    cases h
    exact .inr ⟨rfl, e, hadd, rfl⟩

theorem keepsDirectories_of_addUnlessThere {r : Option DiskError}
    (h : d.addUnlessThere here p = (d', r)) : KeepsDirectories d d' := by
  rcases addUnlessThere_cases h with ⟨place, -, hnone, rfl, -⟩ | ⟨rfl, -⟩
  · exact keepsDirectories_put hnone _
  · exact .refl _

/-- Where it succeeds there is a directory. -/
theorem isDirectory_of_addUnlessThere (h : d.addUnlessThere here p = (d', none)) :
    d'.isDirectory here p = .ok true := by
  rcases addUnlessThere_cases h with ⟨place, hplace, hnone, rfl, -⟩ | ⟨rfl, e, -, he⟩
  · have hroot : place ≠ [] := ne_root_of_none hnone
    refine isDirectory_eq_true_iff.mpr
      ⟨place, resolve_of_keepsDirectories (keepsDirectories_put hnone _) hplace, ?_⟩
    rw [at?_put d place place _ hroot, if_pos rfl]
  · exact unlessDirectory_eq_none_iff.mp he.symm

/-- Where a directory is, nothing is added. -/
theorem addDirectory_of_isDirectory (h : d.isDirectory here p = .ok true) :
    d.addDirectory here p = .error .alreadyThere := by
  obtain ⟨place, hplace, hdir⟩ := isDirectory_eq_true_iff.mp h
  rw [addDirectory, hplace]
  dsimp only
  rw [hdir]

theorem addUnlessThere_of_isDirectory (h : d.isDirectory here p = .ok true) :
    d.addUnlessThere here p = (d, none) := by
  rw [addUnlessThere, addDirectory_of_isDirectory h]
  dsimp only
  rw [unlessDirectory_eq_none_iff.mpr h]

/-- Where it fails, the disk stays as it was. -/
theorem eq_of_addUnlessThere {e : DiskError} (h : d.addUnlessThere here p = (d', some e)) :
    d' = d := by
  rcases addUnlessThere_cases h with ⟨place, -, -, -, hr⟩ | ⟨rfl, -⟩
  · cases hr
  · rfl

/-- Where it succeeds, the path led somewhere before. -/
theorem exists_resolve_of_addUnlessThere (h : d.addUnlessThere here p = (d', none)) :
    ∃ place, d.resolve here p = .ok place := by
  rcases addUnlessThere_cases h with ⟨place, hplace, -⟩ | ⟨-, e, -, he⟩
  · exact ⟨place, hplace⟩
  · obtain ⟨place, hplace, -⟩ := isDirectory_eq_true_iff.mp (unlessDirectory_eq_none_iff.mp he.symm)
    exact ⟨place, hplace⟩

end

/-! ## Making sure of a directory -/

section
variable {d d' : Disk} {here : Place} {anchor : Anchor} {n : Text} {ns : List Text}

theorem ensureDirectory_nil :
    d.ensureDirectory here anchor [] = d.addUnlessThere here ⟨anchor, []⟩ := by
  rw [ensureDirectory]
  rfl

/-- A path whose names are given with the last one first leads through the others. -/
theorem path_reverse_cons (anchor : Anchor) (n : Text) (ns : List Text) :
    (⟨anchor, (n :: ns).reverse⟩ : Path) = .child ⟨anchor, ns.reverse⟩ n := by
  rw [List.reverse_cons]
  rfl

/-- Where something is missing on the way, the directory above is made first. -/
theorem ensureDirectory_of_missing
    (h : d.addDirectory here ⟨anchor, (n :: ns).reverse⟩ = .error .missing) :
    d.ensureDirectory here anchor (n :: ns) =
      match d.ensureDirectory here anchor ns with
      | (d', some e) => (d', some e)
      | (d', none) => d'.addUnlessThere here ⟨anchor, (n :: ns).reverse⟩ := by
  rw [ensureDirectory, h]
  rfl

theorem ensureDirectory_of_not_missing
    (h : d.addDirectory here ⟨anchor, (n :: ns).reverse⟩ ≠ .error .missing) :
    d.ensureDirectory here anchor (n :: ns) =
      d.addUnlessThere here ⟨anchor, (n :: ns).reverse⟩ := by
  rw [ensureDirectory, addUnlessThere]
  split
  · rename_i hadd
    rw [hadd]
  · rename_i hadd
    exact absurd hadd h
  · rename_i e _ hadd
    rw [hadd]

/-- What every single attempt keeps is kept. -/
theorem ensureDirectory_keeps {P : Disk → Prop}
    (hadd : ∀ {d d' : Disk} {p r}, d.addUnlessThere here p = (d', r) → P d → P d')
    {ns : List Text} :
    ∀ {d d' : Disk} {r}, d.ensureDirectory here anchor ns = (d', r) → P d → P d' := by
  induction ns with
  | nil =>
    intro d d' r h
    rw [ensureDirectory_nil] at h
    exact hadd h
  | cons n ns ih =>
    intro d d' r h hd
    by_cases hm : d.addDirectory here ⟨anchor, (n :: ns).reverse⟩ = .error .missing
    · rw [ensureDirectory_of_missing hm] at h
      split at h
      · rename_i d₁ e habove
        cases h
        exact ih habove hd
      · rename_i d₁ habove
        exact hadd h (ih habove hd)
    · rw [ensureDirectory_of_not_missing hm] at h
      exact hadd h hd

theorem keepsDirectories_of_ensureDirectory {r : Option DiskError}
    (h : d.ensureDirectory here anchor ns = (d', r)) : KeepsDirectories d d' :=
  ensureDirectory_keeps (fun hadd hd => hd.trans (keepsDirectories_of_addUnlessThere hadd)) h
    (.refl d)

/-- Where it succeeds the directory is there. -/
theorem isDirectory_of_ensureDirectory (h : d.ensureDirectory here anchor ns = (d', none)) :
    d'.isDirectory here ⟨anchor, ns.reverse⟩ = .ok true := by
  cases ns with
  | nil =>
    rw [ensureDirectory_nil] at h
    exact isDirectory_of_addUnlessThere h
  | cons n ns =>
    by_cases hm : d.addDirectory here ⟨anchor, (n :: ns).reverse⟩ = .error .missing
    · rw [ensureDirectory_of_missing hm] at h
      split at h
      · cases h
      · exact isDirectory_of_addUnlessThere h
    · rw [ensureDirectory_of_not_missing hm] at h
      exact isDirectory_of_addUnlessThere h

/-- Where the directory is there, nothing is done. -/
theorem ensureDirectory_of_isDirectory
    (h : d.isDirectory here ⟨anchor, ns.reverse⟩ = .ok true) :
    d.ensureDirectory here anchor ns = (d, none) := by
  cases ns with
  | nil =>
    rw [ensureDirectory_nil]
    exact addUnlessThere_of_isDirectory h
  | cons n ns =>
    rw [ensureDirectory_of_not_missing, addUnlessThere_of_isDirectory h]
    rw [addDirectory_of_isDirectory h]
    nofun

/-- A failed attempt fails again, and the second one changes nothing. -/
theorem ensureDirectory_fails_again {ns : List Text} :
    ∀ {d d' : Disk} {e}, d.ensureDirectory here anchor ns = (d', some e) →
      ∃ e', d'.ensureDirectory here anchor ns = (d', some e') := by
  induction ns with
  | nil =>
    intro d d' e h
    rw [ensureDirectory_nil] at h
    obtain rfl := eq_of_addUnlessThere h
    exact ⟨e, by rw [ensureDirectory_nil, h]⟩
  | cons n ns ih =>
    intro d d' e h
    by_cases hm : d.addDirectory here ⟨anchor, (n :: ns).reverse⟩ = .error .missing
    · rw [ensureDirectory_of_missing hm] at h
      split at h
      · -- The directory above cannot be made, so this one cannot be added the second time.
        rename_i d₁ e₁ habove
        cases h
        obtain ⟨e', hagain⟩ := ih habove
        by_cases hm' : d'.addDirectory here ⟨anchor, (n :: ns).reverse⟩ = .error .missing
        · exact ⟨e', by rw [ensureDirectory_of_missing hm', hagain]⟩
        · rw [ensureDirectory_of_not_missing hm']
          rcases hadd : d'.addUnlessThere here ⟨anchor, (n :: ns).reverse⟩ with ⟨d₂, _ | e₂⟩
          · obtain ⟨place, hplace⟩ := exists_resolve_of_addUnlessThere hadd
            have hchild := path_reverse_cons anchor n ns
            rw [hchild] at hplace
            obtain ⟨q, hq, hdir, -⟩ := exists_directory_of_child hplace
            have hthere := isDirectory_eq_true_iff.mpr ⟨q, hq, hdir⟩
            rw [ensureDirectory_of_isDirectory hthere] at hagain
            cases hagain
          · rw [eq_of_addUnlessThere hadd]
            exact ⟨e₂, rfl⟩
      · -- The directory above is there now, and what failed is tried once more.
        rename_i d₁ habove
        obtain rfl := eq_of_addUnlessThere h
        have hagain := ensureDirectory_of_isDirectory (isDirectory_of_ensureDirectory habove)
        refine ⟨e, ?_⟩
        by_cases hm' : d'.addDirectory here ⟨anchor, (n :: ns).reverse⟩ = .error .missing
        · rw [ensureDirectory_of_missing hm', hagain]
          exact h
        · rw [ensureDirectory_of_not_missing hm', h]
    · rw [ensureDirectory_of_not_missing hm] at h
      obtain rfl := eq_of_addUnlessThere h
      exact ⟨e, by rw [ensureDirectory_of_not_missing hm, h]⟩

/-- On the disk that making sure of a directory leaves, doing it again changes nothing, and
fails exactly if it failed before. -/
theorem ensureDirectory_again {r : Option DiskError}
    (h : d.ensureDirectory here anchor ns = (d', r)) :
    ∃ r', d'.ensureDirectory here anchor ns = (d', r') ∧ (r' = none ↔ r = none) := by
  cases r with
  | none =>
    have hagain := ensureDirectory_of_isDirectory (isDirectory_of_ensureDirectory h)
    exact ⟨none, hagain, Iff.rfl⟩
  | some e =>
    obtain ⟨e', hagain⟩ := ensureDirectory_fails_again h
    exact ⟨some e', hagain, iff_of_false nofun nofun⟩

/-- Without a NUL in the path no attempt fails for one. -/
theorem addUnlessThere_ne_holdsNul {p : Path} (hp : p.hasNul = false) :
    d.addUnlessThere here p ≠ (d', some .holdsNul) := by
  intro h
  rcases addUnlessThere_cases h with ⟨place, -, -, -, hr⟩ | ⟨-, e, hadd, he⟩
  · cases hr
  · have hnul : e = .holdsNul := by
      unfold unlessDirectory at he
      split at he
      · cases he
      · exact (Option.some.inj he).symm
    have hres := resolve_ne_holdsNul d here hp
    rw [hnul, addDirectory] at hadd
    split at hadd
    · rename_i e' hr
      rw [hr, Except.error.inj hadd] at hres
      exact hres rfl
    · split at hadd <;> cases hadd

theorem ensureDirectory_ne_holdsNul {ns : List Text} :
    ∀ {d d' : Disk}, (⟨anchor, ns.reverse⟩ : Path).hasNul = false →
      d.ensureDirectory here anchor ns ≠ (d', some .holdsNul) := by
  induction ns with
  | nil =>
    intro d d' hp h
    rw [ensureDirectory_nil] at h
    exact addUnlessThere_ne_holdsNul hp h
  | cons n ns ih =>
    intro d d' hp h
    have hchild := path_reverse_cons anchor n ns
    by_cases hm : d.addDirectory here ⟨anchor, (n :: ns).reverse⟩ = .error .missing
    · rw [ensureDirectory_of_missing hm] at h
      split at h
      · rename_i d₁ e habove
        cases h
        rw [hchild, hasNul_child] at hp
        exact ih (Bool.or_eq_false_iff.mp hp).1 habove
      · exact addUnlessThere_ne_holdsNul hp h
    · rw [ensureDirectory_of_not_missing hm] at h
      exact addUnlessThere_ne_holdsNul hp h

end

/-! ## Names on a disk -/

/-- No name on the disk is that of the directory above: the two points only ever lead
upwards. -/
def Plain (d : Disk) (here : Place) : Prop :=
  aboveName ∉ here ∧ ∀ x ∈ d, aboveName ∉ x.1

instance (d : Disk) (here : Place) : Decidable (d.Plain here) :=
  inferInstanceAs (Decidable (aboveName ∉ here ∧ ∀ x ∈ d, aboveName ∉ x.1))

/-- A disk with plain names, seen from the current directory. -/
structure PlainDisk (here : Place) where
  disk : Disk
  plain : disk.Plain here

section
variable {d d' : Disk} {here place : Place}

/-- What holds of the names of the place where a walk starts, and of the names that it takes on
the way, holds of those of the place where it ends. -/
theorem forall_mem_of_locate {P : Text → Prop} (ns : List Text)
    (htaken : ∀ n ∈ ns, n ≠ aboveName → (Utf8.encode n).length ≤ longestFileName → P n) :
    ∀ start, (∀ n ∈ start, P n) → d.locate start ns = .ok place → ∀ n ∈ place, P n := by
  induction ns with
  | nil =>
    intro start hstart h
    cases h
    exact hstart
  | cons n ns ih =>
    have ih' := ih fun m hm => htaken m (List.mem_cons_of_mem _ hm)
    intro start hstart h
    obtain ⟨-, hrest⟩ := locate_cons_eq_ok.mp h
    -- Going up drops a name, and going down adds one.
    by_cases hn : n = aboveName
    · rw [if_pos hn] at hrest
      exact ih' _ (fun m hm => hstart m (List.mem_of_mem_tail hm)) hrest
    · rw [if_neg hn] at hrest
      have hadded : P n := htaken n List.mem_cons_self hn hrest.1
      exact ih' _ (List.forall_mem_cons.mpr ⟨hadded, hstart⟩) hrest.2

theorem forall_mem_of_resolve {P : Text → Prop} {p : Path} (hhere : ∀ n ∈ here, P n)
    (htaken : ∀ n ∈ p.names, n ≠ aboveName → (Utf8.encode n).length ≤ longestFileName → P n)
    (h : d.resolve here p = .ok place) : ∀ n ∈ place, P n := by
  rw [resolve_eq_locate (hasNul_eq_false_of_resolve h)] at h
  refine forall_mem_of_locate _ htaken _ ?_ h
  split
  · exact hhere
  · exact fun _ hn => absurd hn List.not_mem_nil

theorem Plain.resolve (h : d.Plain here) {p : Path} (hp : d.resolve here p = .ok place) :
    aboveName ∉ place := fun hm =>
  forall_mem_of_resolve (P := (· ≠ aboveName)) (fun _ hn he => h.1 (he ▸ hn))
    (fun _ _ hn _ => hn) hp _ hm rfl

theorem mem_put {x : Place × Entry} {e : Entry} (h : x ∈ d.put place e) :
    x = (place, e) ∨ x ∈ d := by
  induction d with
  | nil => exact .inl (List.mem_singleton.mp h)
  | cons y ys ih =>
    rw [put] at h
    split at h
    · rcases List.mem_cons.mp h with rfl | h
      · exact .inl rfl
      · exact .inr (List.mem_cons_of_mem _ h)
    · rcases List.mem_cons.mp h with rfl | h
      · exact .inr List.mem_cons_self
      · rcases ih h with rfl | h
        · exact .inl rfl
        · exact .inr (List.mem_cons_of_mem _ h)

theorem Plain.put (h : d.Plain here) (hplace : aboveName ∉ place) (e : Entry) :
    (d.put place e).Plain here := by
  refine ⟨h.1, fun x hx => ?_⟩
  rcases mem_put hx with rfl | hx
  · exact hplace
  · exact h.2 x hx

theorem Plain.addUnlessThere (h : d.Plain here) {p : Path} {r : Option DiskError}
    (hadd : d.addUnlessThere here p = (d', r)) : d'.Plain here := by
  rcases addUnlessThere_cases hadd with ⟨q, hq, -, rfl, -⟩ | ⟨rfl, -⟩
  · exact h.put (h.resolve hq) _
  · exact h

theorem Plain.ensureDirectory {anchor : Anchor} {ns : List Text} {r : Option DiskError}
    (h : d.Plain here) (hens : d.ensureDirectory here anchor ns = (d', r)) : d'.Plain here :=
  @ensureDirectory_keeps here anchor (fun e => e.Plain here)
    (fun hadd hd => hd.addUnlessThere hadd) ns d d' r hens h

end

/-! ## Making directories -/

section
variable {d d' : Disk} {here : Place} {p : Path} {r : Option DiskError}

theorem keepsDirectories_of_makeDirectories (h : d.makeDirectories here p = (d', r)) :
    KeepsDirectories d d' :=
  keepsDirectories_of_ensureDirectory h

theorem Plain.makeDirectories (hd : d.Plain here) (h : d.makeDirectories here p = (d', r)) :
    d'.Plain here :=
  hd.ensureDirectory h

theorem isDirectory_of_makeDirectories (h : d.makeDirectories here p = (d', none)) :
    d'.isDirectory here p = .ok true := by
  have hthere := isDirectory_of_ensureDirectory h
  rwa [List.reverse_reverse] at hthere

theorem makeDirectories_of_isDirectory (h : d.isDirectory here p = .ok true) :
    d.makeDirectories here p = (d, none) := by
  refine ensureDirectory_of_isDirectory ?_
  rw [List.reverse_reverse]
  exact h

/-- Making directories again changes nothing, and fails exactly if it failed before. -/
theorem makeDirectories_again (h : d.makeDirectories here p = (d', r)) :
    ∃ r', d'.makeDirectories here p = (d', r') ∧ (r' = none ↔ r = none) :=
  ensureDirectory_again h

theorem makeDirectories_ne_holdsNul (hp : p.hasNul = false) :
    d.makeDirectories here p ≠ (d', some .holdsNul) := by
  refine ensureDirectory_ne_holdsNul ?_
  rw [List.reverse_reverse]
  exact hp

end

end TestScribe.Disk
