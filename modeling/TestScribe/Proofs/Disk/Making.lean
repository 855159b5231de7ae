import TestScribe.Proofs.Disk.Directories

/-!
# What making directories makes

Making sure of a directory adds directories where nothing was, on the way along the path and
nowhere else (`onlyMakes_of_makeDirectories`). It looks at the disk only through what is at
each place, so the order in which the disk keeps its entries does not matter
(`SameContents.makeDirectories`). And it does not give up too early:

> `makeDirectories_succeeds_iff`: making directories succeeds exactly if adding directories to
> the disk can give one at the path at all.

The last point is not plain. When the directory above is missing it is made first, and then
the path is tried once more; when something else is wrong nothing is tried again. The reason
is that a path that leads to a directory on a larger disk either leads to the same place on
this one, or something is missing on the way (`resolve_of_addsDirectories`).
-/

namespace TestScribe.Disk

/-! ## Disks with the same contents -/

/-- The same is at each place of the two disks, whatever order they keep it in. -/
def SameContents (d e : Disk) : Prop := ∀ p, e.at? p = d.at? p

section
variable {d e : Disk} {here : Place} {p : Path}

theorem SameContents.locate (h : SameContents d e) (ns : List Text) :
    ∀ start, e.locate start ns = d.locate start ns := by
  induction ns with
  | nil => exact fun _ => rfl
  | cons n ns ih =>
    intro start
    rw [Disk.locate, Disk.locate, h start, ih, ih]

theorem SameContents.resolve (h : SameContents d e) : e.resolve here p = d.resolve here p := by
  rw [Disk.resolve, Disk.resolve, h.locate]

theorem SameContents.ask (h : SameContents d e) (question : Entry → Bool) :
    e.ask here p question = d.ask here p question := by
  unfold Disk.ask Disk.lookup
  rw [h.resolve]
  simp only [h _]

theorem SameContents.isDirectory (h : SameContents d e) :
    e.isDirectory here p = d.isDirectory here p := h.ask _

theorem SameContents.put (h : SameContents d e) {place : Place} (hroot : place ≠ [])
    (x : Entry) : SameContents (d.put place x) (e.put place x) := by
  intro q
  rw [at?_put e place q x hroot, at?_put d place q x hroot, h q]

theorem SameContents.addDirectory_eq_error (h : SameContents d e) {x : DiskError} :
    e.addDirectory here p = .error x ↔ d.addDirectory here p = .error x := by
  unfold Disk.addDirectory
  rw [h.resolve]
  cases d.resolve here p with
  | error y => exact Iff.rfl
  | ok place =>
    dsimp only
    rw [h place]
    cases d.at? place <;> simp

/-- Both disks come to the same end, and what is left has the same contents. -/
theorem SameContents.addUnlessThere (h : SameContents d e) :
    SameContents (d.addUnlessThere here p).1 (e.addUnlessThere here p).1 ∧
      (e.addUnlessThere here p).2 = (d.addUnlessThere here p).2 := by
  rcases hd : d.addUnlessThere here p with ⟨d', r⟩
  rcases addUnlessThere_cases hd with ⟨place, hplace, hnone, rfl, rfl⟩ | ⟨rfl, x, hadd, rfl⟩
  · have hroot : place ≠ [] := ne_root_of_none hnone
    have hadd : e.addDirectory here p = .ok (e.put place .directory) :=
      addDirectory_eq_ok_iff.mpr ⟨place, h.resolve.trans hplace, (h place).trans hnone, rfl⟩
    rw [Disk.addUnlessThere, hadd]
    exact ⟨h.put hroot _, rfl⟩
  · rw [Disk.addUnlessThere, h.addDirectory_eq_error.mpr hadd]
    refine ⟨h, ?_⟩
    dsimp only
    rw [unlessDirectory, unlessDirectory, h.isDirectory]

theorem SameContents.ensureDirectory {anchor : Anchor} {ns : List Text} :
    ∀ {d e : Disk}, SameContents d e →
      SameContents (d.ensureDirectory here anchor ns).1 (e.ensureDirectory here anchor ns).1 ∧
        (e.ensureDirectory here anchor ns).2 = (d.ensureDirectory here anchor ns).2 := by
  induction ns with
  | nil =>
    intro d e h
    rw [ensureDirectory_nil, ensureDirectory_nil]
    exact h.addUnlessThere
  | cons n ns ih =>
    intro d e h
    by_cases hm : d.addDirectory here ⟨anchor, (n :: ns).reverse⟩ = .error .missing
    · rw [ensureDirectory_of_missing hm,
        ensureDirectory_of_missing (h.addDirectory_eq_error.mpr hm)]
      -- Making the directory above comes to the same end on both, so both go on or both stop.
      obtain ⟨habove, hr⟩ := ih h
      rcases hd : d.ensureDirectory here anchor ns with ⟨d₁, r⟩
      rcases he : e.ensureDirectory here anchor ns with ⟨e₁, r'⟩
      rw [hd, he] at habove hr
      obtain rfl : r' = r := hr
      cases r' with
      | some x => exact ⟨habove, rfl⟩
      | none => exact SameContents.addUnlessThere habove
    · rw [ensureDirectory_of_not_missing hm,
        ensureDirectory_of_not_missing (mt h.addDirectory_eq_error.mp hm)]
      exact h.addUnlessThere

theorem SameContents.makeDirectories (h : SameContents d e) :
    SameContents (d.makeDirectories here p).1 (e.makeDirectories here p).1 ∧
      (e.makeDirectories here p).2 = (d.makeDirectories here p).2 :=
  SameContents.ensureDirectory h

end

/-! ## What is made -/

/-- The path, or a beginning of it, leads to the place. -/
def OnTheWay (d : Disk) (here : Place) (p : Path) (q : Place) : Prop :=
  ∃ names, names <+: p.names ∧ d.resolve here ⟨p.anchor, names⟩ = .ok q

/-- The disk `d'` is the disk `d` with directories on the way along the path where nothing
was. -/
def OnlyMakes (d d' : Disk) (here : Place) (p : Path) : Prop :=
  ∀ q, d'.at? q = d.at? q ∨
    d.at? q = none ∧ d'.at? q = some .directory ∧ d'.OnTheWay here p q

section
variable {d d₁ d' : Disk} {here : Place} {p : Path}

theorem OnlyMakes.refl (d : Disk) (here : Place) (p : Path) : OnlyMakes d d here p :=
  fun _ => .inl rfl

/-- What a longer path goes through is no less. -/
theorem OnlyMakes.longer {anchor : Anchor} {ns ms : List Text} (hbegins : ns <+: ms)
    (h : OnlyMakes d d' here ⟨anchor, ns⟩) : OnlyMakes d d' here ⟨anchor, ms⟩ := by
  intro q
  rcases h q with hsame | ⟨hnone, hdir, names, hnames, hq⟩
  · exact .inl hsame
  · exact .inr ⟨hnone, hdir, names, hnames.trans hbegins, hq⟩

theorem OnlyMakes.keepsDirectories (h : OnlyMakes d d' here p) : KeepsDirectories d d' := by
  intro q hq
  rcases h q with hsame | ⟨-, hdir, -⟩
  · rw [hsame, hq]
  · exact hdir

/-- No file comes or goes, and none is changed. -/
theorem OnlyMakes.at?_eq_file_iff (h : OnlyMakes d d' here p) {q : Place} {bytes : List UInt8} :
    d'.at? q = some (.file bytes) ↔ d.at? q = some (.file bytes) := by
  rcases h q with hsame | ⟨hnone, hdir, -⟩
  · rw [hsame]
  · rw [hnone, hdir]
    exact iff_of_false (by simp) nofun

theorem OnlyMakes.trans (h : OnlyMakes d d₁ here p) (h' : OnlyMakes d₁ d' here p) :
    OnlyMakes d d' here p := by
  intro q
  rcases h' q with hsame' | ⟨hnone', hdir', hway'⟩
  · rcases h q with hsame | ⟨hnone, hdir, names, hnames, hq⟩
    · exact .inl (hsame'.trans hsame)
    · exact .inr ⟨hnone, hsame'.trans hdir, names, hnames,
        resolve_of_keepsDirectories h'.keepsDirectories hq⟩
  · rcases h q with hsame | ⟨-, hdir, -⟩
    · exact .inr ⟨hsame ▸ hnone', hdir', hway'⟩
    · rw [hdir] at hnone'
      cases hnone'

theorem onlyMakes_of_addUnlessThere {r : Option DiskError}
    (h : d.addUnlessThere here p = (d', r)) : OnlyMakes d d' here p := by
  rcases addUnlessThere_cases h with ⟨place, hplace, hnone, rfl, -⟩ | ⟨rfl, -⟩
  · have hroot : place ≠ [] := ne_root_of_none hnone
    intro q
    rw [at?_put d place q _ hroot]
    by_cases hq : q = place
    · rw [if_pos hq]
      exact .inr ⟨hq ▸ hnone, rfl, p.names, List.prefix_rfl,
        hq ▸ resolve_of_keepsDirectories (keepsDirectories_put hnone _) hplace⟩
    · rw [if_neg hq]
      exact .inl rfl
  · exact .refl _ _ _

theorem onlyMakes_of_ensureDirectory {anchor : Anchor} {ns : List Text} :
    ∀ {d d' : Disk} {r}, d.ensureDirectory here anchor ns = (d', r) →
      OnlyMakes d d' here ⟨anchor, ns.reverse⟩ := by
  induction ns with
  | nil =>
    intro d d' r h
    rw [ensureDirectory_nil] at h
    exact onlyMakes_of_addUnlessThere h
  | cons n ns ih =>
    intro d d' r h
    -- What is on the way to the directory above is on the way to this one.
    have hbegins : ns.reverse <+: (n :: ns).reverse := by
      rw [List.reverse_cons]
      exact List.prefix_append _ _
    by_cases hm : d.addDirectory here ⟨anchor, (n :: ns).reverse⟩ = .error .missing
    · rw [ensureDirectory_of_missing hm] at h
      split at h
      · rename_i habove
        cases h
        exact (ih habove).longer hbegins
      · rename_i habove
        exact ((ih habove).longer hbegins).trans (onlyMakes_of_addUnlessThere h)
    · rw [ensureDirectory_of_not_missing hm] at h
      exact onlyMakes_of_addUnlessThere h

/-- Making directories makes them on the way along the path, and does nothing else. -/
theorem onlyMakes_of_makeDirectories {r : Option DiskError}
    (h : d.makeDirectories here p = (d', r)) : OnlyMakes d d' here p := by
  have hmakes := onlyMakes_of_ensureDirectory h
  rwa [List.reverse_reverse] at hmakes

end

/-! ## When it succeeds -/

/-- The disk `e` is the disk `d` with directories where nothing was. -/
def AddsDirectories (d e : Disk) : Prop :=
  ∀ q, e.at? q = d.at? q ∨ d.at? q = none ∧ e.at? q = some .directory

/-- Adding directories to the disk can give one at the path. Where one is, none need be added. -/
def CanHave (d : Disk) (here : Place) (p : Path) : Prop :=
  ∃ e, d.AddsDirectories e ∧ e.isDirectory here p = .ok true

section
variable {d e : Disk} {here place : Place} {p : Path}

theorem OnlyMakes.addsDirectories {d' : Disk} (h : OnlyMakes d d' here p) :
    AddsDirectories d d' :=
  fun q => (h q).imp_right fun hmade => ⟨hmade.1, hmade.2.1⟩

theorem SameContents.canHave (h : SameContents d e) : e.CanHave here p ↔ d.CanHave here p := by
  simp only [CanHave, AddsDirectories, h _]

/-- Where a directory is on the larger disk, there is one here or nothing. -/
theorem AddsDirectories.at?_of_directory (h : AddsDirectories d e) {q : Place}
    (hq : e.at? q = some .directory) : d.at? q = some .directory ∨ d.at? q = none :=
  (h q).imp (fun hsame => hsame.symm.trans hq) And.left

theorem locate_of_addsDirectories (h : AddsDirectories d e) (ns : List Text) :
    ∀ start, e.locate start ns = .ok place →
      d.locate start ns = .ok place ∨ d.locate start ns = .error .missing := by
  induction ns with
  | nil => exact fun _ hplace => .inl hplace
  | cons n ns ih =>
    intro start hplace
    obtain ⟨hdir, hrest⟩ := locate_cons_eq_ok.mp hplace
    rw [locate]
    rcases h.at?_of_directory hdir with hdir' | hnone
    · rw [hdir']
      dsimp only
      by_cases hn : n = aboveName
      · rw [if_pos hn] at hrest ⊢
        exact ih _ hrest
      · rw [if_neg hn] at hrest ⊢
        rw [if_neg (Nat.not_lt.mpr hrest.1)]
        exact ih _ hrest.2
    · rw [hnone]
      exact .inr rfl

/-- A path that leads somewhere on the larger disk leads there on this one, or something is
missing on the way. -/
theorem resolve_of_addsDirectories (h : AddsDirectories d e)
    (hplace : e.resolve here p = .ok place) :
    d.resolve here p = .ok place ∨ d.resolve here p = .error .missing := by
  have hnul := hasNul_eq_false_of_resolve hplace
  rw [resolve_eq_locate hnul] at hplace ⊢
  exact locate_of_addsDirectories h _ _ hplace

theorem addDirectory_eq_missing_iff :
    d.addDirectory here p = .error .missing ↔ d.resolve here p = .error .missing := by
  unfold addDirectory
  cases d.resolve here p with
  | error x => simp
  | ok place => cases h : d.at? place <;> simp [h]

/-- Nothing is missing on the way to a name in a directory. -/
theorem resolve_child_ne_missing {n : Text} (hp : d.isDirectory here p = .ok true) :
    d.resolve here (p.child n) ≠ .error .missing := by
  obtain ⟨place, hplace, hdir⟩ := isDirectory_eq_true_iff.mp hp
  have hnul := hasNul_eq_false_of_resolve hplace
  rw [resolve_eq_locate hnul] at hplace
  rw [resolve]
  split
  · intro h
    cases h
  · show d.locate (if p.anchor = .here then here else []) (p.names ++ [n]) ≠ _
    rw [locate_append _ _ _ hplace, locate, hdir]
    dsimp only [locate]
    intro h
    split at h
    · cases h
    · split at h <;> cases h

/-- A directory that the larger disk has is added, unless something is missing on the way. -/
theorem addUnlessThere_of_addsDirectories (h : AddsDirectories d e)
    (hthere : e.isDirectory here p = .ok true) (hway : d.resolve here p ≠ .error .missing) :
    ∃ d', d.addUnlessThere here p = (d', none) ∧ AddsDirectories d' e := by
  obtain ⟨place, hplace, hdir⟩ := isDirectory_eq_true_iff.mp hthere
  have hplace' : d.resolve here p = .ok place :=
    (resolve_of_addsDirectories h hplace).resolve_right hway
  rcases h.at?_of_directory hdir with hdir' | hnone
  · have hthere' := isDirectory_eq_true_iff.mpr ⟨place, hplace', hdir'⟩
    exact ⟨d, addUnlessThere_of_isDirectory hthere', h⟩
  · have hroot : place ≠ [] := ne_root_of_none hnone
    have hadd := addDirectory_eq_ok_iff.mpr ⟨place, hplace', hnone, rfl⟩
    refine ⟨d.put place .directory, by rw [addUnlessThere, hadd], fun q => ?_⟩
    rw [at?_put d place q _ hroot]
    by_cases hq : q = place
    · rw [if_pos hq, hq]
      exact .inl hdir
    · rw [if_neg hq]
      exact h q

/-- A directory that the larger disk has can be made sure of, with no other directories than
the larger disk has. -/
theorem ensureDirectory_of_addsDirectories {anchor : Anchor} {ns : List Text} :
    ∀ {d : Disk}, AddsDirectories d e → e.isDirectory here ⟨anchor, ns.reverse⟩ = .ok true →
      ∃ d', d.ensureDirectory here anchor ns = (d', none) ∧ AddsDirectories d' e := by
  induction ns with
  | nil =>
    intro d h hthere
    rw [ensureDirectory_nil]
    refine addUnlessThere_of_addsDirectories h hthere ?_
    -- A path without names goes through no directory.
    rw [resolve]
    intro hm
    split at hm <;> cases hm
  | cons n ns ih =>
    intro d h hthere
    by_cases hm : d.addDirectory here ⟨anchor, (n :: ns).reverse⟩ = .error .missing
    · have hchild := path_reverse_cons anchor n ns
      -- The larger disk has the directory above too, so this one gets it first.
      obtain ⟨place, hplace, -⟩ := isDirectory_eq_true_iff.mp hthere
      obtain ⟨above, habove, hdir, -⟩ := exists_directory_of_child (hchild ▸ hplace)
      obtain ⟨d₁, hmade, h₁⟩ := ih h (isDirectory_eq_true_iff.mpr ⟨above, habove, hdir⟩)
      rw [ensureDirectory_of_missing hm, hmade]
      refine addUnlessThere_of_addsDirectories h₁ hthere ?_
      rw [hchild]
      exact resolve_child_ne_missing (isDirectory_of_ensureDirectory hmade)
    · rw [ensureDirectory_of_not_missing hm]
      exact addUnlessThere_of_addsDirectories h hthere (mt addDirectory_eq_missing_iff.mpr hm)

/-- Making directories succeeds exactly if adding directories can give one at the path. -/
theorem makeDirectories_succeeds_iff :
    (d.makeDirectories here p).2 = none ↔ d.CanHave here p := by
  constructor
  · intro hnone
    rcases hmade : d.makeDirectories here p with ⟨d', r⟩
    obtain rfl : r = none := by
      rw [hmade] at hnone
      exact hnone
    exact ⟨d', (onlyMakes_of_makeDirectories hmade).addsDirectories,
      isDirectory_of_makeDirectories hmade⟩
  · rintro ⟨e, h, hthere⟩
    have hthere' : e.isDirectory here ⟨p.anchor, p.names.reverse.reverse⟩ = .ok true := by
      rw [List.reverse_reverse]
      exact hthere
    obtain ⟨d', hmade, -⟩ := ensureDirectory_of_addsDirectories h hthere'
    rw [makeDirectories, hmade]

end

end TestScribe.Disk
