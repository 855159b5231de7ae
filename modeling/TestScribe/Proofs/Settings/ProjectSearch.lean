import Mathlib.Data.List.Infix
import TestScribe.Settings.Installation

/-!
# The nearest project

The search for the project looks at a place and, when no project is there, goes on at the directory
above. The root is the directory above itself, and there the search gives up. The names of a place
are given with the last one first, so the places at or above it are the ends of its list, each turn
of the search drops one name, and there are no more turns than names (`exists_searchRun`).

A turn that goes on has seen that the lowest place is none, so the nearest project of the places
above is the nearest of all (`isNearest_cons`):

> `nearest_project_found`: the search ends, and it finds the nearest project if there is one.
-/

namespace TestScribe.Host

/-! ## Projects -/

/-- The place holds what a project holds: the path to `src` leads to a directory, and the path to
`pyproject.toml` to a file. -/
structure HoldsProject (d : Disk) (p : Place) : Prop where
  source : d.lookup [] (sourcePath p) = .ok .directory
  manifest : ∃ bytes, d.lookup [] (manifestPath p) = .ok (.file bytes)

/-- A question is answered with yes where the path leads to something of which it holds. -/
theorem isYes_ask_iff {d : Disk} {here : Place} {p : Path} {question : Entry → Bool} :
    isYes (d.ask here p question) = true ↔
      ∃ e, d.lookup here p = .ok e ∧ question e = true := by
  unfold Disk.ask
  cases hl : d.lookup here p with
  | ok e => simp [isYes]
  | error e =>
    -- A path that leads to nothing is a no, and one that cannot be asked about counts as one.
    have hno : isYes (if Disk.DiskError.isAbsence e then .ok false else .error e) = false := by
      split <;> rfl
    simp [hno]

/-- The four questions come to what a project holds: what is a directory is there, and so is what
is a file. -/
theorem isProject_iff {d : Disk} {p : Place} : isProject d p = true ↔ HoldsProject d p := by
  rw [isProject, Bool.and_eq_true, Bool.and_eq_true, Bool.and_eq_true, Disk.isThere, Disk.isThere,
    Disk.isDirectory, Disk.isFile, isYes_ask_iff, isYes_ask_iff, isYes_ask_iff, isYes_ask_iff]
  constructor
  · rintro ⟨⟨⟨-, e, hsource, he⟩, -⟩, f, hmanifest, hf⟩
    cases of_decide_eq_true he
    cases f with
    | file bytes => exact ⟨hsource, bytes, hmanifest⟩
    | directory => cases hf
  · rintro ⟨hsource, bytes, hmanifest⟩
    exact ⟨⟨⟨⟨_, hsource, rfl⟩, _, hsource, rfl⟩, _, hmanifest, rfl⟩, _, hmanifest, rfl⟩

/-! ## The nearest one -/

/-- There is no project at the place or above it, the root left out. -/
def NoProject (d : Disk) (start : Place) : Prop :=
  ∀ p, p <:+ start → p ≠ [] → ¬ HoldsProject d p

/-- The deepest project at the place `start` or above it, the root left out: all others lie above
it. -/
structure IsNearest (d : Disk) (start p : Place) : Prop where
  above : p <:+ start
  not_root : p ≠ []
  holds : HoldsProject d p
  deepest : ∀ q, q <:+ start → q ≠ [] → HoldsProject d q → q <:+ p

theorem IsNearest.unique {d : Disk} {start p q : Place} (hp : IsNearest d start p)
    (hq : IsNearest d start q) : p = q := by
  have hpq := hq.deepest p hp.above hp.not_root hp.holds
  have hqp := hp.deepest q hq.above hq.not_root hq.holds
  exact hpq.eq_of_length (Nat.le_antisymm hpq.length_le hqp.length_le)

section
variable {d : Disk} {n : Text} {above p : Place}

/-- A project at the place itself is the nearest. -/
theorem isNearest_self (h : HoldsProject d (n :: above)) :
    IsNearest d (n :: above) (n :: above) :=
  ⟨List.suffix_rfl, List.cons_ne_nil n above, h, fun _ hq _ _ => hq⟩

theorem noProject_root : NoProject d [] := fun _ hp hne => absurd (List.suffix_nil.mp hp) hne

/-- Where the place itself is no project, there is none if there is none above. -/
theorem noProject_cons (h : ¬ HoldsProject d (n :: above)) (hrest : NoProject d above) :
    NoProject d (n :: above) := by
  intro q hq hne
  rcases List.suffix_cons_iff.mp hq with rfl | hq
  · exact h
  · exact hrest q hq hne

/-- Where the place itself is no project, the nearest one is the nearest above. -/
theorem isNearest_cons (h : ¬ HoldsProject d (n :: above)) (hrest : IsNearest d above p) :
    IsNearest d (n :: above) p := by
  refine ⟨hrest.above.trans (List.suffix_cons n above), hrest.not_root, hrest.holds, ?_⟩
  intro q hq hne hholds
  rcases List.suffix_cons_iff.mp hq with rfl | hq
  · exact absurd hholds h
  · exact hrest.deepest q hq hne hholds

end

/-- What the search finds is the nearest project, and without one it finds nothing. -/
theorem projectAbove?_spec (d : Disk) (start : Place) :
    match projectAbove? d start with
    | some p => IsNearest d start p
    | none => NoProject d start := by
  induction start with
  | nil => exact noProject_root
  | cons n above ih =>
    rw [projectAbove?]
    by_cases hp : isProject d (n :: above) = true
    · rw [if_pos hp]
      exact isNearest_self (isProject_iff.mp hp)
    · rw [if_neg hp]
      have hno : ¬ HoldsProject d (n :: above) := fun h => hp (isProject_iff.mpr h)
      split at ih
      · exact isNearest_cons hno ih
      · exact noProject_cons hno ih

theorem projectAbove?_eq_some_iff {d : Disk} {start p : Place} :
    projectAbove? d start = some p ↔ IsNearest d start p := by
  have hspec := projectAbove?_spec d start
  cases hr : projectAbove? d start with
  | some q =>
    rw [hr] at hspec
    rw [Option.some_inj]
    exact ⟨fun h => h ▸ hspec, hspec.unique⟩
  | none =>
    rw [hr] at hspec
    exact iff_of_false nofun fun h => hspec p h.above h.not_root h.holds

theorem projectAbove?_eq_none_iff {d : Disk} {start : Place} :
    projectAbove? d start = none ↔ NoProject d start := by
  have hspec := projectAbove?_spec d start
  cases hr : projectAbove? d start with
  | some q =>
    rw [hr] at hspec
    exact iff_of_false nofun fun h => h q hspec.above hspec.not_root hspec.holds
  | none =>
    rw [hr] at hspec
    exact iff_of_true rfl hspec

/-! ## Turns of the search -/

/-- A run of the search from a place: how often it goes on, and how it ends. It gives up where the
directory above is the place itself, it ends at a project, and otherwise it goes on above. -/
inductive SearchRun (d : Disk) : Place → Nat → Option Place → Prop
  | root {p : Place} (h : p.tail = p) : SearchRun d p 0 none
  | found {p : Place} (h : p.tail ≠ p) (hp : HoldsProject d p) : SearchRun d p 0 (some p)
  | up {p : Place} {turns : Nat} {r : Option Place} (h : p.tail ≠ p) (hp : ¬ HoldsProject d p)
    (rest : SearchRun d p.tail turns r) : SearchRun d p (turns + 1) r

theorem tail_cons_ne (n : Text) (above : Place) : (n :: above).tail ≠ n :: above :=
  fun h => absurd (congrArg List.length h) (by simp)

/-- The search has a run, and it goes on at most once for each name of the place. -/
theorem exists_searchRun (d : Disk) (start : Place) :
    ∃ turns ≤ start.length, SearchRun d start turns (projectAbove? d start) := by
  induction start with
  | nil => exact ⟨0, Nat.le_refl 0, .root rfl⟩
  | cons n above ih =>
    rw [projectAbove?]
    by_cases hp : isProject d (n :: above) = true
    · rw [if_pos hp]
      exact ⟨0, Nat.zero_le _, .found (tail_cons_ne n above) (isProject_iff.mp hp)⟩
    · rw [if_neg hp]
      obtain ⟨turns, hturns, hrun⟩ := ih
      exact ⟨turns + 1, Nat.succ_le_succ hturns,
        .up (tail_cons_ne n above) (fun h => hp (isProject_iff.mpr h)) hrun⟩

/-- There is no other run. -/
theorem SearchRun.eq {d : Disk} {p : Place} {turns turns' : Nat} {r r' : Option Place}
    (h : SearchRun d p turns r) (h' : SearchRun d p turns' r') : turns = turns' ∧ r = r' := by
  induction h generalizing turns' r' with
  | root hroot =>
    cases h' with
    | root _ => exact ⟨rfl, rfl⟩
    | found hne _ => exact absurd hroot hne
    | up hne _ _ => exact absurd hroot hne
  | found hne hp =>
    cases h' with
    | root hroot => exact absurd hroot hne
    | found _ _ => exact ⟨rfl, rfl⟩
    | up _ hno _ => exact absurd hp hno
  | up hne hno _ ih =>
    cases h' with
    | root hroot => exact absurd hroot hne
    | found _ hp => exact absurd hp hno
    | up _ _ rest =>
      obtain ⟨rfl, rfl⟩ := ih rest
      exact ⟨rfl, rfl⟩

/-- From any place the search has exactly one run, which goes on at most once for each name of the
place. It ends at the deepest place at or above the start, the root left out, that holds a project,
and with nothing exactly if there is no such place. So the default directories both lie in the
nearest project above the program, or without one both lie in the current directory. -/
theorem nearest_project_found (d : Disk) (start : Place) :
    (∃ turns ≤ start.length, SearchRun d start turns (projectAbove? d start) ∧
      ∀ turns' r, SearchRun d start turns' r → turns' = turns ∧ r = projectAbove? d start) ∧
      (∀ p, projectAbove? d start = some p ↔ IsNearest d start p) ∧
      (projectAbove? d start = none ↔ NoProject d start) ∧
      ∀ h : Host, ∃ base,
        h.defaultDirectories d = ((Place.toPath base).child "input".toList,
          (Place.toPath base).child "output".toList) ∧
        (IsNearest d h.searchStart base ∨ NoProject d h.searchStart ∧ base = h.here) := by
  obtain ⟨turns, hturns, hrun⟩ := exists_searchRun d start
  refine ⟨⟨turns, hturns, hrun, fun turns' r hrun' => hrun'.eq hrun⟩,
    fun p => projectAbove?_eq_some_iff, projectAbove?_eq_none_iff, fun h => ?_⟩
  refine ⟨(h.project? d).getD h.here, h.defaultDirectories_eq d, ?_⟩
  cases hproject : h.project? d with
  | some p => exact .inl (projectAbove?_eq_some_iff.mp hproject)
  | none => exact .inr ⟨projectAbove?_eq_none_iff.mp hproject, rfl⟩

/-- A project at `a`. Below it, `a/b` has a file `src`, and `a/b/c` a directory `pyproject.toml`. -/
def mixedDisk : Disk :=
  let a : Place := ["a".toList]
  let b : Place := "b".toList :: a
  let c : Place := "c".toList :: b
  [(a, .directory), ("src".toList :: a, .directory), ("pyproject.toml".toList :: a, .file []),
    (b, .directory), ("src".toList :: b, .file []), ("pyproject.toml".toList :: b, .file []),
    (c, .directory), ("src".toList :: c, .directory), ("pyproject.toml".toList :: c, .directory)]

/-- A place in `a/b/c` that is not there. -/
def mixedStart : Place := ["d", "c", "b", "a"].map String.toList

/-- The search passes over the three places that are no projects. -/
theorem nearest_project_found_mixed :
    IsNearest mixedDisk mixedStart ["a".toList] ∧
      ∃ turns ≤ 4, SearchRun mixedDisk mixedStart turns (some ["a".toList]) := by
  have hfound : projectAbove? mixedDisk mixedStart = some ["a".toList] := by decide +kernel
  obtain ⟨⟨turns, hturns, hrun, -⟩, hsome, -⟩ := nearest_project_found mixedDisk mixedStart
  rw [hfound] at hrun
  exact ⟨(hsome _).mp hfound, turns, hturns, hrun⟩

end TestScribe.Host
