import TestScribe.Proofs.Disk.Writing

/-!
# Putting several files

A run writes its files one after the other. What a place holds in the end is the last file
put there, or what it held before (`at?_putFiles_last`, `at?_putFiles_other`), and where no
file takes the place of a directory the directories are the same (`sameDirectories_putFiles`).

Putting the same files once more changes nothing, neither what is where nor the order in
which the disk keeps it:

> `putFiles_putFiles`: a disk with these files is the same disk after they are put again.

The files that come before the last one at their place make this less than obvious: for a
moment they bring back what was there in between.
-/

namespace TestScribe

/-- A file and where it is. -/
structure PlacedFile where
  place : Place
  bytes : List UInt8
deriving Repr, DecidableEq

namespace Disk

/-- Puts files one after the other. -/
def putFiles (d : Disk) (fs : List PlacedFile) : Disk :=
  fs.foldl (fun d f => d.put f.place (.file f.bytes)) d

theorem putFiles_cons (d : Disk) (f : PlacedFile) (fs : List PlacedFile) :
    d.putFiles (f :: fs) = (d.put f.place (.file f.bytes)).putFiles fs := rfl

theorem putFiles_append (d : Disk) (fs gs : List PlacedFile) :
    d.putFiles (fs ++ gs) = (d.putFiles fs).putFiles gs := List.foldl_append

/-! ## What is where -/

/-- The two disks have their directories at the same places. -/
def SameDirectories (d d' : Disk) : Prop :=
  ∀ q, d'.at? q = some .directory ↔ d.at? q = some .directory

theorem SameDirectories.refl (d : Disk) : SameDirectories d d := fun _ => Iff.rfl

theorem SameDirectories.trans {d e f : Disk} (h : SameDirectories d e)
    (h' : SameDirectories e f) : SameDirectories d f := fun q => (h' q).trans (h q)

theorem SameDirectories.put {d d' : Disk} (h : SameDirectories d d') {place : Place}
    (hplace : d.at? place ≠ some .directory) (bytes : List UInt8) :
    SameDirectories d (d'.put place (.file bytes)) :=
  h.trans (at?_put_file_eq_directory fun hdir => hplace ((h place).mp hdir))

section
variable {d : Disk} {fs : List PlacedFile}

theorem sameDirectories_putFiles (h : ∀ f ∈ fs, d.at? f.place ≠ some .directory) :
    SameDirectories d (d.putFiles fs) := by
  have hrun : ∀ fs : List PlacedFile, (∀ f ∈ fs, d.at? f.place ≠ some .directory) →
      ∀ {d'}, SameDirectories d d' → SameDirectories d (d'.putFiles fs) := by
    intro fs
    induction fs with
    | nil => exact fun _ _ hd => hd
    | cons f fs ih =>
      intro h d' hd
      exact ih (fun g hg => h g (List.mem_cons_of_mem _ hg))
        (hd.put (h f List.mem_cons_self) f.bytes)
  exact hrun fs h (.refl d)

theorem at?_putFiles_other {q : Place} (hroot : ∀ f ∈ fs, f.place ≠ [])
    (h : ∀ f ∈ fs, f.place ≠ q) : (d.putFiles fs).at? q = d.at? q := by
  induction fs generalizing d with
  | nil => rfl
  | cons f fs ih =>
    rw [putFiles_cons, ih (fun g hg => hroot g (List.mem_cons_of_mem _ hg))
      (fun g hg => h g (List.mem_cons_of_mem _ hg)),
      at?_put d _ _ _ (hroot f List.mem_cons_self), if_neg (Ne.symm (h f List.mem_cons_self))]

theorem at?_putFiles_last {before after : List PlacedFile} {f : PlacedFile}
    (hroot : ∀ g ∈ before ++ f :: after, g.place ≠ []) (h : ∀ g ∈ after, g.place ≠ f.place) :
    (d.putFiles (before ++ f :: after)).at? f.place = some (.file f.bytes) := by
  have hafter : ∀ g ∈ after, g.place ≠ [] := fun g hg =>
    hroot g (List.mem_append_right _ (List.mem_cons_of_mem _ hg))
  have hf : f.place ≠ [] := hroot f (List.mem_append_right _ List.mem_cons_self)
  rw [putFiles_append, putFiles_cons, at?_putFiles_other hafter h, at?_put _ _ _ _ hf,
    if_pos rfl]

end

/-! ## Putting the same again -/

section
variable {d : Disk} {p q : Place} {e e' : Entry}

/-- The disk keeps something for the place. -/
def Occupied (d : Disk) (p : Place) : Prop := ∃ x ∈ d, x.1 = p

theorem occupied_put (d : Disk) (p : Place) (e : Entry) : Occupied (put p e d) p := by
  induction d with
  | nil => exact ⟨(p, e), List.mem_singleton_self _, rfl⟩
  | cons x xs ih =>
    rw [put]
    split
    · exact ⟨(p, e), List.mem_cons_self, rfl⟩
    · obtain ⟨y, hy, hyp⟩ := ih
      exact ⟨y, List.mem_cons_of_mem _ hy, hyp⟩

theorem Occupied.put (h : Occupied d p) (q : Place) (e : Entry) : Occupied (d.put q e) p := by
  induction d with
  | nil =>
    obtain ⟨y, hy, -⟩ := h
    cases hy
  | cons x xs ih =>
    obtain ⟨y, hy, hyp⟩ := h
    rw [Disk.put]
    split
    · rename_i hx
      rcases List.mem_cons.mp hy with rfl | hy
      · exact ⟨(q, e), List.mem_cons_self, hx ▸ hyp⟩
      · exact ⟨y, List.mem_cons_of_mem _ hy, hyp⟩
    · rcases List.mem_cons.mp hy with rfl | hy
      · exact ⟨y, List.mem_cons_self, hyp⟩
      · obtain ⟨z, hz, hzp⟩ := ih ⟨y, hy, hyp⟩
        exact ⟨z, List.mem_cons_of_mem _ hz, hzp⟩

theorem put_put_same (d : Disk) (p : Place) (e e' : Entry) :
    put p e' (put p e d) = put p e' d := by
  induction d with
  | nil => simp [put]
  | cons x xs ih =>
    by_cases hx : x.1 = p
    · simp [put, hx]
    · simp [put, hx, ih]

/-- At a place where something is, an entry is put in its stead, whatever is put elsewhere
first. -/
theorem put_put_comm (h : Occupied d p) (hpq : p ≠ q) :
    put q e' (put p e d) = put p e (put q e' d) := by
  induction d with
  | nil =>
    obtain ⟨y, hy, -⟩ := h
    cases hy
  | cons x xs ih =>
    by_cases hx : x.1 = p
    · have hxq : x.1 ≠ q := fun hq => hpq (hx.symm.trans hq)
      simp [put, hx, hpq]
    · have htail : Occupied xs p := by
        obtain ⟨y, hy, hyp⟩ := h
        rcases List.mem_cons.mp hy with rfl | hy
        · exact absurd hyp hx
        · exact ⟨y, hy, hyp⟩
      by_cases hxq : x.1 = q
      · simp [put, hxq, Ne.symm hpq]
      · simp [put, hx, hxq, ih htail]

/-- Putting what is there already changes nothing. -/
theorem put_of_at? (hp : p ≠ []) (h : d.at? p = some e) : put p e d = d := by
  rw [at?, if_neg hp] at h
  induction d with
  | nil => cases h
  | cons x xs ih =>
    rw [List.lookup_cons] at h
    by_cases hx : x.1 = p
    · rw [beq_iff_eq.mpr hx.symm] at h
      obtain rfl : x.2 = e := Option.some.inj h
      rw [put, if_pos hx, ← hx]
    · rw [beq_false_of_ne (Ne.symm hx)] at h
      rw [put, if_neg hx, ih h]

/-- What is put at a place is lost when a file is put there later. -/
theorem putFiles_put {fs : List PlacedFile} (h : Occupied d p) (hlater : ∃ f ∈ fs, f.place = p) :
    (d.put p e).putFiles fs = d.putFiles fs := by
  induction fs generalizing d with
  | nil =>
    obtain ⟨f, hf, -⟩ := hlater
    cases hf
  | cons f fs ih =>
    rw [putFiles_cons, putFiles_cons]
    by_cases hf : f.place = p
    · rw [hf, put_put_same]
    · obtain ⟨g, hg, hgp⟩ := hlater
      rw [put_put_comm h (Ne.symm hf), ih (h.put _ _)]
      rcases List.mem_cons.mp hg with rfl | hg
      · exact absurd hgp hf
      · exact ⟨g, hg, hgp⟩

theorem Occupied.putFiles (h : Occupied d p) (fs : List PlacedFile) :
    Occupied (d.putFiles fs) p := by
  induction fs generalizing d with
  | nil => exact h
  | cons f fs ih => exact ih (h.put _ _)

/-- A disk with these files is the same disk after they are put again. -/
theorem putFiles_putFiles (d : Disk) {fs : List PlacedFile} (hroot : ∀ f ∈ fs, f.place ≠ []) :
    (d.putFiles fs).putFiles fs = d.putFiles fs := by
  induction fs generalizing d with
  | nil => rfl
  | cons f fs ih =>
    have hfs : ∀ g ∈ fs, g.place ≠ [] := fun g hg => hroot g (List.mem_cons_of_mem _ hg)
    have hf : f.place ≠ [] := hroot f List.mem_cons_self
    have ih' := ih (d.put f.place (.file f.bytes)) hfs
    rw [putFiles_cons, putFiles_cons]
    by_cases hlater : ∃ g ∈ fs, g.place = f.place
    · -- A later file takes the place again.
      rw [putFiles_put ((occupied_put _ _ _).putFiles fs) hlater, ih']
    · have hlast : ∀ g ∈ fs, g.place ≠ f.place := fun g hg hgf => hlater ⟨g, hg, hgf⟩
      rw [put_of_at? hf, ih']
      rw [at?_putFiles_other hfs hlast, at?_put _ _ _ _ hf, if_pos rfl]

end

end Disk
end TestScribe
