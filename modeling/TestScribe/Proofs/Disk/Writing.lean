import Mathlib.Control.Monad.Basic
import TestScribe.Disk.Basic

/-!
# What writing a file leaves alone

Writing a file puts an entry where no directory is, so it neither makes nor removes a
directory, and every path goes on leading to the place that it led to before:

> `resolve_of_write`: a path leads to a place after a write exactly if it did before.

From this, reading after a write is settled by the places alone. The written path gives
the written bytes (`read_write_same`), and a path that leads elsewhere gives what it gave
before (`read_write_other`). Two paths can be spelled differently and still lead to one
place, so "elsewhere" is about places: `Disk.Meet`.
-/

namespace TestScribe.Disk

/-- Two paths that lead to one place. -/
def Meet (d : Disk) (here : Place) (p q : Path) : Prop :=
  ∃ place, d.resolve here p = .ok place ∧ d.resolve here q = .ok place

/-- Whether two paths lead to one place can be found out by following both. -/
instance (d : Disk) (here : Place) (p q : Path) : Decidable (d.Meet here p q) :=
  match hp : d.resolve here p with
  | .error _ => isFalse fun ⟨_, hplace, _⟩ => by rw [hp] at hplace; cases hplace
  | .ok place =>
    decidable_of_iff (d.resolve here q = .ok place)
      ⟨fun hq => ⟨place, hp, hq⟩, fun ⟨_, hp', hq⟩ => by rw [hq, ← hp', hp]⟩

/-! ## Places -/

/-- A place that is no directory is not the root. -/
theorem ne_root_of_not_directory {d : Disk} {place : Place} (h : d.at? place ≠ some .directory) :
    place ≠ [] := fun he => h (he ▸ at?_root d)

/-- A place with nothing there is not the root. -/
theorem ne_root_of_none {d : Disk} {place : Place} (h : d.at? place = none) : place ≠ [] :=
  ne_root_of_not_directory fun hdir => nomatch h.symm.trans hdir

/-- A file put where no directory is makes no directory and removes none. -/
theorem at?_put_file_eq_directory {d : Disk} {place : Place} {bytes : List UInt8}
    (h : d.at? place ≠ some .directory) (q : Place) :
    at? (put place (.file bytes) d) q = some .directory ↔ d.at? q = some .directory := by
  have hroot : place ≠ [] := ne_root_of_not_directory h
  rw [at?_put d place q _ hroot]
  by_cases hq : q = place
  · rw [if_pos hq, hq]
    exact ⟨fun he => by simp at he, fun he => absurd he h⟩
  · rw [if_neg hq]

/-- The names lead to a place exactly if every directory on the way is there. -/
theorem locate_cons_eq_ok {d : Disk} {start place : Place} {n : Text} {ns : List Text} :
    d.locate start (n :: ns) = .ok place ↔
      d.at? start = some .directory ∧
        if n = aboveName then d.locate start.tail ns = .ok place
        else (Utf8.encode n).length ≤ longestFileName ∧ d.locate (n :: start) ns = .ok place := by
  rw [locate]
  cases hs : d.at? start with
  | none => simp
  | some e =>
    cases e with
    | file bytes => simp
    | directory =>
      by_cases hn : n = aboveName
      · simp [hn]
      · by_cases hl : longestFileName < (Utf8.encode n).length
        · have hl' : ¬ (Utf8.encode n).length ≤ longestFileName := Nat.not_le.mpr hl
          simp [hn, hl, hl']
        · simp [hn, hl, Nat.le_of_not_lt hl]

/-- Two disks with the same directories lead every path to the same places. -/
theorem locate_congr {d d' : Disk}
    (h : ∀ q, d'.at? q = some .directory ↔ d.at? q = some .directory) (ns : List Text) :
    ∀ start place, d'.locate start ns = .ok place ↔ d.locate start ns = .ok place := by
  induction ns with
  | nil => intro start place; exact Iff.rfl
  | cons n ns ih =>
    intro start place
    rw [locate_cons_eq_ok, locate_cons_eq_ok, h start, ih, ih]

theorem resolve_congr {d d' : Disk}
    (h : ∀ q, d'.at? q = some .directory ↔ d.at? q = some .directory)
    (here : Place) (p : Path) (place : Place) :
    d'.resolve here p = .ok place ↔ d.resolve here p = .ok place := by
  unfold resolve
  split
  · exact Iff.rfl
  · exact locate_congr h ..

/-- A path with a NUL leads nowhere. -/
theorem hasNul_eq_false_of_resolve {d : Disk} {here : Place} {p : Path} {place : Place}
    (h : d.resolve here p = .ok place) : p.hasNul = false := by
  unfold resolve at h
  split at h
  · cases h
  · rename_i hn
    exact Bool.eq_false_iff.mpr hn

/-- A path without a NUL leads where its names lead. -/
theorem resolve_eq_locate {d : Disk} {here : Place} {p : Path} (h : p.hasNul = false) :
    d.resolve here p = d.locate (if p.anchor = .here then here else []) p.names :=
  if_neg (by rw [h]; exact Bool.false_ne_true)

theorem resolve_eq_holdsNul {d : Disk} {here : Place} {p : Path} (h : p.hasNul = true) :
    d.resolve here p = .error .holdsNul := by
  rw [resolve, if_pos h]

/-- Only a NUL in the path is reported as one. -/
theorem locate_ne_holdsNul {d : Disk} (ns : List Text) :
    ∀ start, d.locate start ns ≠ .error .holdsNul := by
  induction ns with
  | nil => intro start h; cases h
  | cons n ns ih =>
    intro start h
    rw [locate] at h
    split at h
    · cases h
    · cases h
    · split at h
      · exact ih _ h
      · split at h
        · cases h
        · exact ih _ h

theorem resolve_ne_holdsNul (d : Disk) (here : Place) {p : Path} (hp : p.hasNul = false) :
    d.resolve here p ≠ .error .holdsNul := by
  rw [resolve_eq_locate hp]
  exact locate_ne_holdsNul _ _

/-! ## Reading -/

theorem read_eq_ok_iff {d : Disk} {here : Place} {p : Path} {bytes : List UInt8} :
    d.read here p = .ok bytes ↔
      ∃ place, d.resolve here p = .ok place ∧ d.at? place = some (.file bytes) := by
  unfold read lookup
  cases hr : d.resolve here p with
  | error e => simp
  | ok place =>
    cases ha : d.at? place with
    | none => simp [ha]
    | some e => cases e <;> simp [ha]

theorem read_ne_holdsNul {d : Disk} {here : Place} {p : Path} (hp : p.hasNul = false) :
    d.read here p ≠ .error .holdsNul := by
  have hr := resolve_ne_holdsNul d here hp
  unfold read lookup
  cases hd : d.resolve here p with
  | error e =>
    intro h
    cases h
    exact hr hd
  | ok place =>
    cases ha : d.at? place with
    | none => simp [ha]
    | some e => cases e <;> simp [ha]

/-- What is a file can be read. -/
theorem read_of_isFile {d : Disk} {here : Place} {p : Path} (h : d.isFile here p = .ok true) :
    ∃ bytes, d.read here p = .ok bytes := by
  unfold isFile ask at h
  unfold read
  cases hl : d.lookup here p with
  | error e =>
    rw [hl] at h
    dsimp only at h
    split at h <;> cases h
  | ok e =>
    rw [hl] at h
    cases e with
    | file bytes => exact ⟨bytes, rfl⟩
    | directory => cases h

/-! ## Writing -/

/-- Writing succeeds exactly where the path leads to a place without a directory. -/
theorem write_eq_ok_iff {d d' : Disk} {here : Place} {p : Path} {bytes : List UInt8} :
    d.write here p bytes = .ok d' ↔
      ∃ place, d.resolve here p = .ok place ∧ d.at? place ≠ some .directory ∧
        d' = put place (.file bytes) d := by
  unfold write
  cases hr : d.resolve here p with
  | error e => simp
  | ok place =>
    cases ha : d.at? place with
    | none => simp [ha, eq_comm]
    | some e => cases e <;> simp [ha, eq_comm]

theorem write_ne_holdsNul {d : Disk} {here : Place} {p : Path} {bytes : List UInt8}
    (hp : p.hasNul = false) : d.write here p bytes ≠ .error .holdsNul := by
  have hr := resolve_ne_holdsNul d here hp
  unfold write
  cases hd : d.resolve here p with
  | error e =>
    intro h
    cases h
    exact hr hd
  | ok place =>
    cases ha : d.at? place with
    | none => simp [ha]
    | some e => cases e <;> simp [ha]

section
variable {d d' : Disk} {here : Place} {p : Path} {bytes : List UInt8}

theorem resolve_of_write (h : d.write here p bytes = .ok d') (q : Path) (place : Place) :
    d'.resolve here q = .ok place ↔ d.resolve here q = .ok place := by
  obtain ⟨at_, -, hdir, rfl⟩ := write_eq_ok_iff.mp h
  exact resolve_congr (at?_put_file_eq_directory hdir) here q place

theorem read_write_same (h : d.write here p bytes = .ok d') : d'.read here p = .ok bytes := by
  obtain ⟨place, hp, hdir, he⟩ := write_eq_ok_iff.mp h
  have hroot : place ≠ [] := ne_root_of_not_directory hdir
  rw [read_eq_ok_iff]
  refine ⟨place, (resolve_of_write h p place).mpr hp, ?_⟩
  rw [he, at?_put d place place _ hroot, if_pos rfl]

theorem read_write_other (h : d.write here p bytes = .ok d') {q : Path} (hq : ¬ d'.Meet here p q)
    (content : List UInt8) : d'.read here q = .ok content ↔ d.read here q = .ok content := by
  obtain ⟨place, hp, hdir, he⟩ := write_eq_ok_iff.mp h
  have hroot : place ≠ [] := ne_root_of_not_directory hdir
  have hp' := (resolve_of_write h p place).mpr hp
  have hat : ∀ r, d'.resolve here q = .ok r → d'.at? r = d.at? r := by
    intro r hr
    have hne : r ≠ place := fun hrp => hq ⟨place, hp', hrp ▸ hr⟩
    rw [he, at?_put d place r _ hroot, if_neg hne]
  rw [read_eq_ok_iff, read_eq_ok_iff]
  constructor
  · rintro ⟨r, hr, hc⟩
    exact ⟨r, (resolve_of_write h q r).mp hr, hat r hr ▸ hc⟩
  · rintro ⟨r, hr, hc⟩
    have hr' := (resolve_of_write h q r).mpr hr
    exact ⟨r, hr', (hat r hr').trans hc⟩

end

end TestScribe.Disk
