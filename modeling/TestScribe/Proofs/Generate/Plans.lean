import TestScribe.Proofs.Disk.Files
import TestScribe.Proofs.Generate.Steps

/-!
# Runs as plans that are carried out

What becomes of a document is settled before anything is written for it: its result, and the
file that is to hold its class (`plan`, `runOne_eq_plan`). A plan looks at the disk in two
ways only. It reads the document, and it asks where directories are, so disks that agree on
both make the same plan (`plan_congr`).

So where no file of a run takes the place of one of its documents, the documents do not
disturb each other: each gets the result that it gets alone, and the disk changes by the
planned files.

> `runAll_of_agree`: on every disk that agrees with `d` about the documents, a run gives the
> results that the documents have alone on `d`, and puts the files that are planned on `d`.
-/

namespace TestScribe.Generate

/-! ## One document -/

/-- What a document is to become: what the report says of it, and a file. -/
structure Plan where
  generated : Generated
  file : PlacedFile

/-- The plan for a document, or why there is none. -/
def plan (d : Disk) (here : Place) (s : Settings) (path : Path) : Except Stop Plan :=
  match prepare d here s path with
  | .error stop => .error stop
  | .ok (generated, code) =>
    match d.resolve here generated.path with
    | .error _ =>
      .error (if generated.path.hasNul then .breakdown .nul
        else .failure (.unwritable generated.path))
    | .ok place =>
      if d.at? place = some .directory then .error (.failure (.unwritable generated.path))
      else .ok ⟨generated, place, Utf8.encode code⟩

/-- The result of a document with this plan. -/
def resultOf (s : Settings) (path : Path) : Except Stop Plan → Except Stop FileResult
  | .ok p => .ok ⟨path, .ok p.generated⟩
  | .error (.failure f) => if s.failFast then .error (.failure f) else .ok ⟨path, .error f⟩
  | .error (.breakdown b) => .error (.breakdown b)

/-- The files of a plan. -/
def filesOf : Except Stop Plan → List PlacedFile
  | .ok p => [p.file]
  | .error _ => []

theorem mem_filesOf {f : PlacedFile} {x : Except Stop Plan} (h : f ∈ filesOf x) :
    ∃ p, x = .ok p ∧ p.file = f := by
  cases x with
  | error stop => cases h
  | ok p => exact ⟨p, rfl, (List.mem_singleton.mp h).symm⟩

section
variable {d d' : Disk} {here : Place} {s : Settings} {path : Path}

/-- Writing a class comes to what its plan says. -/
theorem writeClass_eq (code : Text) : writeClass d here path code =
    match d.resolve here path with
    | .error _ => .error (if path.hasNul then .breakdown .nul else .failure (.unwritable path))
    | .ok place =>
      if d.at? place = some .directory then .error (.failure (.unwritable path))
      else .ok (d.put place (.file (Utf8.encode code))) := by
  unfold writeClass Disk.write
  cases hr : d.resolve here path with
  | error e =>
    by_cases hnul : path.hasNul = true
    · obtain rfl : .holdsNul = e := Except.error.inj ((Disk.resolve_eq_holdsNul hnul).symm.trans hr)
      simp [hnul]
    · have hne := Disk.resolve_ne_holdsNul d here (Bool.eq_false_iff.mpr hnul)
      rw [hr] at hne
      cases e <;> simp_all
  | ok place =>
    cases ha : d.at? place with
    | none => simp [ha]
    | some e => cases e <;> simp [ha]

theorem generateFile_eq_plan : generateFile d here s path =
    match plan d here s path with
    | .error stop => (.error stop, d)
    | .ok p => (.ok p.generated, d.putFiles [p.file]) := by
  unfold generateFile plan
  cases prepare d here s path with
  | error stop => rfl
  | ok gc =>
    obtain ⟨g, code⟩ := gc
    dsimp only
    rw [writeClass_eq]
    cases d.resolve here g.path with
    | error e => rfl
    | ok place =>
      dsimp only
      by_cases hdir : d.at? place = some .directory
      · rw [if_pos hdir, if_pos hdir]
      · rw [if_neg hdir, if_neg hdir]
        rfl

/-- A document gets the result that its plan says, and the disk gets the files. -/
theorem runOne_eq_plan : runOne d here s path =
    (resultOf s path (plan d here s path), d.putFiles (filesOf (plan d here s path))) := by
  rw [runOne, generateFile_eq_plan]
  cases plan d here s path with
  | ok p => rfl
  | error stop =>
    cases stop with
    | breakdown b => rfl
    | failure f =>
      dsimp only [resultOf]
      split
      · rfl
      · rfl

theorem result_eq_plan : (runOne d here s path).1 = resultOf s path (plan d here s path) := by
  rw [runOne_eq_plan]

theorem plan_eq_ok {p : Plan} : plan d here s path = .ok p ↔
    ∃ code, prepare d here s path = .ok (p.generated, code) ∧
      d.resolve here p.generated.path = .ok p.file.place ∧
      d.at? p.file.place ≠ some .directory ∧ p.file.bytes = Utf8.encode code := by
  unfold plan
  constructor
  · intro h
    split at h
    · cases h
    · rename_i g code hprep
      split at h
      · cases h
      · rename_i place hplace
        split at h
        · cases h
        · rename_i hdir
          cases h
          exact ⟨code, hprep, hplace, hdir, rfl⟩
  · obtain ⟨g, place, bytes⟩ := p
    rintro ⟨code, hprep, hplace, hdir, rfl⟩
    rw [hprep]
    dsimp only
    rw [hplace]
    exact if_neg hdir

/-- A result says that a file was generated exactly if that was the plan. -/
theorem resultOf_eq_ok {r : FileResult} {x : Except Stop Plan} (h : resultOf s path x = .ok r)
    (g : Generated) : r.outcome = .ok g ↔ ∃ p, x = .ok p ∧ p.generated = g := by
  unfold resultOf at h
  split at h
  · cases h
    simp
  · split at h
    · cases h
    · cases h
      simp
  · cases h

theorem input_of_resultOf {r : FileResult} {x : Except Stop Plan}
    (h : resultOf s path x = .ok r) : r.input = path := by
  unfold resultOf at h
  split at h
  · cases h
    rfl
  · split at h
    · cases h
    · cases h
      rfl
  · cases h

/-! ## Plans on two disks -/

/-- A document that cannot be read fails for its path and for nothing else. -/
theorem readDocument_of_error {e : DiskError} (h : d.read here path = .error e) (written : Text) :
    readDocument d here path written =
      .error (if path.hasNul then .breakdown .nul else .failure (.unreadable written)) := by
  unfold readDocument
  rw [h]
  by_cases hnul : path.hasNul = true
  · have hread : d.read here path = .error .holdsNul := by
      rw [Disk.read, Disk.lookup, Disk.resolve_eq_holdsNul hnul]
    obtain rfl : .holdsNul = e := Except.error.inj (hread.symm.trans h)
    rw [if_pos hnul]
  · have hne := @Disk.read_ne_holdsNul d here path (Bool.eq_false_iff.mpr hnul)
    rw [h] at hne
    rw [if_neg hnul]
    cases e <;> simp_all

/-- Disks with the same directories and the same document make the same plan. -/
theorem plan_congr (hdir : Disk.SameDirectories d d')
    (hread : ∀ bytes, d'.read here path = .ok bytes ↔ d.read here path = .ok bytes) :
    plan d' here s path = plan d here s path := by
  have hdocument : ∀ written,
      readDocument d' here path written = readDocument d here path written := by
    intro written
    cases hd : d.read here path with
    | ok bytes =>
      rw [readDocument_eq_ok.mpr ⟨bytes, hd, rfl⟩,
        readDocument_eq_ok.mpr ⟨bytes, (hread bytes).mpr hd, rfl⟩]
    | error e =>
      cases hd' : d'.read here path with
      | ok bytes => rw [(hread bytes).mp hd'] at hd; cases hd
      | error e' => rw [readDocument_of_error hd, readDocument_of_error hd']
  have hprepare : prepare d' here s path = prepare d here s path := by
    unfold prepare
    rw [hdocument]
  unfold plan
  rw [hprepare]
  cases prepare d here s path with
  | error stop => rfl
  | ok gc =>
    obtain ⟨g, code⟩ := gc
    dsimp only
    have hplace := Disk.resolve_congr hdir here g.path
    cases hr : d.resolve here g.path with
    | ok place =>
      rw [(hplace place).mpr hr]
      dsimp only
      by_cases hat : d.at? place = some .directory
      · rw [if_pos hat, if_pos ((hdir place).mpr hat)]
      · rw [if_neg hat, if_neg fun h => hat ((hdir place).mp h)]
    | error e =>
      cases hr' : d'.resolve here g.path with
      | ok place => rw [(hplace place).mp hr'] at hr; cases hr
      | error e' => rfl

end

/-! ## Several documents -/

/-- The files that a run plans: those of its documents, up to one that ends it. -/
def filesOfRun (d : Disk) (here : Place) (s : Settings) : List Path → List PlacedFile
  | [] => []
  | path :: paths =>
    filesOf (plan d here s path) ++
      match (runOne d here s path).1 with
      | .ok _ => filesOfRun d here s paths
      | .error _ => []

/-- No planned file takes the place of a document. -/
def Apart (d : Disk) (here : Place) (s : Settings) (paths : List Path) : Prop :=
  ∀ path ∈ paths, ∀ p, plan d here s path = .ok p →
    ∀ q ∈ paths, d.resolve here q ≠ .ok p.file.place

/-- The disks have the same directories and the same documents. -/
structure Agree (d d' : Disk) (here : Place) (paths : List Path) : Prop where
  directories : Disk.SameDirectories d d'
  documents : ∀ path ∈ paths, ∀ bytes,
    d'.read here path = .ok bytes ↔ d.read here path = .ok bytes

section
variable {d d' : Disk} {here : Place} {s : Settings} {paths : List Path}

theorem Agree.refl (d : Disk) (here : Place) (paths : List Path) : Agree d d here paths :=
  ⟨.refl d, fun _ _ _ => Iff.rfl⟩

/-- Files that are put where no directory and no document is make no difference. -/
theorem Agree.putFiles (h : Agree d d' here paths) {fs : List PlacedFile}
    (hdir : ∀ f ∈ fs, d.at? f.place ≠ some .directory)
    (hplace : ∀ f ∈ fs, ∀ path ∈ paths, d.resolve here path ≠ .ok f.place) :
    Agree d (d'.putFiles fs) here paths := by
  have hdir' : ∀ f ∈ fs, d'.at? f.place ≠ some .directory := fun f hf hat =>
    hdir f hf ((h.directories f.place).mp hat)
  have hsame : Disk.SameDirectories d' (d'.putFiles fs) := Disk.sameDirectories_putFiles hdir'
  refine ⟨h.directories.trans hsame, fun path hpath bytes => ?_⟩
  rw [← h.documents path hpath, Disk.read_eq_ok_iff, Disk.read_eq_ok_iff]
  refine exists_congr fun place => ?_
  rw [Disk.resolve_congr hsame]
  refine and_congr_right fun hresolve => ?_
  rw [Disk.at?_putFiles_other fun f hf => Disk.ne_root_of_not_directory (hdir' f hf)]
  rintro f hf rfl
  exact hplace f hf path hpath ((Disk.resolve_congr h.directories here path f.place).mp hresolve)

/-- Every file of a run is the file of one of its documents. -/
theorem exists_plan_of_mem {f : PlacedFile} (h : f ∈ filesOfRun d here s paths) :
    ∃ path ∈ paths, ∃ p, plan d here s path = .ok p ∧ p.file = f := by
  induction paths with
  | nil => cases h
  | cons path paths ih =>
    rw [filesOfRun, List.mem_append] at h
    rcases h with h | h
    · obtain ⟨p, hp, hf⟩ := mem_filesOf h
      exact ⟨path, List.mem_cons_self, p, hp, hf⟩
    · split at h
      · obtain ⟨q, hq, p, hp, hf⟩ := ih h
        exact ⟨q, List.mem_cons_of_mem _ hq, p, hp, hf⟩
      · cases h

theorem not_directory_of_mem {f : PlacedFile} (h : f ∈ filesOfRun d here s paths) :
    d.at? f.place ≠ some .directory := by
  obtain ⟨path, -, p, hp, rfl⟩ := exists_plan_of_mem h
  obtain ⟨code, -, -, hdir, -⟩ := plan_eq_ok.mp hp
  exact hdir

/-- The files of a run are no documents, so the disk with them has the same documents. -/
theorem Apart.agree (h : Apart d here s paths) :
    Agree d (d.putFiles (filesOfRun d here s paths)) here paths := by
  refine (Agree.refl d here paths).putFiles (fun f hf => not_directory_of_mem hf) ?_
  intro f hf q hq
  obtain ⟨path, hpath, p, hp, rfl⟩ := exists_plan_of_mem hf
  exact h path hpath p hp q hq

/-- A run gives each document the result that it has alone, and puts the files that are
planned. -/
theorem runAll_of_agree (hapart : Apart d here s paths) :
    ∀ {d'}, Agree d d' here paths → runAll here s d' paths =
      (paths.mapM fun path => (runOne d here s path).1,
        d'.putFiles (filesOfRun d here s paths)) := by
  induction paths with
  | nil => exact fun _ => rfl
  | cons path paths ih =>
    intro d' hagree
    have hplan : plan d' here s path = plan d here s path :=
      plan_congr hagree.directories (hagree.documents path List.mem_cons_self)
    have hrest : Apart d here s paths := fun q hq p hp q' hq' =>
      hapart q (List.mem_cons_of_mem _ hq) p hp q' (List.mem_cons_of_mem _ hq')
    -- What is put for this document is no document of the rest.
    have hnext : Agree d (d'.putFiles (filesOf (plan d here s path))) here paths := by
      refine Agree.putFiles ⟨hagree.directories,
        fun q hq => hagree.documents q (List.mem_cons_of_mem _ hq)⟩ ?_ ?_
      · intro f hf
        obtain ⟨p, hp, rfl⟩ := mem_filesOf hf
        obtain ⟨code, -, -, hdir, -⟩ := plan_eq_ok.mp hp
        exact hdir
      · intro f hf q hq
        obtain ⟨p, hp, rfl⟩ := mem_filesOf hf
        exact hapart path List.mem_cons_self p hp q (List.mem_cons_of_mem _ hq)
    rw [runAll, runOne_eq_plan, hplan, filesOfRun, List.mapM_cons, result_eq_plan]
    cases resultOf s path (plan d here s path) with
    | error stop =>
      dsimp only
      rw [List.append_nil]
      rfl
    | ok r =>
      dsimp only
      rw [ih hrest hnext, Disk.putFiles_append]
      cases paths.mapM fun path => (runOne d here s path).1 with
      | error stop => rfl
      | ok rs => rfl

end

end TestScribe.Generate
