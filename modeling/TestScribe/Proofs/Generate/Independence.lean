import TestScribe.Proofs.Generate.Isolation
import TestScribe.Proofs.Generate.Outputs
import TestScribe.Proofs.Generate.Plans

/-!
# A run and its documents on their own

A run changes the disk while it goes on, and yet its report is made of the results that its
documents have alone, on the disk as the scan leaves it, provided that no class takes the
place of a document. On the disk each class is found where its path leads, if no later class
took this place, and nothing else has changed (`Generates`).

This takes for granted that the run comes to its end. With documents that are all legible
there is one thing left that can break it down, and that is a NUL in the path of a class:

> `run_equals_single_runs_iff`: a run gives the results of its documents alone and leaves
> the disk with their classes exactly if no class that is ready to be written has a NUL in
> its path.

The path of a class has a NUL when the suffix of the classes or the extension of their files
has one. Such a run ends without a report (`run_broken_by_nul`).
-/

namespace TestScribe.Generate

/-! ## Results one by one -/

section
variable {α β ε : Type} {f : α → Except ε β}

theorem mapM_cons_eq_ok {x : α} {xs : List α} {zs : List β} :
    (x :: xs).mapM f = .ok zs ↔ ∃ y ys, f x = .ok y ∧ xs.mapM f = .ok ys ∧ zs = y :: ys := by
  rw [List.mapM_cons]
  cases f x with
  | error e => exact ⟨nofun, nofun⟩
  | ok y =>
    cases xs.mapM f with
    | error e => exact ⟨nofun, nofun⟩
    | ok ys =>
      constructor
      · exact fun h => ⟨y, ys, rfl, rfl, (Except.ok.inj h).symm⟩
      · rintro ⟨y', ys', hy, hys, rfl⟩
        rw [← Except.ok.inj hy, ← Except.ok.inj hys]
        rfl

/-- There are results for all exactly if there is one for each. -/
theorem exists_mapM_iff {xs : List α} :
    (∃ ys, xs.mapM f = .ok ys) ↔ ∀ x ∈ xs, ∃ y, f x = .ok y := by
  induction xs with
  | nil => exact ⟨fun _ _ hx => absurd hx List.not_mem_nil, fun _ => ⟨[], rfl⟩⟩
  | cons x xs ih =>
    rw [List.forall_mem_cons, ← ih]
    constructor
    · rintro ⟨zs, h⟩
      obtain ⟨y, ys, hy, hys, -⟩ := mapM_cons_eq_ok.mp h
      exact ⟨⟨y, hy⟩, ys, hys⟩
    · rintro ⟨⟨y, hy⟩, ys, hys⟩
      exact ⟨y :: ys, mapM_cons_eq_ok.mpr ⟨y, ys, hy, hys, rfl⟩⟩

theorem exists_of_mem_mapM {xs : List α} :
    ∀ {ys : List β}, xs.mapM f = .ok ys → ∀ y ∈ ys, ∃ x ∈ xs, f x = .ok y := by
  induction xs with
  | nil =>
    intro ys h y hy
    cases h
    cases hy
  | cons x xs ih =>
    intro ys h y hy
    obtain ⟨y', ys', hy', hys, rfl⟩ := mapM_cons_eq_ok.mp h
    rcases List.mem_cons.mp hy with rfl | hy
    · exact ⟨x, List.mem_cons_self, hy'⟩
    · obtain ⟨x', hx', hxy⟩ := ih hys y hy
      exact ⟨x', List.mem_cons_of_mem _ hx', hxy⟩

end

/-! ## What a report says of the disk -/

/-- The disk `d'` is the disk `d` with the classes of a report. Each class is at the place
that its path leads to, if no later one took it, and nothing else has changed. -/
structure Generates (d d' : Disk) (here : Place) (report : Report) : Prop where
  last : ∀ before r after g, report = before ++ r :: after → r.outcome = .ok g →
    ∃ place, d.resolve here g.path = .ok place ∧
      ((∀ r' ∈ after, ∀ g', r'.outcome = .ok g' → d.resolve here g'.path ≠ .ok place) →
        ∃ bytes ls, d.read here r.input = .ok bytes ∧
          statements (Utf8.decodeReplacing bytes) = .ok ls ∧
          d'.at? place = some (.file
            (Utf8.encode (ClassTemplate.acceptanceTest.render g.className ls))))
  others : ∀ place,
    (∀ r ∈ report, ∀ g, r.outcome = .ok g → d.resolve here g.path ≠ .ok place) →
      d'.at? place = d.at? place

section
variable {d d' : Disk} {here : Place} {s : Settings} {path : Path}

/-- The files of documents that all have results are the files of each of them. -/
theorem filesOfRun_eq_flatMap {paths : List Path}
    (h : ∀ path ∈ paths, ∃ r, (runOne d here s path).1 = .ok r) :
    filesOfRun d here s paths = paths.flatMap fun path => filesOf (plan d here s path) := by
  induction paths with
  | nil => rfl
  | cons path paths ih =>
    obtain ⟨r, hr⟩ := h path List.mem_cons_self
    rw [filesOfRun, hr, List.flatMap_cons]
    exact congrArg _ (ih fun q hq => h q (List.mem_cons_of_mem _ hq))

/-- What the plan of a generated file says. -/
theorem exists_plan_of_outcome {r : FileResult} (h : (runOne d here s r.input).1 = .ok r)
    {g : Generated} (hg : r.outcome = .ok g) :
    ∃ p, plan d here s r.input = .ok p ∧ d.resolve here g.path = .ok p.file.place ∧
      ∃ bytes ls, d.read here r.input = .ok bytes ∧
        statements (Utf8.decodeReplacing bytes) = .ok ls ∧
        p.file.bytes = Utf8.encode (ClassTemplate.acceptanceTest.render g.className ls) := by
  rw [result_eq_plan] at h
  obtain ⟨p, hp, rfl⟩ := (resultOf_eq_ok h g).mp hg
  obtain ⟨code, hprep, hplace, -, hbytes⟩ := plan_eq_ok.mp hp
  obtain ⟨-, markup, ls, hread, hls, hgen, rfl⟩ := prepare_eq_ok.mp hprep
  obtain ⟨bytes, hbytes', rfl⟩ := readDocument_eq_ok.mp hread
  have hclass : p.generated.className = s.className r.input.name := by rw [hgen]
  refine ⟨p, hp, hplace, bytes, ls, hbytes', hls, ?_⟩
  rw [hbytes, hclass]

/-- The file of a document is where its class is written. -/
theorem exists_outcome_of_mem {report : Report}
    (halone : ∀ r ∈ report, (runOne d here s r.input).1 = .ok r) {f : PlacedFile}
    (hf : f ∈ (report.map (·.input)).flatMap fun path => filesOf (plan d here s path)) :
    ∃ r ∈ report, ∃ g, r.outcome = .ok g ∧ d.resolve here g.path = .ok f.place := by
  obtain ⟨path, hpath, hf⟩ := List.mem_flatMap.mp hf
  obtain ⟨r, hr, rfl⟩ := List.mem_map.mp hpath
  obtain ⟨p, hp, rfl⟩ := mem_filesOf hf
  have hresult := halone r hr
  rw [result_eq_plan, hp] at hresult
  have hg := (resultOf_eq_ok hresult p.generated).mpr ⟨p, rfl, rfl⟩
  obtain ⟨code, -, hplace, -, -⟩ := plan_eq_ok.mp hp
  exact ⟨r, hr, p.generated, hg, hplace⟩

theorem generates_putFiles {report : Report}
    (halone : ∀ r ∈ report, (runOne d here s r.input).1 = .ok r) :
    Generates d (d.putFiles ((report.map (·.input)).flatMap fun path =>
      filesOf (plan d here s path))) here report := by
  have hroot : ∀ f ∈ (report.map (·.input)).flatMap fun path => filesOf (plan d here s path),
      f.place ≠ [] := by
    intro f hf
    obtain ⟨path, -, hf⟩ := List.mem_flatMap.mp hf
    obtain ⟨p, hp, rfl⟩ := mem_filesOf hf
    obtain ⟨code, -, -, hdir, -⟩ := plan_eq_ok.mp hp
    exact Disk.ne_root_of_not_directory hdir
  constructor
  · rintro before r after g rfl hg
    have hr : r ∈ before ++ r :: after := List.mem_append_right _ List.mem_cons_self
    obtain ⟨p, hp, hplace, bytes, ls, hbytes, hls, hcode⟩ :=
      exists_plan_of_outcome (halone r hr) hg
    refine ⟨p.file.place, hplace, fun hlast => ⟨bytes, ls, hbytes, hls, ?_⟩⟩
    have hafter : ∀ r' ∈ after, (runOne d here s r'.input).1 = .ok r' := fun r' hr' =>
      halone r' (List.mem_append_right _ (List.mem_cons_of_mem _ hr'))
    rw [List.map_append, List.map_cons, List.flatMap_append, List.flatMap_cons, hp] at hroot ⊢
    rw [← hcode]
    refine Disk.at?_putFiles_last hroot fun f hf hplace' => ?_
    obtain ⟨r', hr', g', hg', hplace''⟩ := exists_outcome_of_mem hafter hf
    exact hlast r' hr' g' hg' (hplace' ▸ hplace'')
  · intro place hothers
    refine Disk.at?_putFiles_other hroot ?_
    rintro f hf rfl
    obtain ⟨r, hr, g, hg, hplace⟩ := exists_outcome_of_mem halone hf
    exact hothers r hr g hg hplace

/-- The path of a class comes from the name of its document. -/
theorem path_of_prepare {g : Generated} {code : Text}
    (h : prepare d here s path = .ok (g, code)) :
    TestClass.isFileName s.inputExtension path.name = true ∧
      g.path = s.outputPath (s.className path.name) := by
  obtain ⟨hn, markup, ls, -, -, rfl, -⟩ := prepare_eq_ok.mp h
  exact ⟨hn, rfl⟩

theorem path_of_generateFile {g : Generated} (h : (generateFile d here s path).1 = .ok g) :
    g.path = s.outputPath (s.className path.name) := by
  obtain ⟨code, hprep, -⟩ := generateFile_eq_ok.mp
    (show generateFile d here s path = (.ok g, (generateFile d here s path).2) from Prod.ext h rfl)
  exact (path_of_prepare hprep).2

/-- The path of a class has no NUL where the output directory, the suffix and the extension
have none. -/
theorem hasNul_of_prepare {g : Generated} {code : Text} (hout : s.output.hasNul = false)
    (hsuffix : '\x00' ∉ s.classSuffix) (hext : '\x00' ∉ s.outputExtension)
    (h : prepare d here s path = .ok (g, code)) : g.path.hasNul = false := by
  obtain ⟨hn, hpath⟩ := path_of_prepare h
  rw [hpath]
  exact Settings.hasNul_outputPath hout hsuffix hext hn

/-! ## Breakdowns -/

/-- A document with statements is legible. -/
theorem legible_of_statements {bytes : List UInt8} {ls : List Text}
    (hread : d.read here path = .ok bytes)
    (hls : statements (Utf8.decodeReplacing bytes) = .ok ls) : Legible d here s path := by
  intro _ bytes' hbytes'
  obtain rfl := Except.ok.inj (hread.symm.trans hbytes')
  cases ho : Recording.outline (Utf8.decodeReplacing bytes) with
  | ok root => exact ⟨root, rfl⟩
  | error r =>
    rw [statements, ho] at hls
    cases hls

theorem plan_eq_breakdown {b : Breakdown} : plan d here s path = .error (.breakdown b) ↔
    prepare d here s path = .error (.breakdown b) ∨
      ∃ g code, prepare d here s path = .ok (g, code) ∧ g.path.hasNul = true ∧ b = .nul := by
  unfold plan
  cases hprep : prepare d here s path with
  | error stop => simp
  | ok gc =>
    obtain ⟨g, code⟩ := gc
    dsimp only
    cases hplace : d.resolve here g.path with
    | error e =>
      have hcomm : Breakdown.nul = b ↔ b = .nul := eq_comm
      by_cases hnul : g.path.hasNul = true
      · simp [hnul, hcomm]
      · simp [hnul]
    | ok place =>
      have hnul := Disk.hasNul_eq_false_of_resolve hplace
      by_cases hdir : d.at? place = some .directory
      · simp [hdir, hnul]
      · simp [hdir, hnul]

/-- A document has a result exactly if it does not break the run down. -/
theorem exists_result_iff (hf : s.failFast = false) :
    (∃ r, (runOne d here s path).1 = .ok r) ↔
      ∀ b, plan d here s path ≠ .error (.breakdown b) := by
  rw [result_eq_plan]
  cases plan d here s path with
  | ok p => exact ⟨fun _ => nofun, fun _ => ⟨_, rfl⟩⟩
  | error stop =>
    cases stop with
    | breakdown b => exact ⟨nofun, fun h => absurd rfl (h b)⟩
    | failure f =>
      refine ⟨fun _ => nofun, fun _ => ⟨⟨path, .error f⟩, ?_⟩⟩
      rw [resultOf, if_neg (by rw [hf]; exact Bool.false_ne_true)]

/-- A legible document breaks the run down only by a NUL in the path of its class. -/
theorem exists_result_iff_of_legible (hf : s.failFast = false) (hpath : path.hasNul = false)
    (hlegible : Legible d here s path) :
    (∃ r, (runOne d here s path).1 = .ok r) ↔
      ∀ g code, prepare d here s path = .ok (g, code) → g.path.hasNul = false := by
  have hprep : ∀ b, prepare d here s path ≠ .error (.breakdown b) := by
    intro b hb
    obtain ⟨hn, ⟨hnul, -⟩ | ⟨bytes, r, hbytes, hr, -⟩⟩ := prepare_eq_breakdown.mp hb
    · exact Disk.read_ne_holdsNul hpath hnul
    · exact not_legible_iff.mpr ⟨hn, bytes, r, hbytes, hr⟩ hlegible
  rw [exists_result_iff hf]
  constructor
  · intro h g code hok
    refine Bool.eq_false_iff.mpr fun hnul => ?_
    exact h .nul (plan_eq_breakdown.mpr (.inr ⟨g, code, hok, hnul, rfl⟩))
  · intro h b hb
    rcases plan_eq_breakdown.mp hb with hb | ⟨g, code, hok, hnul, -⟩
    · exact hprep b hb
    · rw [h g code hok] at hnul
      cases hnul

end

/-- Where every document is legible and no class takes the place of a document, a run gives
the results that its documents have alone after the scan, in order, and leaves the disk with
their classes, exactly if no class that is ready to be written has a NUL in its path. -/
theorem run_equals_single_runs_iff {d d₁ : Disk} {here : Place} {s : Settings}
    {paths : List Path} (hf : s.failFast = false)
    (hscan : scan d here s.input s.output s.pattern = (.ok paths, d₁))
    (hlegible : ∀ path ∈ paths, Legible d₁ here s path)
    (hapart : ∀ path ∈ paths, ∀ g, (generateFile d₁ here s path).1 = .ok g →
      ∀ q ∈ paths, ¬ d₁.Meet here g.path q) :
    (∃ report d', run d here s = (.ok report, d') ∧ report.map (·.input) = paths ∧
        (∀ r ∈ report, (runOne d₁ here s r.input).1 = .ok r) ∧ Generates d₁ d' here report) ↔
      ∀ path ∈ paths, ∀ g code, prepare d₁ here s path = .ok (g, code) →
        g.path.hasNul = false := by
  have hplanned : Apart d₁ here s paths := by
    intro path hpath p hp q hq hplace
    obtain ⟨code, -, hplace', -, -⟩ := plan_eq_ok.mp hp
    refine hapart path hpath p.generated ?_ q hq ⟨_, hplace', hplace⟩
    rw [generateFile_eq_plan, hp]
  have hrun : run d here s = (paths.mapM fun path => (runOne d₁ here s path).1,
      d₁.putFiles (filesOfRun d₁ here s paths)) := by
    rw [run, hscan]
    exact runAll_of_agree hplanned (.refl d₁ here paths)
  have hiff : (∀ path ∈ paths, ∃ r, (runOne d₁ here s path).1 = .ok r) ↔
      ∀ path ∈ paths, ∀ g code, prepare d₁ here s path = .ok (g, code) →
        g.path.hasNul = false :=
    forall₂_congr fun path hpath => exists_result_iff_of_legible hf
      (hasNul_of_scan hscan path hpath) (hlegible path hpath)
  rw [← hiff, ← exists_mapM_iff, hrun]
  constructor
  · rintro ⟨report, d', h, -⟩
    exact ⟨report, congrArg Prod.fst h⟩
  · rintro ⟨report, h⟩
    have hrunAll : runAll here s d₁ paths = (.ok report,
        d₁.putFiles (filesOfRun d₁ here s paths)) := by
      rw [runAll_of_agree hplanned (.refl d₁ here paths), h]
    have hinputs := inputs_of_runAll hrunAll
    have halone : ∀ r ∈ report, (runOne d₁ here s r.input).1 = .ok r := by
      intro r hr
      obtain ⟨path, -, hresult⟩ := exists_of_mem_mapM h r hr
      have hinput : r.input = path := input_of_resultOf (result_eq_plan ▸ hresult)
      rw [hinput, hresult]
    refine ⟨report, _, by rw [h], hinputs, halone, ?_⟩
    rw [filesOfRun_eq_flatMap (exists_mapM_iff.mp ⟨report, h⟩), ← hinputs]
    exact generates_putFiles halone

/-- Two documents whose classes share a path have the results that they have alone. -/
theorem run_equals_single_runs_shared : ∃ report d',
    run sharedDisk [] plainSettings = (.ok report, d') ∧
      report.map (·.input) = [.ofText "in/aB.html".toList, .ofText "in/a_b.html".toList] ∧
      (∀ r ∈ report, (runOne (withOutput sharedDisk) [] plainSettings r.input).1 = .ok r) ∧
      Generates (withOutput sharedDisk) d' [] report := by
  refine (run_equals_single_runs_iff rfl scan_sharedDisk ?_ ?_).mpr ?_
  · intro path hpath
    simp only [List.mem_cons, List.not_mem_nil, or_false] at hpath
    rcases hpath with rfl | rfl
    · exact legible_of_statements rfl statements_openingDocument
    · exact legible_of_statements rfl statements_idleDocument
  · -- Both classes go to one path, and no document is there.
    have hmeet : ∀ path ∈ [Path.ofText "in/aB.html".toList, .ofText "in/a_b.html".toList],
        ∀ q ∈ [Path.ofText "in/aB.html".toList, .ofText "in/a_b.html".toList],
          ¬ (withOutput sharedDisk).Meet []
            (plainSettings.outputPath (plainSettings.className path.name)) q := by
      decide +kernel
    intro path hpath g hg q hq
    rw [path_of_generateFile hg]
    exact hmeet path hpath q hq
  · intro path hpath g code h
    exact hasNul_of_prepare rfl (by decide) (by decide) h

/-- Settings under which the names of classes hold a NUL. -/
def nulSettings : Settings := { plainSettings with classSuffix := ['\x00'] }

/-- A disk with one document. -/
def loneDisk : Disk := diskOf [("good.html".toList, idleDocument)]

/-- A NUL in the suffix of the classes ends the run without a report, although the document
is legible and nothing is written at its place. -/
theorem run_broken_by_nul :
    nulSettings.failFast = false ∧
      scan loneDisk [] nulSettings.input nulSettings.output nulSettings.pattern =
        (.ok [.ofText "in/good.html".toList], withOutput loneDisk) ∧
      Legible (withOutput loneDisk) [] nulSettings (.ofText "in/good.html".toList) ∧
      (∀ g, (generateFile (withOutput loneDisk) [] nulSettings
        (.ofText "in/good.html".toList)).1 ≠ .ok g) ∧
      run loneDisk [] nulSettings = (.error (.breakdown .nul), withOutput loneDisk) := by
  have hscan : scan loneDisk [] nulSettings.input nulSettings.output nulSettings.pattern =
      (.ok [.ofText "in/good.html".toList], withOutput loneDisk) :=
    scan_of_findDocuments rfl rfl
      (findDocuments_of_pairwise pattern_plainSettings rfl rfl (by decide)) (List.cons_ne_nil _ _)
  have hgenerate : generateFile (withOutput loneDisk) [] nulSettings
      (.ofText "in/good.html".toList) = (.error (.breakdown .nul), withOutput loneDisk) := by
    decide +kernel
  refine ⟨rfl, hscan, legible_of_statements rfl statements_idleDocument, ?_, ?_⟩
  · intro g
    rw [hgenerate]
    exact nofun
  · rw [run, hscan]
    dsimp only
    rw [runAll, runOne, hgenerate]

end TestScribe.Generate
