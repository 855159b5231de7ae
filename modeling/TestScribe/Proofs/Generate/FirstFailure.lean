import TestScribe.Proofs.Generate.Isolation

/-!
# Stopping at the first failure

A run can be told to stop at the first document that fails. Up to there it does the same as a
run that goes on: the setting is looked at only when a document has failed
(`generateFile_failingFast`). So the run that goes on tells what the other one does. Cut its
report in front of the first failure (`exists_first_failure`); what stands before the cut is a
run of its own, over the documents before, and ends on some disk (`runAll_split`).

> `run_failingFast`: without a failure the two runs are the same. Otherwise the run that stops
> ends with the failure that the other one has noted first, on the disk which that one has
> just before this document, and whichever documents come later make no difference to it.
-/

namespace TestScribe.Generate

/-- The settings under which a run stops at the first failure. -/
def Settings.failingFast (s : Settings) : Settings := { s with failFast := true }

section
variable {d d' : Disk} {here : Place} {s : Settings} {path : Path}

/-! ## One document -/

/-- What becomes of a document does not depend on what a run does with failures. -/
theorem generateFile_failingFast :
    generateFile d here s.failingFast path = generateFile d here s path := rfl

theorem runOne_failingFast_of_ok {r : FileResult} {g : Generated}
    (h : runOne d here s path = (.ok r, d')) (hg : r.outcome = .ok g) :
    runOne d here s.failingFast path = (.ok r, d') := by
  obtain ⟨hinput, ⟨g', hg', hgen⟩ | ⟨f, hf, -, -⟩⟩ := runOne_eq_ok.mp h
  · exact runOne_eq_ok.mpr ⟨hinput, .inl ⟨g', hg', generateFile_failingFast.trans hgen⟩⟩
  · rw [hg] at hf
    cases hf

/-- A failure that is noted elsewhere ends the run, and the disk is the one before the
document. -/
theorem runOne_failingFast_of_error {r : FileResult} {f : Failure}
    (h : runOne d here s path = (.ok r, d')) (hf : r.outcome = .error f) :
    runOne d here s.failingFast path = (.error (.failure f), d) := by
  obtain ⟨-, ⟨g, hg, -⟩ | ⟨f', hf', -, hgen⟩⟩ := runOne_eq_ok.mp h
  · rw [hf] at hg
    cases hg
  · obtain rfl : f' = f := Except.error.inj (hf'.symm.trans hf)
    obtain ⟨rfl, -⟩ := generateFile_eq_error hgen
    rw [runOne, generateFile_failingFast, hgen]
    exact if_pos rfl

/-! ## Several documents -/

theorem failed_cons (r : FileResult) (rs : Report) :
    Report.failed (r :: rs) = (if r.ok then [] else [r]) ++ rs.failed := by
  rw [Report.failed, List.filter_cons]
  cases r.ok with
  | true => rfl
  | false => rfl

theorem failed_cons_eq_nil_iff {r : FileResult} {rs : Report} :
    Report.failed (r :: rs) = [] ↔ (∃ g, r.outcome = .ok g) ∧ rs.failed = [] := by
  rw [failed_cons, List.append_eq_nil_iff, FileResult.ok]
  cases r.outcome with
  | ok g => simp
  | error f => simp

/-- A report with failures can be cut in front of the first one. -/
theorem exists_first_failure {report : Report} (h : report.failed ≠ []) :
    ∃ (before : Report) (r : FileResult) (after : Report) (f : Failure),
      report = before ++ r :: after ∧ before.failed = [] ∧ r.outcome = .error f := by
  induction report with
  | nil => exact absurd rfl h
  | cons r rs ih =>
    cases hr : r.outcome with
    | error f => exact ⟨[], r, rs, f, rfl, rfl, hr⟩
    | ok g =>
      have hrs : Report.failed rs ≠ [] := fun hnone =>
        h (failed_cons_eq_nil_iff.mpr ⟨⟨g, hr⟩, hnone⟩)
      obtain ⟨before, r', after, f, rfl, hbefore, hf⟩ := ih hrs
      exact ⟨r :: before, r', after, f, rfl, failed_cons_eq_nil_iff.mpr ⟨⟨g, hr⟩, hbefore⟩, hf⟩

/-- A run whose report is cut in two is two runs, one on the disk that the other leaves. -/
theorem runAll_split {before after : Report} {paths : List Path} :
    ∀ {d : Disk}, runAll here s d paths = (.ok (before ++ after), d') →
      ∃ d₁, runAll here s d (before.map (·.input)) = (.ok before, d₁) ∧
        runAll here s d₁ (after.map (·.input)) = (.ok after, d') := by
  induction before generalizing paths with
  | nil =>
    intro d h
    refine ⟨d, rfl, ?_⟩
    rwa [← inputs_of_runAll h] at h
  | cons r before ih =>
    intro d h
    cases paths with
    | nil => cases h
    | cons path paths =>
      obtain ⟨r', d₁, rs, h₁, h₂, hreport⟩ := runAll_cons_eq_ok.mp h
      obtain ⟨rfl, rfl⟩ := List.cons.inj hreport
      obtain ⟨d₂, hbefore, hafter⟩ := ih h₂
      obtain rfl : r.input = path := (runOne_eq_ok.mp h₁).1
      exact ⟨d₂, runAll_cons_eq_ok.mpr ⟨r, d₁, before, h₁, hbefore, rfl⟩, hafter⟩

/-- As long as nothing fails, a run that would stop at a failure goes on as any other. -/
theorem runAll_failingFast_of_ok {report : Report} {paths : List Path} :
    ∀ {d : Disk}, runAll here s d paths = (.ok report, d') → report.failed = [] →
      runAll here s.failingFast d paths = (.ok report, d') := by
  induction paths generalizing report with
  | nil => exact fun h _ => h
  | cons path paths ih =>
    intro d h hnone
    obtain ⟨r, d₁, rs, h₁, h₂, rfl⟩ := runAll_cons_eq_ok.mp h
    obtain ⟨⟨g, hg⟩, hrs⟩ := failed_cons_eq_nil_iff.mp hnone
    exact runAll_cons_eq_ok.mpr ⟨r, d₁, rs, runOne_failingFast_of_ok h₁ hg, ih h₂ hrs, rfl⟩

/-- What ends a run ends it after documents with results too. -/
theorem runAll_append_of_error {stop : Stop} {d₁ : Disk} {before : Report}
    {paths later : List Path} (hlater : runAll here s d₁ later = (.error stop, d')) {d : Disk}
    (h : runAll here s d paths = (.ok before, d₁)) :
    runAll here s d (paths ++ later) = (.error stop, d') := by
  rw [runAll_append h, hlater]

end

/-- A run that stops at the first failure does what the run that goes on does, as long as
nothing fails. Otherwise it ends with the failure which that run has noted first, on the disk
that the documents before have left: these have all been generated, and nothing that comes
later is looked at. -/
theorem run_failingFast {d d' : Disk} {here : Place} {s : Settings} {report : Report}
    (hrun : run d here s = (.ok report, d')) :
    (report.failed = [] → run d here s.failingFast = (.ok report, d')) ∧
      (report.failed ≠ [] → ∃ (before : Report) (r : FileResult) (after : Report) (f : Failure)
          (d₀ d₁ : Disk),
        report = before ++ r :: after ∧ before.failed = [] ∧ r.outcome = .error f ∧
        scan d here s.input s.output s.pattern = (.ok (report.map (·.input)), d₀) ∧
        runAll here s d₀ (before.map (·.input)) = (.ok before, d₁) ∧
        runAll here s d₁ ((r :: after).map (·.input)) = (.ok (r :: after), d') ∧
        run d here s.failingFast = (.error (.failure f), d₁) ∧
        ∀ later, runAll here s.failingFast d₀ (before.map (·.input) ++ r.input :: later) =
          (.error (.failure f), d₁)) := by
  obtain ⟨paths, d₀, hscan, hall⟩ : ∃ paths d₀,
      scan d here s.input s.output s.pattern = (.ok paths, d₀) ∧
        runAll here s d₀ paths = (.ok report, d') := by
    unfold run at hrun
    split at hrun
    · cases hrun
    · exact ⟨_, _, ‹_›, hrun⟩
  have hscan' : scan d here s.failingFast.input s.failingFast.output s.failingFast.pattern =
      (.ok paths, d₀) := hscan
  obtain rfl : report.map (·.input) = paths := inputs_of_runAll hall
  have hfast : run d here s.failingFast =
      runAll here s.failingFast d₀ (report.map (·.input)) := by
    rw [run, hscan']
  constructor
  · intro hnone
    rw [hfast]
    exact runAll_failingFast_of_ok hall hnone
  · intro hsome
    obtain ⟨before, r, after, f, rfl, hbefore, hf⟩ := exists_first_failure hsome
    obtain ⟨d₁, hall₁, hall₂⟩ := runAll_split hall
    -- The documents before have their results, and this one ends the run on their disk.
    have hstop : ∀ later, runAll here s.failingFast d₀
        (before.map (·.input) ++ r.input :: later) = (.error (.failure f), d₁) := by
      intro later
      obtain ⟨r', d₂, rs, h₁, -, hreport⟩ := runAll_cons_eq_ok.mp hall₂
      obtain ⟨rfl, -⟩ := List.cons.inj hreport
      have hfirst := runOne_failingFast_of_error h₁ hf
      exact runAll_append_of_error (runAll_cons_eq_error.mpr (.inl hfirst))
        (runAll_failingFast_of_ok hall₁ hbefore)
    refine ⟨before, r, after, f, d₀, d₁, rfl, hbefore, hf, hscan, hall₁, hall₂, ?_, hstop⟩
    rw [hfast, List.map_append, List.map_cons, hstop]

/-- A disk with three documents, of which the second one is empty. -/
def gapDisk : Disk :=
  diskOf [("first.html".toList, idleDocument), ("second.html".toList, []),
    ("third.html".toList, idleDocument)]

/-- The disk after the output directory has been made and these classes have been written. -/
def gapDiskWith (classNames : List Text) : Disk :=
  withOutput gapDisk ++ classNames.map fun c => ([c ++ ".php".toList, "out".toList],
    .file (Utf8.encode (ClassTemplate.acceptanceTest.render c [])))

/-- The results of the three. -/
def firstResult : FileResult :=
  ⟨.ofText "in/first.html".toList,
    .ok ⟨.ofText "out/FirstCest.php".toList, "FirstCest".toList, 0⟩⟩

def secondResult : FileResult := ⟨.ofText "in/second.html".toList, .error .noAddress⟩

def thirdResult : FileResult :=
  ⟨.ofText "in/third.html".toList,
    .ok ⟨.ofText "out/ThirdCest.php".toList, "ThirdCest".toList, 0⟩⟩

theorem scan_gapDisk :
    scan gapDisk [] plainSettings.input plainSettings.output plainSettings.pattern =
      (.ok [firstResult.input, secondResult.input, thirdResult.input], gapDiskWith []) :=
  scan_of_findDocuments rfl rfl
    (findDocuments_of_pairwise pattern_plainSettings rfl rfl (by decide)) (List.cons_ne_nil _ _)

theorem runOne_firstResult : runOne (gapDiskWith []) [] plainSettings firstResult.input =
    (.ok firstResult, gapDiskWith ["FirstCest".toList]) :=
  runOne_of_statements (by decide +kernel) (by decide +kernel) (by decide +kernel) rfl
    statements_idleDocument rfl

theorem run_gapDisk : run gapDisk [] plainSettings =
    (.ok [firstResult, secondResult, thirdResult],
      gapDiskWith ["FirstCest".toList, "ThirdCest".toList]) := by
  have hsecond : runOne (gapDiskWith ["FirstCest".toList]) [] plainSettings secondResult.input =
      (.ok secondResult, gapDiskWith ["FirstCest".toList]) := by
    decide +kernel
  have hthird : runOne (gapDiskWith ["FirstCest".toList]) [] plainSettings thirdResult.input =
      (.ok thirdResult, gapDiskWith ["FirstCest".toList, "ThirdCest".toList]) :=
    runOne_of_statements (by decide +kernel) (by decide +kernel) (by decide +kernel) rfl
      statements_idleDocument rfl
  rw [run, scan_gapDisk]
  exact runAll_cons_eq_ok.mpr ⟨_, _, _, runOne_firstResult, runAll_cons_eq_ok.mpr
    ⟨_, _, _, hsecond, runAll_cons_eq_ok.mpr ⟨_, _, [], hthird, rfl, rfl⟩, rfl⟩, rfl⟩

/-- The first document is generated, the second one ends the run, and the third one is never
reached. -/
theorem run_failingFast_empty_document :
    run gapDisk [] plainSettings = (.ok [firstResult, secondResult, thirdResult],
        gapDiskWith ["FirstCest".toList, "ThirdCest".toList]) ∧
      Report.failed [firstResult, secondResult, thirdResult] ≠ [] ∧
      run gapDisk [] plainSettings.failingFast =
        (.error (.failure .noAddress), gapDiskWith ["FirstCest".toList]) := by
  have hfailed : Report.failed [firstResult, secondResult, thirdResult] ≠ [] :=
    List.cons_ne_nil _ _
  refine ⟨run_gapDisk, hfailed, ?_⟩
  obtain ⟨before, r, after, f, d₀, d₁, hreport, hbefore, hf, hscan, hall, -, hrun, -⟩ :=
    (run_failingFast run_gapDisk).2 hfailed
  obtain ⟨-, rfl⟩ := Prod.mk.inj (scan_gapDisk.symm.trans hscan)
  -- The cut can only be behind the first result.
  match before with
  | [] =>
    obtain ⟨rfl, -⟩ := List.cons.inj hreport
    cases hf
  | [q] =>
    obtain ⟨rfl, hrest⟩ := List.cons.inj hreport
    obtain ⟨rfl, -⟩ := List.cons.inj hrest
    cases hf
    obtain ⟨r', d₂, rs, h₁, h₂, -⟩ := runAll_cons_eq_ok.mp hall
    obtain ⟨-, rfl⟩ := Prod.mk.inj (runOne_firstResult.symm.trans h₁)
    cases h₂
    exact hrun
  | q :: q' :: before =>
    obtain ⟨rfl, hrest⟩ := List.cons.inj hreport
    obtain ⟨rfl, -⟩ := List.cons.inj hrest
    cases hbefore

end TestScribe.Generate
