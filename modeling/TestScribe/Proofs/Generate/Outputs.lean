import TestScribe.Proofs.Disk.Writing
import TestScribe.Proofs.Generate.OutputPath
import TestScribe.Proofs.Generate.Scanning
import TestScribe.Proofs.Generate.Steps

/-!
# What a run leaves on the disk

A run writes one file after the other, and a later file can take the place of an earlier
one: underscores and the case of a letter after them do not show in the name of a class,
so the documents `a_b` and `aB` are both written to the class of `AB`
(`run_overwrites_shared_class`). What can be said is this:

> `run_keeps_last_output`: where no document is overwritten, a generated file that no later
> one replaces holds the class of its document when the run is over; and two generated
> files share a path exactly if the stems of their documents have the same camel case.

The argument follows the disk along the run. No step makes or removes a directory, so a
path leads to the same place all along (`resolve_of_runAll`), and what is at a place that
no generated file leads to stays (`read_of_runAll`).
-/

namespace TestScribe.Generate

section
variable {here : Place} {s : Settings} {d d' : Disk} {path : Path}

/-! ## Places along a run -/

theorem resolve_of_runOne {r : FileResult} (h : runOne d here s path = (.ok r, d')) (q : Path)
    (place : Place) : d'.resolve here q = .ok place ↔ d.resolve here q = .ok place := by
  obtain ⟨-, ⟨g, -, hg⟩ | ⟨f, -, -, hg⟩⟩ := runOne_eq_ok.mp h
  · obtain ⟨code, -, hw⟩ := generateFile_eq_ok.mp hg
    exact Disk.resolve_of_write hw q place
  · rw [(generateFile_eq_error hg).1]

theorem resolve_of_runAll {paths : List Path} :
    ∀ {d : Disk} {report : Report}, runAll here s d paths = (.ok report, d') →
      ∀ (q : Path) (place : Place),
        d'.resolve here q = .ok place ↔ d.resolve here q = .ok place := by
  induction paths with
  | nil =>
    intro d report h q place
    cases h
    exact Iff.rfl
  | cons path paths ih =>
    intro d report h q place
    obtain ⟨r, d₁, rs, h₁, h₂, rfl⟩ := runAll_cons_eq_ok.mp h
    exact (ih h₂ q place).trans (resolve_of_runOne h₁ q place)

theorem meet_of_runAll {paths : List Path} {report : Report}
    (h : runAll here s d paths = (.ok report, d')) (p q : Path) :
    d'.Meet here p q ↔ d.Meet here p q := by
  unfold Disk.Meet
  simp only [resolve_of_runAll h]

/-! ## Files along a run -/

/-- A path that does not lead to the generated file reads as before. -/
theorem read_of_runOne {r : FileResult} (h : runOne d here s path = (.ok r, d')) {q : Path}
    (hq : ∀ g, r.outcome = .ok g → ¬ d'.Meet here g.path q) (content : List UInt8) :
    d'.read here q = .ok content ↔ d.read here q = .ok content := by
  obtain ⟨-, ⟨g, hok, hg⟩ | ⟨f, -, -, hg⟩⟩ := runOne_eq_ok.mp h
  · obtain ⟨code, -, hw⟩ := generateFile_eq_ok.mp hg
    exact Disk.read_write_other hw (hq g hok) content
  · rw [(generateFile_eq_error hg).1]

/-- A path that leads to none of the generated files reads as before. -/
theorem read_of_runAll {paths : List Path} :
    ∀ {d : Disk} {report : Report}, runAll here s d paths = (.ok report, d') → ∀ {q : Path},
      (∀ r ∈ report, ∀ g, r.outcome = .ok g → ¬ d'.Meet here g.path q) →
      ∀ content, d'.read here q = .ok content ↔ d.read here q = .ok content := by
  induction paths with
  | nil =>
    intro d report h q hq content
    cases h
    exact Iff.rfl
  | cons path paths ih =>
    intro d report h q hq content
    obtain ⟨r, d₁, rs, h₁, h₂, rfl⟩ := runAll_cons_eq_ok.mp h
    refine (ih h₂ (fun r' hr' => hq r' (List.mem_cons_of_mem _ hr')) content).trans ?_
    refine read_of_runOne h₁ (fun g hg hmeet => ?_) content
    exact hq r List.mem_cons_self g hg ((meet_of_runAll h₂ g.path q).mpr hmeet)

/-! ## Results -/

/-- What a result says about a generated file. -/
theorem of_runOne_ok {r : FileResult} (h : runOne d here s path = (.ok r, d')) {g : Generated}
    (hg : r.outcome = .ok g) :
    TestClass.isFileName s.inputExtension r.input.name = true ∧
      g.className = s.className r.input.name ∧ g.path = s.outputPath g.className ∧
      ∃ bytes ls, d.read here r.input = .ok bytes ∧
        statements (Utf8.decodeReplacing bytes) = .ok ls ∧
        d.write here g.path
          (Utf8.encode (ClassTemplate.acceptanceTest.render g.className ls)) = .ok d' := by
  obtain ⟨hinput, ⟨g', hg', hgen⟩ | ⟨f, hf, -, -⟩⟩ := runOne_eq_ok.mp h
  · obtain rfl : g' = g := Except.ok.inj (hg'.symm.trans hg)
    obtain ⟨code, hprep, hw⟩ := generateFile_eq_ok.mp hgen
    obtain ⟨hn, markup, ls, hread, hls, rfl, rfl⟩ := prepare_eq_ok.mp hprep
    obtain ⟨bytes, hbytes, rfl⟩ := readDocument_eq_ok.mp hread
    rw [hinput]
    exact ⟨hn, rfl, rfl, bytes, ls, hbytes, hls, hw⟩
  · rw [hg] at hf
    cases hf

/-- The path of a generated file comes from the name of its document. -/
theorem path_of_runAll {paths : List Path} :
    ∀ {d : Disk} {report : Report}, runAll here s d paths = (.ok report, d') →
      ∀ r ∈ report, ∀ g, r.outcome = .ok g →
        TestClass.isFileName s.inputExtension r.input.name = true ∧
          g.path = s.outputPath (s.className r.input.name) := by
  induction paths with
  | nil =>
    intro d report h r hr
    cases h
    cases hr
  | cons path paths ih =>
    intro d report h r hr g hg
    obtain ⟨r₁, d₁, rs, h₁, h₂, rfl⟩ := runAll_cons_eq_ok.mp h
    rcases List.mem_cons.mp hr with rfl | hr
    · obtain ⟨hn, hclass, hpath, -⟩ := of_runOne_ok h₁ hg
      exact ⟨hn, hclass ▸ hpath⟩
    · exact ih h₂ r hr g hg

/-- The statement about a whole run, for the documents that are left. -/
theorem runAll_keeps_last_output {paths : List Path} :
    ∀ {d : Disk} {report : Report}, runAll here s d paths = (.ok report, d') →
      (∀ r ∈ report, ∀ q ∈ report, ∀ g, r.outcome = .ok g → ¬ d'.Meet here g.path q.input) →
      ∀ before r after g, report = before ++ r :: after → r.outcome = .ok g →
        (∀ r' ∈ after, ∀ g', r'.outcome = .ok g' → ¬ d'.Meet here g'.path g.path) →
        ∃ bytes ls, d'.read here r.input = .ok bytes ∧
          statements (Utf8.decodeReplacing bytes) = .ok ls ∧
          d'.read here g.path =
            .ok (Utf8.encode (ClassTemplate.acceptanceTest.render g.className ls)) := by
  induction paths with
  | nil =>
    intro d report h hinputs before r after g hreport
    cases h
    cases before <;> cases hreport
  | cons path paths ih =>
    intro d report h hinputs before r after g hreport hg hlast
    obtain ⟨r₁, d₁, rs, h₁, h₂, rfl⟩ := runAll_cons_eq_ok.mp h
    cases before with
    | nil =>
      -- The file is written now. Neither it nor the document is touched by the rest.
      obtain ⟨rfl, rfl⟩ := List.cons.inj hreport
      obtain ⟨-, -, -, bytes, ls, hbytes, hls, hw⟩ := of_runOne_ok h₁ hg
      have hrest : ∀ r' ∈ rs, ∀ g', r'.outcome = .ok g' → ¬ d'.Meet here g'.path r₁.input :=
        fun r' hr' => hinputs r' (List.mem_cons_of_mem _ hr') r₁ List.mem_cons_self
      have hself : ¬ d₁.Meet here g.path r₁.input := fun hmeet =>
        hinputs r₁ List.mem_cons_self r₁ List.mem_cons_self g hg
          ((meet_of_runAll h₂ _ _).mpr hmeet)
      refine ⟨bytes, ls, ?_, hls, ?_⟩
      · rw [read_of_runAll h₂ hrest, Disk.read_write_other hw hself, hbytes]
      · rw [read_of_runAll h₂ hlast, Disk.read_write_same hw]
    | cons b before =>
      -- The result is one of those to come.
      obtain ⟨-, rfl⟩ := List.cons.inj hreport
      have hinputs' := fun r hr q hq =>
        hinputs r (List.mem_cons_of_mem _ hr) q (List.mem_cons_of_mem _ hq)
      exact ih h₂ hinputs' before r after g rfl hg hlast

end

/-- Where no document is overwritten, a generated file that no later one replaces holds the
class of its document when the run is over. Two generated files share a path exactly if
the stems of their documents have the same camel case. -/
theorem run_keeps_last_output {d d' : Disk} {here : Place} {s : Settings} {report : Report}
    (hrun : run d here s = (.ok report, d'))
    (hinputs : ∀ r ∈ report, ∀ q ∈ report, ∀ g, r.outcome = .ok g →
      ¬ d'.Meet here g.path q.input) :
    (∀ before r after g, report = before ++ r :: after → r.outcome = .ok g →
      (∀ r' ∈ after, ∀ g', r'.outcome = .ok g' → ¬ d'.Meet here g'.path g.path) →
      ∃ bytes ls, d'.read here r.input = .ok bytes ∧
        statements (Utf8.decodeReplacing bytes) = .ok ls ∧
        d'.read here g.path =
          .ok (Utf8.encode (ClassTemplate.acceptanceTest.render g.className ls))) ∧
      ∀ r ∈ report, ∀ q ∈ report, ∀ g g', r.outcome = .ok g → q.outcome = .ok g' →
        (g.path = g'.path ↔
          TestClass.camelCase (TestClass.stem s.inputExtension r.input.name) =
            TestClass.camelCase (TestClass.stem s.inputExtension q.input.name)) := by
  unfold run at hrun
  split at hrun
  · cases hrun
  · rename_i paths d₁ hscan
    refine ⟨runAll_keeps_last_output hrun hinputs, ?_⟩
    intro r hr q hq g g' hg hg'
    -- Both paths are made from the camel case of a stem and from nothing else.
    obtain ⟨hn, hpath⟩ := path_of_runAll hrun r hr g hg
    obtain ⟨hn', hpath'⟩ := path_of_runAll hrun q hq g' hg'
    rw [hpath, hpath']
    exact Settings.outputPath_eq_iff hn hn'

/-! ## Two documents for one class -/

/-- A disk with two documents whose stems have the same camel case. -/
def sharedDisk : Disk :=
  diskOf [("aB.html".toList, openingDocument), ("a_b.html".toList, idleDocument)]

/-- The path that both are written to. -/
def sharedPath : Path := .ofText "out/ABCest.php".toList

/-- The report about the two. -/
def sharedReport : Report :=
  [⟨.ofText "in/aB.html".toList, .ok ⟨sharedPath, "ABCest".toList, 1⟩⟩,
    ⟨.ofText "in/a_b.html".toList, .ok ⟨sharedPath, "ABCest".toList, 0⟩⟩]

/-- The disk after the output directory has been made and the class has been written with
these statements. -/
def sharedDiskWith (ls : List Text) : Disk :=
  withOutput sharedDisk ++ [(["ABCest.php".toList, "out".toList],
    .file (Utf8.encode (ClassTemplate.acceptanceTest.render "ABCest".toList ls)))]

/-- The disk after the run: the class of the later document is there. -/
def sharedDisk' : Disk := sharedDiskWith []

theorem scan_sharedDisk :
    scan sharedDisk [] plainSettings.input plainSettings.output plainSettings.pattern =
      (.ok [.ofText "in/aB.html".toList, .ofText "in/a_b.html".toList], withOutput sharedDisk) :=
  scan_of_findDocuments rfl rfl
    (findDocuments_of_pairwise pattern_plainSettings rfl rfl (by decide)) (List.cons_ne_nil _ _)

theorem run_sharedDisk : run sharedDisk [] plainSettings = (.ok sharedReport, sharedDisk') := by
  have houtput : plainSettings.outputPath "ABCest".toList = sharedPath := by decide +kernel
  have hearlier : runOne (withOutput sharedDisk) [] plainSettings (.ofText "in/aB.html".toList) =
      (.ok ⟨.ofText "in/aB.html".toList, .ok ⟨sharedPath, "ABCest".toList, 1⟩⟩,
        sharedDiskWith ["$I->amOnPage('/');".toList]) :=
    runOne_of_statements (by decide +kernel) (by decide +kernel) houtput rfl
      statements_openingDocument rfl
  have hlater : runOne (sharedDiskWith ["$I->amOnPage('/');".toList]) [] plainSettings
      (.ofText "in/a_b.html".toList) =
      (.ok ⟨.ofText "in/a_b.html".toList, .ok ⟨sharedPath, "ABCest".toList, 0⟩⟩, sharedDisk') :=
    runOne_of_statements (by decide +kernel) (by decide +kernel) houtput rfl
      statements_idleDocument rfl
  rw [run, scan_sharedDisk]
  exact runAll_cons_eq_ok.mpr
    ⟨_, _, _, hearlier, runAll_cons_eq_ok.mpr ⟨_, _, [], hlater, rfl, rfl⟩, rfl⟩

/-- Neither document is where a class is written. -/
theorem not_meet_sharedReport : ∀ r ∈ sharedReport, ∀ q ∈ sharedReport, ∀ g, r.outcome = .ok g →
    ¬ sharedDisk'.Meet [] g.path q.input := by
  intro r hr q hq g hg
  have hpath : g.path = sharedPath := by
    simp only [sharedReport, List.mem_cons, List.not_mem_nil, or_false] at hr
    rcases hr with rfl | rfl
    · cases hg
      rfl
    · cases hg
      rfl
  have hne : ∀ q ∈ sharedReport, ¬ sharedDisk'.Meet [] sharedPath q.input := by decide +kernel
  rw [hpath]
  exact hne q hq

/-- The later of the two documents has its class on the disk. -/
theorem run_keeps_class_of_later : ∃ bytes ls,
    sharedDisk'.read [] (.ofText "in/a_b.html".toList) = .ok bytes ∧
      statements (Utf8.decodeReplacing bytes) = .ok ls ∧
      sharedDisk'.read [] sharedPath =
        .ok (Utf8.encode (ClassTemplate.acceptanceTest.render "ABCest".toList ls)) := by
  refine (run_keeps_last_output run_sharedDisk not_meet_sharedReport).1
    [⟨.ofText "in/aB.html".toList, .ok ⟨sharedPath, "ABCest".toList, 1⟩⟩] _ []
    ⟨sharedPath, "ABCest".toList, 0⟩ rfl rfl ?_
  intro r hr
  cases hr

/-- The earlier one has not, although its result says so. -/
theorem run_overwrites_shared_class :
    run sharedDisk [] plainSettings = (.ok sharedReport, sharedDisk') ∧
      (∀ r ∈ sharedReport, ∀ q ∈ sharedReport, ∀ g, r.outcome = .ok g →
        ¬ sharedDisk'.Meet [] g.path q.input) ∧
      ∃ r ∈ sharedReport, ∃ q ∈ sharedReport, ∃ g g', r.input ≠ q.input ∧ r.outcome = .ok g ∧
        q.outcome = .ok g' ∧ g.path = g'.path ∧
        ∀ bytes ls, sharedDisk'.read [] r.input = .ok bytes →
          statements (Utf8.decodeReplacing bytes) = .ok ls →
          sharedDisk'.read [] g.path ≠
            .ok (Utf8.encode (ClassTemplate.acceptanceTest.render g.className ls)) := by
  have hread : sharedDisk'.read [] (.ofText "in/aB.html".toList) =
      .ok (Utf8.encode openingDocument) := rfl
  refine ⟨run_sharedDisk, not_meet_sharedReport, _, List.mem_cons_self, _,
    List.mem_cons_of_mem _ List.mem_cons_self, _, _, by decide, rfl, rfl, rfl, ?_⟩
  intro bytes ls hbytes hls
  obtain rfl : Utf8.encode openingDocument = bytes := Except.ok.inj (hread.symm.trans hbytes)
  obtain rfl : ["$I->amOnPage('/');".toList] = ls :=
    Except.ok.inj (statements_openingDocument.symm.trans hls)
  decide +kernel

end TestScribe.Generate
