import TestScribe.Proofs.Generate.OutputPath
import TestScribe.Proofs.Generate.Scanning
import TestScribe.Proofs.Generate.Steps

/-!
# How far one document can disturb the others

A run that is to go on after failures gives a result for each of its documents, unless it
breaks down. Once the documents are found, markup that cannot be read is all that can make
it break down:

> `run_isolates_iff_legible`: the report has one result for each document, in order,
> exactly if each document is legible when its turn comes; and whatever ends the run at
> once is a rejected markup.

A document is legible when both rounds of reading it succeed. Not all are: a section that
opens with `<![` and has an unknown name is rejected, and the run ends there
(`run_broken_by_section`), with the documents after it untouched.
-/

namespace TestScribe.Generate

/-- The document can be read as markup, if it comes to that: its name is plain, and there
is something to read. -/
def Legible (d : Disk) (here : Place) (s : Settings) (path : Path) : Prop :=
  TestClass.isFileName s.inputExtension path.name = true →
    ∀ bytes, d.read here path = .ok bytes →
      ∃ root, Recording.outline (Utf8.decodeReplacing bytes) = .ok root

/-- Each document is legible when its turn comes, on the disk that those before it leave. -/
def LegibleInTurn (here : Place) (s : Settings) : Disk → List Path → Prop
  | _, [] => True
  | d, path :: paths =>
    Legible d here s path ∧ LegibleInTurn here s (generateFile d here s path).2 paths

section
variable {d d' : Disk} {here : Place} {s : Settings} {path : Path}

/-- A document that is not legible is one whose markup is rejected. -/
theorem not_legible_iff :
    ¬ Legible d here s path ↔
      TestClass.isFileName s.inputExtension path.name = true ∧
      ∃ bytes r, d.read here path = .ok bytes ∧
        Recording.outline (Utf8.decodeReplacing bytes) = .error r := by
  constructor
  · intro h
    obtain ⟨hn, h⟩ := Classical.not_imp.mp h
    obtain ⟨bytes, h⟩ := Classical.not_forall.mp h
    obtain ⟨hbytes, ho⟩ := Classical.not_imp.mp h
    cases hr : Recording.outline (Utf8.decodeReplacing bytes) with
    | ok root => exact absurd ⟨root, hr⟩ ho
    | error r => exact ⟨hn, bytes, r, hbytes, hr⟩
  · rintro ⟨hn, bytes, r, hbytes, hr⟩ h
    obtain ⟨root, ho⟩ := h hn bytes hbytes
    rw [hr] at ho
    cases ho

/-- Where no path holds a NUL, a document breaks the run down exactly by its markup. -/
theorem generateFile_eq_breakdown (hpath : path.hasNul = false)
    (hclass : TestClass.isFileName s.inputExtension path.name = true →
      (s.outputPath (s.className path.name)).hasNul = false) {b : Breakdown} :
    generateFile d here s path = (.error (.breakdown b), d') ↔
      d' = d ∧ TestClass.isFileName s.inputExtension path.name = true ∧
      ∃ bytes r, d.read here path = .ok bytes ∧
        Recording.outline (Utf8.decodeReplacing bytes) = .error r ∧ b = .markup r := by
  constructor
  · intro h
    obtain ⟨hd, hprep | ⟨g, code, hprep, hwrite⟩⟩ := generateFile_eq_error h
    · obtain ⟨hn, ⟨hnul, -⟩ | hmarkup⟩ := prepare_eq_breakdown.mp hprep
      · exact absurd hnul (Disk.read_ne_holdsNul hpath)
      · exact ⟨hd, hn, hmarkup⟩
    · obtain ⟨hn, markup, ls, -, -, rfl, -⟩ := prepare_eq_ok.mp hprep
      have hnul := (writeClass_eq_breakdown.mp hwrite).1
      exact absurd hnul (Disk.write_ne_holdsNul (hclass hn))
  · rintro ⟨rfl, hn, hmarkup⟩
    rw [generateFile, prepare_eq_breakdown.mpr ⟨hn, .inr hmarkup⟩]

/-- A breakdown is a rejected markup, and there is one exactly if the document is not
legible. -/
theorem legible_iff (d : Disk) (here : Place) (hpath : path.hasNul = false)
    (hclass : TestClass.isFileName s.inputExtension path.name = true →
      (s.outputPath (s.className path.name)).hasNul = false) :
    Legible d here s path ↔ ∀ b, (generateFile d here s path).1 ≠ .error (.breakdown b) := by
  constructor
  · intro hlegible b hb
    have h : generateFile d here s path = (.error (.breakdown b), (generateFile d here s path).2) :=
      Prod.ext hb rfl
    obtain ⟨-, hn, bytes, r, hbytes, hr, -⟩ := (generateFile_eq_breakdown hpath hclass).mp h
    exact not_legible_iff.mpr ⟨hn, bytes, r, hbytes, hr⟩ hlegible
  · intro h
    refine Classical.byContradiction fun hillegible => ?_
    obtain ⟨hn, bytes, r, hbytes, hr⟩ := not_legible_iff.mp hillegible
    have hb : generateFile d here s path = (.error (.breakdown (.markup r)), d) :=
      (generateFile_eq_breakdown hpath hclass).mpr ⟨rfl, hn, bytes, r, hbytes, hr, rfl⟩
    exact h _ (congrArg Prod.fst hb)

end

section
variable {here : Place} {s : Settings}

/-- A step without a breakdown gives a result about its document. -/
theorem runOne_of_no_breakdown (hf : s.failFast = false) {d : Disk} {path : Path}
    (h : ∀ b, (generateFile d here s path).1 ≠ .error (.breakdown b)) :
    ∃ r, runOne d here s path = (.ok r, (generateFile d here s path).2) ∧ r.input = path := by
  rcases hg : generateFile d here s path with ⟨stop | g, d'⟩
  · cases stop with
    | failure f => exact ⟨⟨path, .error f⟩, runOne_eq_ok.mpr ⟨rfl, .inr ⟨f, rfl, hf, hg⟩⟩, rfl⟩
    | breakdown b => exact absurd (congrArg Prod.fst hg) (h b)
  · exact ⟨⟨path, .ok g⟩, runOne_eq_ok.mpr ⟨rfl, .inl ⟨g, rfl, hg⟩⟩, rfl⟩

/-- The results of a run are about its documents, in order. -/
theorem inputs_of_runAll {paths : List Path} :
    ∀ {d d' : Disk} {report : Report}, runAll here s d paths = (.ok report, d') →
      report.map (·.input) = paths := by
  induction paths with
  | nil =>
    intro d d' report h
    cases h
    rfl
  | cons path paths ih =>
    intro d d' report h
    obtain ⟨r, d₁, rs, h₁, h₂, rfl⟩ := runAll_cons_eq_ok.mp h
    rw [List.map_cons, (runOne_eq_ok.mp h₁).1, ih h₂]

variable (hf : s.failFast = false) {paths : List Path}
  (hpaths : ∀ path ∈ paths, path.hasNul = false)
  (hclass : ∀ name, TestClass.isFileName s.inputExtension name = true →
    (s.outputPath (s.className name)).hasNul = false)

include hf hpaths hclass

/-- A run gets to its end exactly if each document is legible when its turn comes. -/
theorem runAll_eq_ok_iff :
    ∀ d, (∃ report d', runAll here s d paths = (.ok report, d')) ↔
      LegibleInTurn here s d paths := by
  induction paths with
  | nil => exact fun d => ⟨fun _ => trivial, fun _ => ⟨[], d, rfl⟩⟩
  | cons path paths ih =>
    intro d
    have ih' := ih fun p hp => hpaths p (List.mem_cons_of_mem _ hp)
    have hlegible := legible_iff d here (hpaths path List.mem_cons_self) (hclass path.name)
    rw [LegibleInTurn, ← ih', hlegible]
    constructor
    · rintro ⟨report, d', h⟩
      obtain ⟨r, d₁, rs, h₁, h₂, -⟩ := runAll_cons_eq_ok.mp h
      -- The step has not broken down, and the rest begins on the disk that it leaves.
      obtain ⟨-, ⟨g, -, hg⟩ | ⟨f, -, -, hg⟩⟩ := runOne_eq_ok.mp h₁
      · rw [hg]
        exact ⟨nofun, rs, d', h₂⟩
      · rw [hg]
        exact ⟨nofun, rs, d', h₂⟩
    · rintro ⟨hb, rs, d', h₂⟩
      obtain ⟨r, h₁, -⟩ := runOne_of_no_breakdown hf hb
      exact ⟨r :: rs, d', runAll_cons_eq_ok.mpr ⟨r, _, rs, h₁, h₂, rfl⟩⟩

/-- What ends a run at once is a rejected markup. -/
theorem runAll_eq_error :
    ∀ {d d' : Disk} {stop : Stop}, runAll here s d paths = (.error stop, d') →
      ∃ r, stop = .breakdown (.markup r) := by
  induction paths with
  | nil =>
    intro d d' stop h
    cases h
  | cons path paths ih =>
    intro d d' stop h
    rcases runAll_cons_eq_error.mp h with h₁ | ⟨r, d₁, -, h₂⟩
    · obtain ⟨b, rfl, hb⟩ := (runOne_eq_error hf).mp h₁
      obtain ⟨-, -, bytes, r, -, -, rfl⟩ :=
        (generateFile_eq_breakdown (hpaths path List.mem_cons_self) (hclass path.name)).mp hb
      exact ⟨r, rfl⟩
    · exact ih (fun p hp => hpaths p (List.mem_cons_of_mem _ hp)) h₂

end

/-- Once the documents are found, a run that goes on after failures gives a result for each
of them, in order, exactly if each is legible when its turn comes. Otherwise a rejected
markup ends it. -/
theorem run_isolates_iff_legible {d d' : Disk} {here : Place} {s : Settings} {paths : List Path}
    (hf : s.failFast = false) (hsuffix : '\x00' ∉ s.classSuffix)
    (hext : '\x00' ∉ s.outputExtension)
    (hscan : scan d here s.input s.output s.pattern = (.ok paths, d')) :
    ((∃ report, (run d here s).1 = .ok report ∧ report.map (·.input) = paths) ↔
        LegibleInTurn here s d' paths) ∧
      ∀ stop, (run d here s).1 = .error stop → ∃ r, stop = .breakdown (.markup r) := by
  have hpaths := hasNul_of_scan hscan
  have hclass : ∀ name, TestClass.isFileName s.inputExtension name = true →
      (s.outputPath (s.className name)).hasNul = false := fun name hname =>
    Settings.hasNul_outputPath (hasNul_output_of_scan hscan) hsuffix hext hname
  -- The scan is over, and what is said of it is that no path holds a NUL.
  rw [run, hscan]
  dsimp only
  refine ⟨?_, ?_⟩
  · rw [← runAll_eq_ok_iff hf hpaths hclass]
    constructor
    · rintro ⟨report, h, -⟩
      exact ⟨report, (runAll here s d' paths).2, Prod.ext h rfl⟩
    · rintro ⟨report, d'', h⟩
      exact ⟨report, congrArg Prod.fst h, inputs_of_runAll h⟩
  · intro stop h
    exact runAll_eq_error hf hpaths hclass
      (show runAll here s d' paths = (.error stop, (runAll here s d' paths).2) from
        Prod.ext h rfl)

/-- A disk with two documents of the given texts. -/
def pairDisk (bad good : Text) : Disk :=
  diskOf [("bad.html".toList, bad), ("good.html".toList, good)]

/-- The two documents. -/
def pairPaths : List Path := [.ofText "in/bad.html".toList, .ofText "in/good.html".toList]

theorem scan_pairDisk (bad good : Text) :
    scan (pairDisk bad good) [] plainSettings.input plainSettings.output plainSettings.pattern =
      (.ok pairPaths, withOutput (pairDisk bad good)) :=
  scan_of_findDocuments rfl rfl
    (findDocuments_of_pairwise pattern_plainSettings rfl rfl (by decide)) (List.cons_ne_nil _ _)

/-- An empty document fails, and the one after it is generated all the same. -/
theorem run_isolates_empty_document :
    LegibleInTurn [] plainSettings (withOutput (pairDisk [] idleDocument)) pairPaths := by
  refine (run_isolates_iff_legible rfl (by decide) (by decide) (scan_pairDisk _ _)).1.mp ?_
  refine ⟨[⟨.ofText "in/bad.html".toList, .error .noAddress⟩,
    ⟨.ofText "in/good.html".toList,
      .ok ⟨.ofText "out/GoodCest.php".toList, "GoodCest".toList, 0⟩⟩], ?_, rfl⟩
  rw [run, scan_pairDisk]
  decide +kernel

/-- A section with an unknown name ends the run, and the document after it is never
reached. -/
theorem run_broken_by_section :
    plainSettings.failFast = false ∧
      scan (pairDisk "<![foo]>".toList idleDocument) [] plainSettings.input
        plainSettings.output plainSettings.pattern =
          (.ok pairPaths, withOutput (pairDisk "<![foo]>".toList idleDocument)) ∧
      run (pairDisk "<![foo]>".toList idleDocument) [] plainSettings =
        (.error (.breakdown (.markup .unknownSection)),
          withOutput (pairDisk "<![foo]>".toList idleDocument)) := by
  refine ⟨rfl, scan_pairDisk _ _, ?_⟩
  rw [run, scan_pairDisk]
  decide +kernel

end TestScribe.Generate
