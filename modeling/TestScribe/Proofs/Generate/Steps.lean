import Mathlib.Control.Monad.Basic
import TestScribe.Generate.Batch

/-!
# What a step of a run comes to

A run takes one document after the other. The lemmas here say all that such a step can
do, so that a statement about runs is an induction over the documents and never opens the
step again:

> `generateFile_eq_ok`: a file is generated exactly if the document can be prepared and
> the code can be written, and then the disk is the old one with that one write.
> `generateFile_eq_error`: otherwise the disk is the old one.
> `runOne_eq_ok`, `runAll_cons_eq_ok`: how the steps make up the report of a run.
-/

namespace TestScribe.Generate

section
variable {d d' : Disk} {here : Place} {s : Settings} {path : Path}

/-! ## Reading and writing -/

theorem readDocument_eq_ok {written markup : Text} :
    readDocument d here path written = .ok markup ↔
      ∃ bytes, d.read here path = .ok bytes ∧ markup = Utf8.decodeReplacing bytes := by
  unfold readDocument
  cases hr : d.read here path with
  | ok bytes => simp [eq_comm]
  | error e => cases e <;> simp

/-- Only a NUL in its path makes it impossible to try to read a document. -/
theorem readDocument_eq_breakdown (written : Text) {b : Breakdown} :
    readDocument d here path written = .error (.breakdown b) ↔
      d.read here path = .error .holdsNul ∧ b = .nul := by
  unfold readDocument
  cases hr : d.read here path with
  | ok bytes => simp
  | error e => cases e <;> simp [eq_comm]

theorem writeClass_eq_ok {code : Text} :
    writeClass d here path code = .ok d' ↔ d.write here path (Utf8.encode code) = .ok d' := by
  unfold writeClass
  cases hw : d.write here path (Utf8.encode code) with
  | ok d'' => simp
  | error e => cases e <;> simp

/-- Only a NUL in its path makes it impossible to try to write a class. -/
theorem writeClass_eq_breakdown {code : Text} {b : Breakdown} :
    writeClass d here path code = .error (.breakdown b) ↔
      d.write here path (Utf8.encode code) = .error .holdsNul ∧ b = .nul := by
  unfold writeClass
  cases hw : d.write here path (Utf8.encode code) with
  | ok d'' => simp
  | error e => cases e <;> simp [eq_comm]

/-! ## One document -/

/-- The statements of a markup break down exactly where it cannot be read. -/
theorem statements_eq_breakdown (markup : Text) (b : Breakdown) :
    statements markup = .error (.breakdown b) ↔
      ∃ r, Recording.outline markup = .error r ∧ b = .markup r := by
  unfold statements
  cases ho : Recording.outline markup with
  | error r => simp [eq_comm]
  | ok root =>
    dsimp only
    split
    · simp
    · split <;> simp

/-- A document can be prepared exactly if its name is plain, it can be read, and it has
statements. -/
theorem prepare_eq_ok {g : Generated} {code : Text} :
    prepare d here s path = .ok (g, code) ↔
      TestClass.isFileName s.inputExtension path.name = true ∧
      ∃ markup ls, readDocument d here path path.toText = .ok markup ∧
        statements markup = .ok ls ∧
        g = ⟨s.outputPath (s.className path.name), s.className path.name,
          Action.countStatements ls⟩ ∧
        code = ClassTemplate.acceptanceTest.render (s.className path.name) ls := by
  unfold prepare checkName
  by_cases hn : TestClass.isFileName s.inputExtension path.name = true
  · rw [if_pos hn]
    cases hr : readDocument d here path path.toText with
    | error stop => simp
    | ok markup =>
      cases hs : statements markup with
      | error stop => simp [hs]
      | ok ls => simp [hs, hn, eq_comm]
  · rw [if_neg hn]
    simp [hn]

/-- Preparing a document breaks down where its path holds a NUL or its markup cannot be
read. -/
theorem prepare_eq_breakdown {b : Breakdown} :
    prepare d here s path = .error (.breakdown b) ↔
      TestClass.isFileName s.inputExtension path.name = true ∧
      (d.read here path = .error .holdsNul ∧ b = .nul ∨
        ∃ bytes r, d.read here path = .ok bytes ∧
          Recording.outline (Utf8.decodeReplacing bytes) = .error r ∧ b = .markup r) := by
  unfold prepare checkName
  by_cases hn : TestClass.isFileName s.inputExtension path.name = true
  · rw [if_pos hn]
    cases hr : readDocument d here path path.toText with
    | error stop =>
      -- The document was not read, so there is no markup to be rejected.
      have hb : stop = .breakdown b ↔ d.read here path = .error .holdsNul ∧ b = .nul := by
        rw [← readDocument_eq_breakdown path.toText, hr, Except.error.injEq]
      have hok : ∀ bytes, d.read here path ≠ .ok bytes := by
        intro bytes hbytes
        rw [readDocument_eq_ok.mpr ⟨bytes, hbytes, rfl⟩] at hr
        cases hr
      simp [hn, hok, hb]
    | ok markup =>
      obtain ⟨bytes, hbytes, rfl⟩ := readDocument_eq_ok.mp hr
      have hb := statements_eq_breakdown (Utf8.decodeReplacing bytes) b
      cases hs : statements (Utf8.decodeReplacing bytes) with
      | error stop =>
        rw [hs] at hb
        simpa [hs, hn, hbytes] using hb
      | ok ls =>
        rw [hs] at hb
        simpa [hs, hn, hbytes] using hb
  · rw [if_neg hn]
    simp [hn]

theorem generateFile_eq_ok {g : Generated} :
    generateFile d here s path = (.ok g, d') ↔
      ∃ code, prepare d here s path = .ok (g, code) ∧
        d.write here g.path (Utf8.encode code) = .ok d' := by
  unfold generateFile
  constructor
  · intro h
    split at h
    · cases h
    · rename_i g' code hp
      split at h
      · cases h
      · rename_i d'' hw
        cases h
        exact ⟨code, hp, writeClass_eq_ok.mp hw⟩
  · rintro ⟨code, hp, hw⟩
    rw [hp]
    dsimp only
    rw [writeClass_eq_ok.mpr hw]

/-- A document that fails leaves the disk as it was. It fails before anything is written,
or in writing. -/
theorem generateFile_eq_error {stop : Stop} (h : generateFile d here s path = (.error stop, d')) :
    d' = d ∧ (prepare d here s path = .error stop ∨
      ∃ g code, prepare d here s path = .ok (g, code) ∧
        writeClass d here g.path code = .error stop) := by
  unfold generateFile at h
  split at h
  · rename_i hp
    cases h
    exact ⟨rfl, .inl hp⟩
  · rename_i g code hp
    split at h
    · rename_i hw
      cases h
      exact ⟨rfl, .inr ⟨g, code, hp, hw⟩⟩
    · cases h

/-! ## Several documents -/

theorem runOne_eq_ok {r : FileResult} :
    runOne d here s path = (.ok r, d') ↔
      r.input = path ∧
      ((∃ g, r.outcome = .ok g ∧ generateFile d here s path = (.ok g, d')) ∨
        ∃ f, r.outcome = .error f ∧ s.failFast = false ∧
          generateFile d here s path = (.error (.failure f), d')) := by
  unfold runOne
  constructor
  · intro h
    split at h
    · rename_i g d₁ hg
      cases h
      exact ⟨rfl, .inl ⟨g, rfl, hg⟩⟩
    · rename_i f d₁ hg
      split at h
      · cases h
      · rename_i hf
        cases h
        exact ⟨rfl, .inr ⟨f, rfl, Bool.eq_false_iff.mpr hf, hg⟩⟩
    · cases h
  · obtain ⟨input, outcome⟩ := r
    rintro ⟨rfl, ⟨g, rfl, hg⟩ | ⟨f, rfl, hf, hg⟩⟩
    · rw [hg]
    · rw [hg]
      dsimp only
      rw [if_neg (by rw [hf]; exact Bool.false_ne_true)]

/-- A document that has statements becomes the file of its class. -/
theorem runOne_of_statements {bytes : List UInt8} {ls : List Text} {className : Text}
    {output : Path} (hname : TestClass.isFileName s.inputExtension path.name = true)
    (hclass : s.className path.name = className) (houtput : s.outputPath className = output)
    (hread : d.read here path = .ok bytes)
    (hls : statements (Utf8.decodeReplacing bytes) = .ok ls)
    (hwrite : d.write here output
      (Utf8.encode (ClassTemplate.acceptanceTest.render className ls)) = .ok d') :
    runOne d here s path =
      (.ok ⟨path, .ok ⟨output, className, Action.countStatements ls⟩⟩, d') := by
  subst hclass houtput
  have hprepare := prepare_eq_ok.mpr
    ⟨hname, _, ls, readDocument_eq_ok.mpr ⟨bytes, hread, rfl⟩, hls, rfl, rfl⟩
  have hgenerate := generateFile_eq_ok.mpr ⟨_, hprepare, hwrite⟩
  exact runOne_eq_ok.mpr ⟨rfl, .inl ⟨_, rfl, hgenerate⟩⟩

/-- A run that goes on after failures is ended by a breakdown alone. -/
theorem runOne_eq_error (hf : s.failFast = false) {stop : Stop} :
    runOne d here s path = (.error stop, d') ↔
      ∃ b, stop = .breakdown b ∧ generateFile d here s path = (.error (.breakdown b), d') := by
  unfold runOne
  constructor
  · intro h
    split at h
    · cases h
    · rw [if_neg (by rw [hf]; exact Bool.false_ne_true)] at h
      cases h
    · rename_i b d₁ hg
      cases h
      exact ⟨b, rfl, hg⟩
  · rintro ⟨b, rfl, hg⟩
    rw [hg]

theorem runAll_cons_eq_ok {paths : List Path} {report : Report} :
    runAll here s d (path :: paths) = (.ok report, d') ↔
      ∃ r d₁ rs, runOne d here s path = (.ok r, d₁) ∧ runAll here s d₁ paths = (.ok rs, d') ∧
        report = r :: rs := by
  constructor
  · intro h
    rw [runAll] at h
    split at h
    · cases h
    · rename_i r d₁ h₁
      split at h
      · cases h
      · rename_i rs d₂ h₂
        cases h
        exact ⟨r, d₁, rs, h₁, h₂, rfl⟩
  · rintro ⟨r, d₁, rs, h₁, h₂, rfl⟩
    rw [runAll, h₁]
    dsimp only
    rw [h₂]

theorem runAll_cons_eq_error {paths : List Path} {stop : Stop} :
    runAll here s d (path :: paths) = (.error stop, d') ↔
      runOne d here s path = (.error stop, d') ∨
        ∃ r d₁, runOne d here s path = (.ok r, d₁) ∧
          runAll here s d₁ paths = (.error stop, d') := by
  constructor
  · intro h
    rw [runAll] at h
    split at h
    · rename_i h₁
      cases h
      exact .inl h₁
    · rename_i r d₁ h₁
      split at h
      · rename_i h₂
        cases h
        exact .inr ⟨r, d₁, h₁, h₂⟩
      · cases h
  · rintro (h₁ | ⟨r, d₁, h₁, h₂⟩)
    · rw [runAll, h₁]
    · rw [runAll, h₁]
      dsimp only
      rw [h₂]

/-- A run over more documents goes on where the run over the first ones has ended. -/
theorem runAll_append {before : Report} {paths later : List Path} :
    ∀ {d : Disk}, runAll here s d paths = (.ok before, d') →
      runAll here s d (paths ++ later) =
        match runAll here s d' later with
        | (.ok report, d'') => (.ok (before ++ report), d'')
        | (.error stop, d'') => (.error stop, d'') := by
  induction paths generalizing before with
  | nil =>
    intro d h
    cases h
    rw [List.nil_append]
    split
    · assumption
    · assumption
  | cons path paths ih =>
    intro d h
    obtain ⟨r, d₁, rs, h₁, h₂, rfl⟩ := runAll_cons_eq_ok.mp h
    rw [List.cons_append, runAll, h₁]
    dsimp only
    rw [ih h₂]
    rcases runAll here s d' later with ⟨stop | report, d''⟩
    · rfl
    · rfl

/-- A run that goes on after failures ends early by a breakdown alone. -/
theorem runAll_eq_error_of_going_on (hf : s.failFast = false) {paths : List Path} {stop : Stop} :
    ∀ {d : Disk}, runAll here s d paths = (.error stop, d') → ∃ b, stop = .breakdown b := by
  induction paths with
  | nil =>
    intro d h
    cases h
  | cons path paths ih =>
    intro d h
    rcases runAll_cons_eq_error.mp h with h₁ | ⟨r, d₁, -, h₂⟩
    · obtain ⟨b, hb, -⟩ := (runOne_eq_error hf).mp h₁
      exact ⟨b, hb⟩
    · exact ih h₂

/-- A run goes over the documents that are found. -/
theorem run_of_scan {paths : List Path}
    (h : scan d here s.input s.output s.pattern = (.ok paths, d')) :
    run d here s = runAll here s d' paths := by
  rw [run, h]

/-- A run gets to its end exactly if documents are found and the run over them does. -/
theorem run_eq_ok {report : Report} :
    run d here s = (.ok report, d') ↔
      ∃ paths d₁, scan d here s.input s.output s.pattern = (.ok paths, d₁) ∧
        runAll here s d₁ paths = (.ok report, d') := by
  constructor
  · intro h
    unfold run at h
    split at h
    · cases h
    · rename_i paths d₁ hscan
      exact ⟨paths, d₁, hscan, h⟩
  · rintro ⟨paths, d₁, hscan, h⟩
    rw [run_of_scan hscan, h]

end

/-! ## A small disk to run on -/

deriving instance DecidableEq for FileResult

/-- Settings under which the documents of one directory become classes in another. -/
def plainSettings : Settings where
  input := .ofText "in".toList
  output := .ofText "out".toList
  inputExtension := "html".toList
  classSuffix := "Cest".toList
  outputExtension := "php".toList
  failFast := false
  showProgress := false

/-- The names that their pattern stands for. -/
def htmlNames : Glob.Pattern := ⟨[.wild (.many :: ".html".toList.map .char)], false⟩

theorem pattern_plainSettings : Glob.pattern plainSettings.pattern = .ok htmlNames := by
  decide +kernel

/-- A document that opens a page. -/
def openingDocument : Text :=
  "<head><link href=''>".toList ++ "</head><body>".toList ++ "<table><tbody>".toList ++
  "<tr><td>open</td>".toList ++ "<td>/</td><td/></tr>".toList

/-- A document with one row, which does nothing. -/
def idleDocument : Text :=
  "<head><link href>".toList ++ "</head><body>".toList ++ "<table><tbody><tr/>".toList

theorem statements_openingDocument :
    statements (Utf8.decodeReplacing (Utf8.encode openingDocument)) =
      .ok ["$I->amOnPage('/');".toList] := by
  rw [Utf8.decodeReplacing_encode]
  decide +kernel

theorem statements_idleDocument :
    statements (Utf8.decodeReplacing (Utf8.encode idleDocument)) = .ok [] := by
  rw [Utf8.decodeReplacing_encode]
  decide +kernel

/-- A disk with these documents in the input directory. -/
def diskOf (documents : List (Text × Text)) : Disk :=
  (["in".toList], .directory) ::
    documents.map fun p => ([p.1, "in".toList], .file (Utf8.encode p.2))

/-- The disk as a scan leaves it, with an output directory. -/
def withOutput (d : Disk) : Disk := d ++ [(["out".toList], .directory)]

end TestScribe.Generate
