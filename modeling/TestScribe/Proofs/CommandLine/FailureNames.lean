import TestScribe.Proofs.CommandLine.Accounting

/-!
# Which document has failed

The message of a failure says what is wrong with a document, and most of them do not say with
which. A run that goes on after failures prints the name of the document before the message.
A run that stops at the first failure ends with the failure alone, and its message is all that
is printed. So whoever reads the output knows the document only in the first case:

> `failure_named_iff`: a document that fails when its turn comes makes the call end with one,
> and its name stands before its message, on a line of its own, exactly if the run is not to
> stop at the first failure.

One empty document is enough to see it (`failure_not_named`).
-/

namespace TestScribe

namespace Generate

section
variable {d d' : Disk} {here : Place} {s : Settings} {path : Path} {f : Failure}

theorem concernsRun_of_checkName {extension name : Text}
    (h : checkName extension name = .error f) : f.concernsRun = false := by
  unfold checkName at h
  split at h
  · cases h
  · cases h
    rfl

theorem concernsRun_of_readDocument {written : Text}
    (h : readDocument d here path written = .error (.failure f)) : f.concernsRun = false := by
  unfold readDocument at h
  split at h
  · cases h
  · cases h
  · cases h
    rfl

theorem concernsRun_of_statements {markup : Text}
    (h : statements markup = .error (.failure f)) : f.concernsRun = false := by
  unfold statements at h
  split at h
  · cases h
  · split at h
    · cases h
      rfl
    · split at h
      · cases h
        rfl
      · cases h

theorem concernsRun_of_writeClass {code : Text}
    (h : writeClass d here path code = .error (.failure f)) : f.concernsRun = false := by
  unfold writeClass at h
  split at h
  · cases h
  · cases h
  · cases h
    rfl

theorem concernsRun_of_prepare (h : prepare d here s path = .error (.failure f)) :
    f.concernsRun = false := by
  unfold prepare at h
  split at h
  · rename_i hname
    cases h
    exact concernsRun_of_checkName hname
  · split at h
    · rename_i hread
      cases h
      exact concernsRun_of_readDocument hread
    · split at h
      · rename_i hstatements
        cases h
        exact concernsRun_of_statements hstatements
      · cases h

/-- What is wrong with a document does not concern the run as a whole. -/
theorem concernsRun_of_generateFile (h : generateFile d here s path = (.error (.failure f), d')) :
    f.concernsRun = false := by
  obtain ⟨-, hprepare | ⟨g, code, -, hwrite⟩⟩ := generateFile_eq_error h
  · exact concernsRun_of_prepare hprepare
  · exact concernsRun_of_writeClass hwrite

end

end Generate

namespace CommandLine

open Generate (Failure FileResult Report generateFile runOne runAll scan)
open Generate (plainSettings idleDocument withOutput gapDisk gapDiskWith firstResult secondResult
  thirdResult pairDisk pairPaths)

/-! ## Lines of the output -/

/-- The text stands in the output from the beginning of a line to the end of one. -/
def HasLine (line output : Text) : Prop :=
  ∃ before after, output = before ++ line ++ '\n' :: after ∧
    (before = [] ∨ before.getLast? = some '\n')

theorem length_lt_of_hasLine {line output : Text} (h : HasLine line output) :
    line.length < output.length := by
  obtain ⟨before, after, rfl, -⟩ := h
  simp only [List.length_append, List.length_cons]
  omega

/-- What has been printed is nothing or ends with a line. -/
theorem printed_ends (ls : List Text) : printed ls = [] ∨ (printed ls).getLast? = some '\n' := by
  rcases List.eq_nil_or_concat ls with rfl | ⟨front, last, rfl⟩
  · exact .inl rfl
  · right
    rw [List.concat_eq_append, printed, List.flatMap_append, List.flatMap_singleton,
      ← List.append_assoc, List.getLast?_concat]

theorem hasLine_printed {line : Text} {ls : List Text} (h : line ∈ ls) :
    HasLine line (printed ls) := by
  obtain ⟨front, rest, rfl⟩ := List.append_of_mem h
  refine ⟨printed front, printed rest, ?_, printed_ends front⟩
  rw [printed, List.flatMap_append, List.flatMap_cons]
  simp [printed]

/-! ## Documents that fail -/

/-- The message alone is too short to hold the name as well. -/
theorem not_hasLine_message (name : Text) (f : Failure) :
    ¬ HasLine (name ++ ": ".toList ++ f.message) (printed [f.message]) := by
  intro h
  have hlength := length_lt_of_hasLine h
  have hcolon : ": ".toList.length = 2 := by decide
  simp only [printed, List.flatMap_singleton, List.length_append, List.length_singleton,
    hcolon] at hlength
  omega

/-- The account of documents of which one has failed has its line, and the code is one. -/
theorem account_of_failure {outcomes : List (Path × Except Generate.Stop Generate.Generated)}
    {path : Path} {f : Failure} (elapsed : Binary64) (h : (path, .error (.failure f)) ∈ outcomes) :
    (account elapsed outcomes).code = 1 ∧
      HasLine (path.name ++ ": ".toList ++ f.message) (account elapsed outcomes).output := by
  constructor
  · have hall : ¬ outcomes.all (·.2.isOk) = true := by
      intro hall
      have hok := List.all_eq_true.mp hall _ h
      cases hok
    exact if_neg hall
  · refine hasLine_printed (List.mem_append_left _ (List.mem_append_left _ ?_))
    exact List.mem_filterMap.mpr ⟨_, h, rfl⟩

/-- A run that goes on behind a document which fails tells of the failure. -/
theorem mem_said_of_failure {here : Place} {s : Generate.Settings} {d d₁ d₂ d' : Disk}
    {before after : List Path} {path : Path} {results report : Report} {f : Failure}
    (hbefore : runAll here s d before = (.ok results, d₁))
    (hfails : generateFile d₁ here s path = (.error (.failure f), d₂))
    (hall : runAll here s d (before ++ path :: after) = (.ok report, d')) :
    (path, .error (.failure f)) ∈ report.map FileResult.said := by
  rw [Generate.runAll_append hbefore] at hall
  split at hall
  · rename_i rest d₃ hrest
    cases hall
    obtain ⟨r, d₄, rs, h₁, -, rfl⟩ := Generate.runAll_cons_eq_ok.mp hrest
    obtain ⟨hinput, ⟨g, -, hgen⟩ | ⟨f', hf', -, hgen⟩⟩ := Generate.runOne_eq_ok.mp h₁
    · rw [hfails] at hgen
      cases hgen
    · rw [hfails] at hgen
      cases hgen
      have hsaid : r.said = (path, .error (.failure f)) := by
        rw [FileResult.said, hinput, hf']
        rfl
      rw [← hsaid]
      exact List.mem_map_of_mem (List.mem_append_right _ List.mem_cons_self)
  · cases hall

section
variable {h : Host} {store : Settings.Store} {d d₁ d₂ d₃ d' : Disk} {arguments : List Text}
  {values : Dictionary Text Json} {s : Generate.Settings} {before after : List Path} {path : Path}
  {results : Report} {f : Failure} {reply : Reply}
  (hread : read CommandName.generate.usage arguments = .values values)
  (hsettings : Generate.Settings.build h d store values = .ok s)
  (hscan : scan d h.here s.input s.output s.pattern = (.ok (before ++ path :: after), d₁))
  (hbefore : runAll h.here s d₁ before = (.ok results, d₂))

include hread hsettings hscan hbefore

/-- A run that stops at the first failure leaves nothing but the failure to speak of. -/
theorem runCommand_of_failFast (hfast : s.failFast = true)
    (hfails : generateFile d₂ h.here s path = (.error (.failure f), d₃)) :
    runCommand h store d .generate arguments = (.ok ⟨1, printed [f.message]⟩, d₃) := by
  have hone : runOne d₂ h.here s path = (.error (.failure f), d₃) := by
    rw [runOne, hfails]
    exact if_pos hfast
  have hlater : runAll h.here s d₂ (path :: after) = (.error (.failure f), d₃) :=
    Generate.runAll_cons_eq_error.mpr (.inl hone)
  rw [runCommand_generate hread hsettings, Generate.run_of_scan hscan,
    Generate.runAll_append_of_error hlater hbefore]

/-- A run that goes on to its end names the document. -/
theorem reply_of_going_on (hslow : s.failFast = false)
    (hfails : generateFile d₂ h.here s path = (.error (.failure f), d₃))
    (hreply : runCommand h store d .generate arguments = (.ok reply, d')) :
    reply.code = 1 ∧ HasLine (path.name ++ ": ".toList ++ f.message) reply.output := by
  rw [runCommand_generate hread hsettings, Generate.run_of_scan hscan] at hreply
  split at hreply
  · rename_i report d₄ hall
    cases hreply
    exact account_of_failure h.elapsed (mem_said_of_failure hbefore hfails hall)
  · -- A failure would have been noted and not have ended the run.
    rename_i hall
    obtain ⟨b, hb⟩ := Generate.runAll_eq_error_of_going_on hslow hall
    cases hb
  · cases hreply

/-- A document that is found and fails when its turn comes is at fault by itself, and the call
ends with one. The name of the document stands before the message exactly if the run is not to
stop at the first failure; otherwise the message is all that is printed. -/
theorem failure_named_iff
    (hfails : (generateFile d₂ h.here s path).1 = .error (.failure f))
    (hreply : runCommand h store d .generate arguments = (.ok reply, d')) :
    f.concernsRun = false ∧ reply.code = 1 ∧
      (HasLine (path.name ++ ": ".toList ++ f.message) reply.output ↔ s.failFast = false) ∧
      (s.failFast = true → reply.output = printed [f.message]) := by
  obtain ⟨d₃, hgenerate⟩ : ∃ d₃, generateFile d₂ h.here s path = (.error (.failure f), d₃) :=
    ⟨_, Prod.ext hfails rfl⟩
  refine ⟨Generate.concernsRun_of_generateFile hgenerate, ?_⟩
  cases hfast : s.failFast with
  | true =>
    have hcommand := runCommand_of_failFast hread hsettings hscan hbefore hfast hgenerate
    rw [hreply] at hcommand
    cases hcommand
    refine ⟨rfl, ⟨fun hline => ?_, fun hslow => ?_⟩, fun _ => rfl⟩
    · exact absurd hline (not_hasLine_message path.name f)
    · cases hslow
  | false =>
    obtain ⟨hcode, hline⟩ :=
      reply_of_going_on hread hsettings hscan hbefore hfast hgenerate hreply
    exact ⟨hcode, ⟨fun _ => rfl, fun _ => hline⟩, nofun⟩

end

/-! ## An empty document -/

/-- The empty document among three fails when its turn comes. -/
theorem generateFile_secondResult :
    (generateFile (gapDiskWith ["FirstCest".toList]) [] plainSettings secondResult.input).1 =
      .error (.failure .noAddress) := by
  decide +kernel

/-- In a run that goes on, the empty document is named together with what is wrong. -/
theorem failure_named_empty_document : ∃ reply,
    runCommand ⟨[], [], .ofInt 0⟩ (.obj []) gapDisk .generate directoryArguments =
      (.ok reply, gapDiskWith ["FirstCest".toList, "ThirdCest".toList]) ∧
    reply.code = 1 ∧
    HasLine "second.html: There is not a url in the html file.".toList reply.output := by
  have hcommand := runCommand_generate read_directoryArguments
    (build_directoryValues (.ofInt 0) gapDisk)
  rw [Generate.run_gapDisk] at hcommand
  have hfirst : runAll [] plainSettings (gapDiskWith []) [firstResult.input] =
      (.ok [firstResult], gapDiskWith ["FirstCest".toList]) :=
    Generate.runAll_cons_eq_ok.mpr ⟨_, _, [], Generate.runOne_firstResult, rfl, rfl⟩
  have hscan : scan gapDisk [] plainSettings.input plainSettings.output plainSettings.pattern =
      (.ok ([firstResult.input] ++ secondResult.input :: [thirdResult.input]), gapDiskWith []) :=
    Generate.scan_gapDisk
  obtain ⟨-, hcode, hline, -⟩ := failure_named_iff read_directoryArguments
    (build_directoryValues _ gapDisk) hscan hfirst generateFile_secondResult hcommand
  have hnamed : secondResult.input.name ++ ": ".toList ++ Failure.message .noAddress =
      "second.html: There is not a url in the html file.".toList := by
    decide +kernel
  rw [hnamed] at hline
  exact ⟨_, hcommand, hcode, hline.mpr rfl⟩

/-- In a run that stops at the first failure, nothing says which of the documents has
failed. -/
theorem failure_not_named :
    scan (pairDisk [] idleDocument) [] plainSettings.input plainSettings.output
        plainSettings.pattern = (.ok pairPaths, withOutput (pairDisk [] idleDocument)) ∧
      pairPaths.head? = some (.ofText "in/bad.html".toList) ∧
      (generateFile (withOutput (pairDisk [] idleDocument)) [] plainSettings
        (.ofText "in/bad.html".toList)).1 = .error (.failure .noAddress) ∧
      call ⟨[], [], .ofInt 0⟩ (.obj []) (pairDisk [] idleDocument)
        (CommandName.generate.word :: "--fail-fast".toList :: directoryArguments) =
          (.ok ⟨1, printed ["There is not a url in the html file.".toList]⟩,
            withOutput (pairDisk [] idleDocument)) ∧
      ¬ HasLine "bad.html: There is not a url in the html file.".toList
        (printed ["There is not a url in the html file.".toList]) := by
  have hread : read CommandName.generate.usage ("--fail-fast".toList :: directoryArguments) =
      .values (("fail_fast".toList, .bool true) :: directoryValues) := rfl
  have hsettings : Generate.Settings.build ⟨[], [], .ofInt 0⟩ (pairDisk [] idleDocument) (.obj [])
      (("fail_fast".toList, .bool true) :: directoryValues) = .ok plainSettings.failingFast := rfl
  have hscan : scan (pairDisk [] idleDocument) [] plainSettings.failingFast.input
      plainSettings.failingFast.output plainSettings.failingFast.pattern =
        (.ok pairPaths, withOutput (pairDisk [] idleDocument)) := Generate.scan_pairDisk _ _
  have hrun : Generate.run (pairDisk [] idleDocument) [] plainSettings.failingFast =
      (.error (.failure .noAddress), withOutput (pairDisk [] idleDocument)) := by
    rw [Generate.run_of_scan hscan]
    decide +kernel
  refine ⟨Generate.scan_pairDisk _ _, rfl, by decide +kernel, ?_, ?_⟩
  · rw [call_generate _ rfl, runCommand_generate hread hsettings, hrun]
    rfl
  · intro h
    have hlength := length_lt_of_hasLine h
    exact absurd hlength (by decide +kernel)

end CommandLine
end TestScribe
