import TestScribe.CommandLine.Program
import TestScribe.Proofs.Generate.FirstFailure

/-!
# What a run says about its documents

A run passes what becomes of a document on several times before it is printed. The result is
put into the report, the report is sorted into documents that failed and documents that were
generated, failures with nothing to say are passed over, and the messages and numbers are
taken from what is left. Nothing gets lost on this way. Every failure has something to say
(`Failure.message_ne_nil`), and each result is on exactly one of the two sides. So the reply
can be said without a report, from what becomes of each document when its turn comes
(`outcomesInTurn`) and the time that all of them take: that is its `account`.

> `generate_accounts`: where a run comes to its end, the call prints the account of the
> documents that were found, and ends with zero exactly if each of them was generated.
-/

namespace TestScribe

namespace Generate

/-- What becomes of each document when its turn comes, on the disk that those before it
leave. -/
def outcomesInTurn (here : Place) (s : Settings) :
    Disk → List Path → List (Path × Except Stop Generated)
  | _, [] => []
  | d, path :: paths =>
    (path, (generateFile d here s path).1) ::
      outcomesInTurn here s (generateFile d here s path).2 paths

theorem map_fst_outcomesInTurn {here : Place} {s : Settings} (paths : List Path) :
    ∀ d, (outcomesInTurn here s d paths).map Prod.fst = paths := by
  induction paths with
  | nil => exact fun _ => rfl
  | cons path paths ih =>
    intro d
    rw [outcomesInTurn, List.map_cons, ih]

/-- What a result says of its document. -/
def FileResult.said (r : FileResult) : Path × Except Stop Generated :=
  (r.input, r.outcome.mapError .failure)

/-- The report of a run says of each document what becomes of it in its turn. -/
theorem outcomesInTurn_eq_of_runAll {here : Place} {s : Settings} {paths : List Path} :
    ∀ {d d' : Disk} {report : Report}, runAll here s d paths = (.ok report, d') →
      outcomesInTurn here s d paths = report.map FileResult.said := by
  induction paths with
  | nil =>
    intro d d' report h
    cases h
    rfl
  | cons path paths ih =>
    intro d d' report h
    obtain ⟨r, d₁, rs, h₁, h₂, rfl⟩ := runAll_cons_eq_ok.mp h
    obtain ⟨hinput, ⟨g, hg, hgen⟩ | ⟨f, hf, -, hgen⟩⟩ := runOne_eq_ok.mp h₁
    · rw [outcomesInTurn, hgen, ih h₂, List.map_cons, FileResult.said, hinput, hg]
      rfl
    · rw [outcomesInTurn, hgen, ih h₂, List.map_cons, FileResult.said, hinput, hf]
      rfl

end Generate

namespace CommandLine

open Generate (FileResult Generated Report Stop outcomesInTurn)
open Generate (gapDisk gapDiskWith firstResult secondResult thirdResult plainSettings)

/-! ## The account of documents -/

/-- The message about a document that could not be generated: its name and what was wrong. -/
def failureMessage? : Path × Except Stop Generated → Option Text
  | (path, .error (.failure f)) => some (path.name ++ ": ".toList ++ f.message)
  | _ => none

/-- The message about a document that was generated: its name and its file. -/
def successMessage? : Path × Except Stop Generated → Option Text
  | (path, .ok g) => some (path.name ++ " -> ".toList ++ g.path.toText)
  | _ => none

/-- The reply about documents with these outcomes: the failures, the generated files, their
number among all, and the time that was taken. -/
def account (elapsed : Binary64) (outcomes : List (Path × Except Stop Generated)) : Reply where
  code := if outcomes.all (·.2.isOk) then 0 else 1
  output := printed (outcomes.filterMap failureMessage? ++ outcomes.filterMap successMessage? ++
    ["Generated ".toList ++ Text.ofNat (outcomes.countP (·.2.isOk)) ++ " of ".toList ++
      Text.ofNat outcomes.length ++ " file(s) in ".toList ++
        Shortest.render Shortest.standard elapsed ++ "s.".toList])

theorem isOk_said (r : FileResult) : r.said.2.isOk = r.ok := by
  obtain ⟨input, outcome⟩ := r
  cases outcome with
  | ok g => rfl
  | error f => rfl

/-- No message about a failure gets lost on the way through the report. -/
theorem failureLines_eq (report : Report) :
    report.failureLines = (report.map FileResult.said).filterMap failureMessage? := by
  rw [Report.failureLines, Report.failed, List.filterMap_filter, List.filterMap_map]
  refine congrArg (fun line => List.filterMap line report) (funext fun r => ?_)
  obtain ⟨input, outcome⟩ := r
  cases outcome with
  | ok g => rfl
  | error f =>
    have hmessage : f.message.isEmpty = false := List.isEmpty_eq_false_iff.mpr f.message_ne_nil
    show (if f.message.isEmpty then none else some (input.name ++ ": ".toList ++ f.message)) = _
    rw [hmessage]
    rfl

theorem successLines_eq (report : Report) :
    report.succeeded.filterMap successLine? =
      (report.map FileResult.said).filterMap successMessage? := by
  rw [Report.succeeded, List.filterMap_filter, List.filterMap_map]
  refine congrArg (fun line => List.filterMap line report) (funext fun r => ?_)
  obtain ⟨input, outcome⟩ := r
  cases outcome with
  | ok g => rfl
  | error f => rfl

theorem ok_eq_all (report : Report) : report.ok = (report.map FileResult.said).all (·.2.isOk) := by
  have hall : report.failed = [] ↔ ∀ r ∈ report, r.ok = true := by
    rw [Report.failed, List.filter_eq_nil_iff]
    simp
  rw [Report.ok, List.all_map, Bool.eq_iff_iff, List.isEmpty_iff, hall, List.all_eq_true]
  exact forall₂_congr fun r _ => by rw [Function.comp_apply, isOk_said]

theorem length_succeeded (report : Report) :
    report.succeeded.length = (report.map FileResult.said).countP (·.2.isOk) := by
  rw [Report.succeeded, ← List.countP_eq_length_filter, List.countP_map]
  exact congrArg (fun p => List.countP p report) (funext fun r => (isOk_said r).symm)

/-- What is printed about a report, and the code, are the account of what it says. -/
theorem reply_eq_account (elapsed : Binary64) (report : Report) :
    (⟨if report.ok then 0 else 1, printed (reportLines elapsed report)⟩ : Reply) =
      account elapsed (report.map FileResult.said) := by
  unfold account reportLines summaryLine
  simp only [failureLines_eq, successLines_eq, ok_eq_all, length_succeeded, List.length_map]

/-- A result has exactly one of the two messages. -/
theorem one_message (r : FileResult) :
    (failureMessage? r.said).isSome ≠ (successMessage? r.said).isSome := by
  obtain ⟨input, outcome⟩ := r
  cases outcome with
  | ok g => exact nofun
  | error f => exact nofun

/-! ## Calls that generate -/

/-- Once its arguments are read and its settings are put together, a call does a run and says
how it ended. -/
theorem runCommand_generate {h : Host} {store : Settings.Store} {d : Disk}
    {arguments : List Text} {values : Dictionary Text Json} {s : Generate.Settings}
    (hread : read CommandName.generate.usage arguments = .values values)
    (hsettings : Generate.Settings.build h d store values = .ok s) :
    runCommand h store d .generate arguments =
      match Generate.run d h.here s with
      | (.ok report, d') => (.ok (account h.elapsed (report.map FileResult.said)), d')
      | (.error (.failure f), d') => (.ok ⟨1, printed [f.message]⟩, d')
      | (.error (.breakdown b), d') => (.error (.run b), d') := by
  rw [runCommand, hread]
  show generate h store d values = _
  rw [generate, hsettings]
  dsimp only
  rcases Generate.run d h.here s with ⟨(f | b) | report, d'⟩
  · rfl
  · rfl
  · exact congrArg (fun reply => (Except.ok reply, d')) (reply_eq_account h.elapsed report)

/-- Every command is called by its word, once the log is set up. -/
theorem call_word {h : Host} {store : Settings.Store} {d : Disk} {levels : Log.Levels}
    (c : CommandName) (arguments : List Text)
    (hlog : Log.configure (Settings.get store "debug.level".toList (.str "INFO".toList)) [] [] =
      .ok levels) :
    call h store d (c.word :: arguments) = runCommand h store d c arguments := by
  have hword : ∀ c : CommandName, overviewWords.contains c.word = false := by
    rintro (_ | _) <;> decide
  have hname : ∀ c : CommandName, CommandName.ofWord? c.word = some c := by
    rintro (_ | _) <;> decide
  rw [call, hlog]
  dsimp only
  rw [hword, hname]
  rfl

theorem call_generate {h : Host} {store : Settings.Store} {d : Disk} {levels : Log.Levels}
    (arguments : List Text)
    (hlog : Log.configure (Settings.get store "debug.level".toList (.str "INFO".toList)) [] [] =
      .ok levels) :
    call h store d (CommandName.generate.word :: arguments) =
      runCommand h store d .generate arguments :=
  call_word .generate arguments hlog

/-- Where a run comes to its end, the call prints the account of what has become of the
documents that were found, each in its turn, and this is what the report says of them. No
document is left out, and each has exactly one of the two messages. The call is the same by
the name of the program, if the log can be set up. -/
theorem generate_accounts {h : Host} {store : Settings.Store} {d d' : Disk}
    {arguments : List Text} {values : Dictionary Text Json} {s : Generate.Settings}
    {report : Report} (hread : read CommandName.generate.usage arguments = .values values)
    (hsettings : Generate.Settings.build h d store values = .ok s)
    (hrun : Generate.run d h.here s = (.ok report, d')) :
    ∃ paths d₁ outcomes,
      Generate.scan d h.here s.input s.output s.pattern = (.ok paths, d₁) ∧
      outcomes = outcomesInTurn h.here s d₁ paths ∧
      outcomes = report.map FileResult.said ∧
      outcomes.map Prod.fst = paths ∧
      (∀ o ∈ outcomes, (failureMessage? o).isSome ≠ (successMessage? o).isSome) ∧
      runCommand h store d .generate arguments = (.ok (account h.elapsed outcomes), d') ∧
      ∀ levels, Log.configure (Settings.get store "debug.level".toList (.str "INFO".toList))
          [] [] = .ok levels →
        call h store d (CommandName.generate.word :: arguments) =
          (.ok (account h.elapsed outcomes), d') := by
  obtain ⟨paths, d₁, hscan, hall⟩ := Generate.run_eq_ok.mp hrun
  have hsaid : outcomesInTurn h.here s d₁ paths = report.map FileResult.said :=
    Generate.outcomesInTurn_eq_of_runAll hall
  have hcommand : runCommand h store d .generate arguments =
      (.ok (account h.elapsed (report.map FileResult.said)), d') := by
    rw [runCommand_generate hread hsettings, hrun]
  refine ⟨paths, d₁, report.map FileResult.said, hscan, hsaid.symm, rfl, ?_, ?_, hcommand, ?_⟩
  · rw [← hsaid, Generate.map_fst_outcomesInTurn]
  · intro o ho
    obtain ⟨r, -, rfl⟩ := List.mem_map.mp ho
    exact one_message r
  · intro levels hlog
    rw [call_generate arguments hlog, hcommand]

/-! ## A call on a small disk -/

/-- The arguments that name the two directories. -/
def directoryArguments : List Text := ["-i".toList, "in".toList, "-o".toList, "out".toList]

/-- The values that they give. -/
def directoryValues : Dictionary Text Json :=
  [("input_dir".toList, .str "in".toList), ("output_dir".toList, .str "out".toList)]

theorem read_directoryArguments :
    read CommandName.generate.usage directoryArguments = .values directoryValues := rfl

/-- With nothing in the store these are all that is said about the run. -/
theorem build_directoryValues (elapsed : Binary64) (d : Disk) :
    Generate.Settings.build ⟨[], [], elapsed⟩ d (.obj []) directoryValues = .ok plainSettings :=
  rfl

/-- One document of three is empty. It is named with what is wrong with it, and the other two
with their files. -/
theorem generate_accounts_empty_document :
    runCommand ⟨[], [], .ofDecimal false 1275 (-3)⟩ (.obj []) gapDisk .generate directoryArguments =
      (.ok ⟨1, printed
        ["second.html: There is not a url in the html file.".toList,
         "first.html -> out/FirstCest.php".toList,
         "third.html -> out/ThirdCest.php".toList,
         "Generated 2 of 3 file(s) in 1.275s.".toList]⟩,
        gapDiskWith ["FirstCest".toList, "ThirdCest".toList]) := by
  obtain ⟨paths, d₁, outcomes, -, -, houtcomes, -, -, hcommand, -⟩ :=
    generate_accounts read_directoryArguments (build_directoryValues _ gapDisk) Generate.run_gapDisk
  have haccount : account (.ofDecimal false 1275 (-3)) ([firstResult, secondResult, thirdResult].map FileResult.said) =
      ⟨1, printed
        ["second.html: There is not a url in the html file.".toList,
         "first.html -> out/FirstCest.php".toList,
         "third.html -> out/ThirdCest.php".toList,
         "Generated 2 of 3 file(s) in 1.275s.".toList]⟩ := by
    decide +kernel
  rw [hcommand, houtcomes, haccount]

end CommandLine
end TestScribe
