import ArithExpr.CommandLine.Command
import ArithExpr.Proofs.CommandLine.Files

/-
  What a run of the command comes to.

  A run ends with a usage error or with the help, or it gets
  as far as a text.  What becomes of the text is then known
  from its handling: an error is reported, and a result is
  printed or written.  Notes stand in front of all else on the
  diagnostic stream and change nothing else.

  Key definitions include:
    * `Report.ofOutcome`
    * `Report.withNotes`
    * `Settings.subject`
    * `Settings.deliver`
    * `Settings.conclusion`
    * `Settings.complete`

  Main declarations:
    * `Handling.ofTree_of_ok`
    * `Settings.deliver_cases`
    * `Settings.conclusion_printed`
    * `Settings.run_conclude`
    * `Settings.run_dialogue`
    * `runCommand_eq`
    * `runCommand_cases`
-/

------------------------------------------------------------
-- Reports
------------------------------------------------------------

namespace ArithExpr

namespace Report

/- The report of a usage error. -/
def ofMisuse (fault : UsageFault) : Report :=
  ⟨2, "", fault.diagnostic⟩

/- The report of what became of a text. -/
def ofOutcome : Except Failure String → Report
| .ok result => ⟨0, result ++ "\n", ""⟩
| .error (.rejected fault) =>
    ⟨1, "", "error: " ++ fault.message ++ "\n"⟩
| .error (.unprinted _) => ⟨1, "", ""⟩

/- A run fails when nothing is printed for its text. -/
@[simp] theorem exit_ofOutcome_error
    (failure : Failure) :
    (ofOutcome (.error failure)).exit = 1 := by
  cases failure <;> rfl

/- A report with notes in front of its diagnostics. -/
def withNotes
    (report : Report)
    (notes : String) : Report :=
  { report with stderr := notes ++ report.stderr }

/- No notes leave a report as it is. -/
@[simp] theorem withNotes_empty
    (report : Report) :
    report.withNotes "" = report := by
  simp [withNotes]

end Report

------------------------------------------------------------
-- Outcomes
------------------------------------------------------------

namespace Handling

/- Tokens that are read are listed. -/
theorem ofTokens_of_ok
    {text : String}
    {tokens : List Token}
    (h : tokenize text = .ok tokens) :
    (ofTokens text).outcome = .ok (Token.listing tokens) := by
  rw [ofTokens, h]

section Trees

variable {limit : Nat}
variable {text : String}

/- A tree is printed, unless the printer fails on it. -/
theorem ofTree_of_ok
    {expr : Expr}
    (h : parseWithin limit text = .ok expr) :
    (ofTree limit text).outcome =
      expr.print.mapError .unprinted := by
  rw [parseWithin] at h
  rw [ofTree, h]

/- A fault of the text is what it is rejected for. -/
theorem ofTree_of_error
    {fault : ParseError}
    (h : parseWithin limit text = .error fault) :
    (ofTree limit text).outcome =
      .error (.rejected fault) := by
  rw [parseWithin] at h
  rw [ofTree, h]

end Trees

end Handling

------------------------------------------------------------
-- From Settings to a Text
------------------------------------------------------------

namespace Settings

/- The text of the file that is named, if one is. -/
def fileText?
    (settings : Settings)
    (files : Files) : Except FileFault (Option String) :=
  if settings.file = standardStream then
    .ok none
  else
    (files.read settings.file).map some

/-
  The text to handle, once a file that is named has been
  opened, or the report of arguments that are too many.
-/
def chosen
    (settings : Settings)
    (input : String)
    (text? : Option String) : Except Report String :=
  match settings.arguments with
  | [expression] => .ok expression
  | _ :: extra => .error (.ofMisuse (.extraArguments extra))
  | [] => .ok (Text.unifyNewlines (text?.getD input))

/-
  The text to handle, or the report that a run ends with when
  it does not get as far as a text.
-/
def subject
    (settings : Settings)
    (input : String)
    (files : Files) : Except Report String :=
  if settings.help then
    .error ⟨0, helpText, ""⟩
  else
    match settings.fileText? files with
    | .error fault =>
        .error (.ofMisuse (.badInput settings.file fault))
    | .ok text? => settings.chosen input text?

------------------------------------------------------------
-- From a Text to a Report
------------------------------------------------------------

/- The notes on a text, if they are asked for. -/
def notes
    (settings : Settings)
    (text : String) : String :=
  if settings.verbose then
    (settings.handle text).debugLines
  else
    ""

/-
  What becomes of an outcome, apart from notes.  A result for
  a file is written before the run ends.
-/
def deliver
    (settings : Settings)
    (files : Files)
    (outcome : Except Failure String) : Report × Files :=
  match outcome with
  | .error failure => (.ofOutcome (.error failure), files)
  | .ok result =>
      if settings.output = standardStream then
        (.ofOutcome (.ok result), files)
      else
        match files.write settings.output (result ++ "\n") with
        | .ok after => (⟨0, "", ""⟩, after)
        | .error fault =>
            (⟨1, "", unwritable settings.output fault⟩,
              files)

/-
  A delivery fails and changes no file, or a result is printed
  or put where the output leads.
-/
theorem deliver_cases
    (settings : Settings)
    (files : Files)
    (outcome : Except Failure String) :
    ((settings.deliver files outcome).1.exit ≠ 0 ∧
        (settings.deliver files outcome).2 = files) ∨
      ∃ result,
        outcome = .ok result ∧
          (settings.output = standardStream ∧
              settings.deliver files outcome =
                (.ofOutcome (.ok result), files) ∨
            settings.output ≠ standardStream ∧
              ∃ location,
                files.outputPlace settings.output =
                    .ok location ∧
                  settings.deliver files outcome =
                    (⟨0, "", ""⟩,
                      files.store location
                        (result ++ "\n"))) := by
  unfold deliver
  rcases outcome with failure | result
  · exact .inl ⟨by simp, rfl⟩
  dsimp only
  by_cases hOutput : settings.output = standardStream
  · rw [if_pos hOutput]
    exact .inr ⟨result, rfl, .inl ⟨hOutput, rfl⟩⟩
  · rw [if_neg hOutput, Files.write_eq]
    cases files.outputPlace settings.output with
    | error fault => exact .inl ⟨Nat.one_ne_zero, rfl⟩
    | ok location =>
        exact
          .inr
            ⟨result, rfl,
              .inr ⟨hOutput, location, rfl, rfl⟩⟩

/- What becomes of a text, notes included. -/
def conclusion
    (settings : Settings)
    (files : Files)
    (text : String) : Report × Files :=
  let delivered :=
    settings.deliver files (settings.handle text).outcome
  (delivered.1.withNotes (settings.notes text), delivered.2)

/- With the standard output a text is only reported on. -/
theorem conclusion_printed
    (settings : Settings)
    (files : Files)
    (text : String)
    (hOutput : settings.output = standardStream) :
    settings.conclusion files text =
      ((Report.ofOutcome
          (settings.handle text).outcome).withNotes
        (settings.notes text), files) := by
  unfold conclusion deliver
  cases (settings.handle text).outcome with
  | error failure => rfl
  | ok result =>
      dsimp only
      rw [if_pos hOutput]

/- Handling a text ends with what its outcome leads to. -/
theorem run_conclude
    (settings : Settings)
    (text input : String)
    (files : Files) :
    (settings.conclude text).run input files =
      settings.conclusion files text := by
  unfold conclude conclusion deliver notes
  rcases settings.handle text with
    ⟨(fault | fault) | result, records⟩
  · simp [Dialogue.run, Report.withNotes, Report.ofOutcome,
      String.append_assoc]
  · simp [Dialogue.run, Report.withNotes, Report.ofOutcome]
  · by_cases hOutput : settings.output = standardStream
    · simp [hOutput, Dialogue.run, Report.withNotes,
        Report.ofOutcome]
    · simp only [hOutput, if_false, Dialogue.run]
      cases files.write settings.output (result ++ "\n") with
      | error fault => simp [Report.withNotes]
      | ok after => simp [Report.withNotes]

------------------------------------------------------------
-- Whole Runs
------------------------------------------------------------

/- What a run with some settings comes to. -/
def complete
    (settings : Settings)
    (input : String)
    (files : Files) : Report × Files :=
  match settings.subject input files with
  | .error report => (report, files)
  | .ok text => settings.conclusion files text

/- A run goes on with the text that is chosen. -/
theorem run_choose
    (settings : Settings)
    (text? : Option String)
    (input : String)
    (files : Files) :
    (settings.choose text?).run input files =
      match settings.chosen input text? with
      | .error report => (report, files)
      | .ok text => settings.conclusion files text := by
  unfold choose chosen
  rcases settings.arguments with
    _ | ⟨expression, _ | ⟨other, others⟩⟩
  · cases text? with
    | none => exact run_conclude ..
    | some text => exact run_conclude ..
  · exact run_conclude ..
  · rfl

/- A run with some settings handles its text, if it has one. -/
theorem run_dialogue
    (settings : Settings)
    (input : String)
    (files : Files) :
    settings.dialogue.run input files =
      settings.complete input files := by
  unfold dialogue complete subject fileText?
  split
  · rfl
  split
  · exact run_choose ..
  · rw [Dialogue.run]
    cases files.read settings.file with
    | error fault => rfl
    | ok text => exact run_choose ..

/-
  Settings ask for the help, are a misuse after all, or lead
  to a text.
-/
theorem subject_cases
    (settings : Settings)
    (input : String)
    (files : Files) :
    settings.subject input files =
        .error ⟨0, helpText, ""⟩ ∨
      (∃ fault,
        settings.subject input files =
          .error (.ofMisuse fault)) ∨
      ∃ text, settings.subject input files = .ok text := by
  unfold subject chosen
  split
  · exact .inl rfl
  cases settings.fileText? files with
  | error fault => exact .inr (.inl ⟨_, rfl⟩)
  | ok text? =>
      rcases settings.arguments with
        _ | ⟨expression, _ | ⟨other, others⟩⟩
      · exact .inr (.inr ⟨_, rfl⟩)
      · exact .inr (.inr ⟨_, rfl⟩)
      · exact .inr (.inl ⟨_, rfl⟩)

end Settings

/- What a run of the command comes to. -/
theorem runCommand_eq
    (arguments : List String)
    (input : String)
    (files : Files) :
    runCommand arguments input files =
      match Settings.scan arguments with
      | .error fault => (.ofMisuse fault, files)
      | .ok settings => settings.complete input files := by
  unfold runCommand command
  cases Settings.scan arguments with
  | error fault => rfl
  | ok settings => exact settings.run_dialogue input files

/- Arguments that are a misuse change nothing. -/
theorem runCommand_of_misuse
    {arguments : List String}
    {fault : UsageFault}
    (h : Settings.scan arguments = .error fault)
    (input : String)
    (files : Files) :
    runCommand arguments input files =
      (.ofMisuse fault, files) := by
  rw [runCommand_eq, h]

/- Arguments that are read lead to a run with settings. -/
theorem runCommand_of_settings
    {arguments : List String}
    {settings : Settings}
    (h : Settings.scan arguments = .ok settings)
    (input : String)
    (files : Files) :
    runCommand arguments input files =
      settings.complete input files := by
  rw [runCommand_eq, h]

/- What becomes of a text that a run gets as far as. -/
theorem runCommand_of_subject
    {arguments : List String}
    {settings : Settings}
    {input text : String}
    {files : Files}
    (hScan : Settings.scan arguments = .ok settings)
    (hSubject : settings.subject input files = .ok text) :
    runCommand arguments input files =
      settings.conclusion files text := by
  rw [runCommand_of_settings hScan, Settings.complete,
    hSubject]

/-
  A run shows the help, fails before it has a text, or handles
  a text as its settings say.
-/
theorem runCommand_cases
    (arguments : List String)
    (input : String)
    (files : Files) :
    runCommand arguments input files =
        (⟨0, helpText, ""⟩, files) ∨
      (∃ fault,
        runCommand arguments input files =
          (.ofMisuse fault, files)) ∨
      ∃ settings text,
        Settings.scan arguments = .ok settings ∧
          settings.subject input files = .ok text := by
  cases hScan : Settings.scan arguments with
  | error fault =>
      exact
        .inr (.inl ⟨fault, runCommand_of_misuse hScan ..⟩)
  | ok settings =>
      rw [runCommand_of_settings hScan, Settings.complete]
      rcases settings.subject_cases input files with
        hHelp | ⟨fault, hFault⟩ | ⟨text, hText⟩
      · rw [hHelp]
        exact .inl rfl
      · rw [hFault]
        exact .inr (.inl ⟨fault, rfl⟩)
      · exact .inr (.inr ⟨settings, text, rfl, hText⟩)

end ArithExpr
