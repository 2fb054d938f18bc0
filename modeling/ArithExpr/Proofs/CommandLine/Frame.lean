import ArithExpr.Proofs.CommandLine.Outputs
import ArithExpr.Proofs.CommandLine.Run

/-
  What a run of the command does to files.

  A run that does not succeed, or shows the help, leaves all
  files as they were.  Any other run changes no file but the
  one that its last option for the output names, and leaves
  there what it would have printed without such options.  Where
  the option names the null device, all files stay as they are.

  Main declarations:
    * `Settings.conclusion_frame`
    * `runCommand_frame`
-/

------------------------------------------------------------
-- One Text
------------------------------------------------------------

namespace ArithExpr

namespace Settings

/-
  Handling a text changes no file unless it succeeds with an
  output that is a file.  What is left there is what would
  have been printed otherwise.
-/
theorem conclusion_frame
    (settings : Settings)
    (files : Files)
    (text : String) :
    ((settings.conclusion files text).1.exit ≠ 0 ∧
        (settings.conclusion files text).2 = files) ∨
      (settings.conclusion files text).1.exit = 0 ∧
        (settings.printing.conclusion files text).1.exit =
          0 ∧
        (settings.output = standardStream ∧
            (settings.conclusion files text).2 = files ∨
          settings.output ≠ standardStream ∧
            (settings.conclusion files text).1.stdout = "" ∧
            files.Written (settings.conclusion files text).2
              settings.output
              (settings.printing.conclusion
                files text).1.stdout) := by
  rcases settings.deliver_cases files
      (settings.handle text).outcome with
    ⟨hExit, hFiles⟩ | ⟨result, hOutcome, hDelivered⟩
  · exact .inl ⟨hExit, hFiles⟩
  have hPlain :
      settings.printing.conclusion files text =
        ((Report.ofOutcome (.ok result)).withNotes
          (settings.notes text), files) := by
    rw [settings.printing.conclusion_printed files text rfl,
      ← hOutcome]
    rfl
  refine .inr ?_
  rw [hPlain]
  rcases hDelivered with
    ⟨hOutput, hDelivered⟩ | ⟨hOutput, location, hPlace,
      hDelivered⟩
  · rw [conclusion, hDelivered]
    exact ⟨rfl, rfl, .inl ⟨hOutput, rfl⟩⟩
  · rw [conclusion, hDelivered]
    exact
      ⟨rfl, rfl,
        .inr ⟨hOutput, rfl, Files.written_store hPlace _⟩⟩

end Settings

------------------------------------------------------------
-- Whole Runs
------------------------------------------------------------

/-
  A run that fails or shows the help leaves the files as they
  were.  A run that succeeds otherwise does so too, unless its
  last option for the output names a file: then it leaves
  there what the run without these options prints, and every
  other file is as it was, even where that file is its input.
-/
theorem runCommand_frame
    (arguments : List String)
    (input : String)
    (files : Files) :
    let run := runCommand arguments input files
    let split := Settings.splitOutputs arguments
    let plain := (runCommand split.1 input files).1
    (run.1.exit ≠ 0 ∨ run.1.stdout = helpText →
      run.2 = files) ∧
    (run.1.exit = 0 → run.1.stdout ≠ helpText →
      plain.exit = 0 ∧
      match split.2.getLast? with
      | none => run.2 = files
      | some path =>
          if path = standardStream then
            run.2 = files
          else
            files.Written run.2 path plain.stdout) := by
  intro run split plain
  rcases runCommand_cases arguments input files with
    hHelp | ⟨fault, hFault⟩ |
    ⟨settings, text, hScan, hText⟩
  · have hRun : run = (⟨0, helpText, ""⟩, files) := hHelp
    rw [hRun]
    exact ⟨fun _ => rfl, fun _ hOther => absurd rfl hOther⟩
  · have hRun : run = (.ofMisuse fault, files) := hFault
    rw [hRun]
    exact ⟨fun _ => rfl, fun hExit => by cases hExit⟩
  have hRun : run = settings.conclusion files text :=
    runCommand_of_subject hScan hText
  rcases Settings.scan_splitOutputs hScan with
    ⟨hOutput, hOthers⟩
  have hPlain :
      plain =
        (settings.printing.conclusion files text).1 :=
    congrArg Prod.fst (runCommand_of_subject hOthers hText)
  rw [hRun, hPlain]
  rcases settings.conclusion_frame files text with
    ⟨hExit, hFiles⟩ | ⟨hExit, hPrinted, hFrame⟩
  · exact
      ⟨fun _ => hFiles, fun hZero => absurd hZero hExit⟩
  constructor
  · intro hEnd
    rcases hFrame with
      ⟨_, hFiles⟩ | ⟨_, hSilent, _⟩
    · exact hFiles
    · rcases hEnd with hFails | hHelp
      · exact absurd hExit hFails
      · rw [hSilent] at hHelp
        exact absurd hHelp (by decide)
  · intro _ _
    refine ⟨hPrinted, ?_⟩
    change settings.output = split.2.getLast?.getD _ at hOutput
    cases hLast : split.2.getLast? with
    | none =>
        rw [hLast] at hOutput
        rcases hFrame with ⟨_, hFiles⟩ | ⟨hOther, _⟩
        · exact hFiles
        · exact absurd hOutput hOther
    | some path =>
        rw [hLast] at hOutput
        change settings.output = path at hOutput
        dsimp only
        rw [← hOutput]
        rcases hFrame with
          ⟨hSame, hFiles⟩ | ⟨hOther, _, hWritten⟩
        · rw [if_pos hSame]
          exact hFiles
        · rw [if_neg hOther]
          exact hWritten

/-
  A file that is both input and output holds its own canonical
  form afterwards, and stays where its text has a fault.
-/
theorem frame_of_file_over_itself :
    let files := Files.ofList [("sum", "1+2*3\r\n"), ("x", "")]
    files.Written
        (runCommand ["-vo", "sum", "-f", "sum"] "" files).2
        "sum" "(1 + (2 * 3))\n" ∧
      (runCommand ["-vo", "x", "-f", "x"] "" files).2 =
        files := by
  intro files
  have hSum :=
    runCommand_frame ["-vo", "sum", "-f", "sum"] "" files
  have hFault :=
    runCommand_frame ["-vo", "x", "-f", "x"] "" files
  constructor
  · have hSplit :
        Settings.splitOutputs ["-vo", "sum", "-f", "sum"] =
          (["-v", "-f", "sum"], ["sum"]) := by
      decide +kernel
    have hPrinted :
        (runCommand ["-v", "-f", "sum"] "" files).1.stdout =
          "(1 + (2 * 3))\n" := by
      decide +kernel
    have hFrame :=
      (hSum.2 (by decide +kernel) (by decide +kernel)).2
    rw [hSplit] at hFrame
    rw [← hPrinted]
    exact hFrame
  · exact hFault.1 (.inl (by decide +kernel))

end ArithExpr
