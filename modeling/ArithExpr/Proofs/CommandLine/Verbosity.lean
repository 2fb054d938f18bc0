import ArithExpr.Proofs.CommandLine.Outputs
import ArithExpr.Proofs.CommandLine.Run
import ArithExpr.Proofs.Parser.Depth
import ArithExpr.Proofs.Parser.Records

/-
  What the verbose switch adds to a run of the command.

  Notes on the text that is handled come first on the
  diagnostic stream, one line for each record, and the other
  diagnostics follow the notes.  Otherwise a run ends as it
  does without the switch, unless its text is parsed with the
  calls that are left to a run without the switch, and is
  nested too deeply for the fewer ones that are left where
  records are written out.

  Key definitions include:
    * `Settings.records`
    * `TooDeepOnlyVerbose`
    * `HandlesQuietly`
    * `DeepensWhenVerbose`
    * `AddsLines`
    * `SeenVerbose`

  Main declarations:
    * `Settings.records_unbroken`
    * `Settings.conclusion_verbose`
    * `Settings.conclusion_too_deep`
    * `HandlesQuietly.seenVerbose`
    * `runCommand_verbose`
-/

------------------------------------------------------------
-- Notes on a Text
------------------------------------------------------------

namespace ArithExpr

/-
  A text is nested too deeply for a verbose run, and for no
  other one.
-/
def TooDeepOnlyVerbose (text : String) : Prop :=
  parseWithin verboseDepthLimit text = .error .tooDeep ∧
    parse text ≠ .error .tooDeep

namespace Settings

/-
  The records that a verbose run makes while a text is
  handled: the tokens that are read for a listing, or all that
  is noted while the text is parsed.
-/
def records
    (settings : Settings)
    (text : String) : List Record :=
  if settings.tokens then
    (Lexer.ofText text).scan.1.map Record.token
  else
    trace verboseDepthLimit text

/- A verbose handling comes with these records. -/
theorem handle_records
    (settings : Settings)
    (text : String) :
    ((settings.turnOn .verbose).handle text).records =
      settings.records text := by
  change
    (if settings.tokens then Handling.ofTokens text
      else Handling.ofTree verboseDepthLimit text).records = _
  unfold records
  split <;> rfl

/-
  The outcome is the same with the verbose switch, unless the
  text is parsed and too deep only then.
-/
theorem handle_outcome
    {settings : Settings}
    {text : String}
    (hQuiet : settings.verbose = false)
    (hFits :
      settings.tokens = false → ¬ TooDeepOnlyVerbose text) :
    ((settings.turnOn .verbose).handle text).outcome =
      (settings.handle text).outcome := by
  have hVerbose :
      (settings.turnOn .verbose).handle text =
        if settings.tokens then Handling.ofTokens text
        else Handling.ofTree verboseDepthLimit text :=
    rfl
  rw [hVerbose, handle, nestingLimit, hQuiet]
  split
  · rfl
  next hTree =>
    by_cases hDeep :
        parseWithin verboseDepthLimit text = .error .tooDeep
    · have hAlways : parse text = .error .tooDeep := by
        by_contra hOther
        exact hFits (by simpa using hTree) ⟨hDeep, hOther⟩
      rw [if_neg Bool.false_ne_true,
        Handling.ofTree_of_error hDeep,
        Handling.ofTree_of_error hAlways]
    · have hSame :=
        parseRun_of_le
          (show verboseDepthLimit ≤ depthLimit by decide) hDeep
      dsimp only [Handling.ofTree]
      rw [if_neg Bool.false_ne_true, hSame]

/- None of these records quotes a blank. -/
theorem records_unbroken
    (settings : Settings)
    (text : String) :
    ∀ entry ∈ settings.records text,
      Unbroken entry.literal := by
  intro entry hMem
  unfold records at hMem
  split at hMem
  · rcases List.mem_map.mp hMem with ⟨token, hToken, rfl⟩
    exact
      (Lexer.isLexeme_of_mem_streamOf text.toList token
        hToken).unbroken
  · exact unbroken_of_mem_trace hMem

/- The notes of a verbose run are the lines of the records. -/
theorem notes_verbose
    (settings : Settings)
    (text : String) :
    (settings.turnOn .verbose).notes text =
      String.join
        (((settings.records text).map
          Record.debugLine).map (· ++ "\n")) := by
  change
    ((settings.turnOn .verbose).handle text).debugLines = _
  rw [Handling.debugLines, handle_records, List.map_map]
  rfl

/-
  With the verbose switch a text comes to the same, with a
  line for each record in front of the diagnostics.
-/
theorem conclusion_verbose
    {settings : Settings}
    {text : String}
    (hQuiet : settings.verbose = false)
    (hFits :
      settings.tokens = false → ¬ TooDeepOnlyVerbose text)
    (files : Files) :
    (settings.turnOn .verbose).conclusion files text =
      ((settings.conclusion files text).1.withNotes
          (String.join
            (((settings.records text).map
              Record.debugLine).map (· ++ "\n"))),
        (settings.conclusion files text).2) := by
  have hNotes : settings.notes text = "" := by
    rw [notes, hQuiet]
    rfl
  have hDelivered :
      (settings.turnOn .verbose).deliver files
          ((settings.turnOn .verbose).handle text).outcome =
        settings.deliver files
          (settings.handle text).outcome := by
    rw [handle_outcome hQuiet hFits]
    rfl
  unfold conclusion
  dsimp only
  rw [hDelivered, notes_verbose, hNotes,
    Report.withNotes_empty]

/-
  A text that is too deep for a verbose run is reported as
  such, behind the lines of the records.
-/
theorem conclusion_too_deep
    {settings : Settings}
    {text : String}
    (hTree : settings.tokens = false)
    (hDeep :
      parseWithin verboseDepthLimit text = .error .tooDeep)
    (files : Files) :
    (settings.turnOn .verbose).conclusion files text =
      ((Report.ofOutcome
          (.error (.rejected .tooDeep))).withNotes
        (String.join
          (((settings.records text).map
            Record.debugLine).map (· ++ "\n"))), files) := by
  have hHandle :
      (settings.turnOn .verbose).handle text =
        Handling.ofTree verboseDepthLimit text :=
    if_neg (by rw [turnOn, hTree]; exact Bool.false_ne_true)
  have hOutcome :
      ((settings.turnOn .verbose).handle text).outcome =
        .error (.rejected .tooDeep) := by
    rw [hHandle]
    exact Handling.ofTree_of_error hDeep
  unfold conclusion
  dsimp only
  rw [hOutcome, notes_verbose]
  rfl

/- The line of a record is a line, and says what it is. -/
theorem records_lines
    (settings : Settings)
    (text : String) :
    ∀ line ∈ (settings.records text).map Record.debugLine,
      "DEBUG:".toList <+: line.toList ∧
        '\n' ∉ line.toList := by
  intro line hMem
  rcases List.mem_map.mp hMem with ⟨entry, hEntry, rfl⟩
  constructor
  · unfold Record.debugLine
    simp only [String.toList_append, List.append_assoc]
    exact List.prefix_append _ _
  · exact
      Record.debugLine_one_line
        (settings.records_unbroken text entry hEntry)

end Settings

------------------------------------------------------------
-- Whole Runs
------------------------------------------------------------

section Runs

variable {arguments : List String}
variable {input text : String}
variable {files : Files}
variable {settings : Settings}

/-
  A run gets as far as a text, with given settings, and is not
  verbose.
-/
structure HandlesQuietly
    (arguments : List String)
    (input : String)
    (files : Files)
    (settings : Settings)
    (text : String) : Prop where
  scan_eq : Settings.scan arguments = .ok settings
  verbose_eq : settings.verbose = false
  subject_eq : settings.subject input files = .ok text

/- A run gets as far as one text at most. -/
theorem HandlesQuietly.unique
    {other : Settings}
    {otherText : String}
    (h : HandlesQuietly arguments input files settings text)
    (hOther :
      HandlesQuietly arguments input files other otherText) :
    settings = other ∧ text = otherText := by
  have hSettings :=
    Except.ok.inj (h.scan_eq.symm.trans hOther.scan_eq)
  subst hSettings
  exact
    ⟨rfl,
      Except.ok.inj
        (h.subject_eq.symm.trans hOther.subject_eq)⟩

/-
  A run parses a text that would be too deep if the run were
  verbose, and is not verbose.
-/
def DeepensWhenVerbose
    (arguments : List String)
    (input : String)
    (files : Files) : Prop :=
  ∃ settings text,
    HandlesQuietly arguments input files settings text ∧
      settings.tokens = false ∧ TooDeepOnlyVerbose text

/-
  A run ends as another one does, with some lines in front of
  its diagnostics.
-/
structure AddsLines
    (lines : List String)
    (quiet verbose : Report × Files) : Prop where
  exit_eq : verbose.1.exit = quiet.1.exit
  stdout_eq : verbose.1.stdout = quiet.1.stdout
  files_eq : verbose.2 = quiet.2
  stderr_eq :
    verbose.1.stderr =
      String.join (lines.map (· ++ "\n")) ++ quiet.1.stderr

/-
  What the verbose switch makes of a run, given the lines of
  the notes: the records of its text where there is one and
  the switch is not on already.  The lines are all that is
  added, unless the text is too deep only with the switch:
  then just that is reported behind them.
-/
structure SeenVerbose
    (arguments : List String)
    (input : String)
    (files : Files)
    (lines : List String) : Prop where
  is_line :
    ∀ line ∈ lines,
      "DEBUG:".toList <+: line.toList ∧ '\n' ∉ line.toList
  lines_eq :
    ∀ settings text,
      HandlesQuietly arguments input files settings text →
        lines = (settings.records text).map Record.debugLine
  adds_lines :
    ¬ DeepensWhenVerbose arguments input files →
      AddsLines lines (runCommand arguments input files)
        (runCommand ("-v" :: arguments) input files)
  too_deep :
    DeepensWhenVerbose arguments input files →
      runCommand ("-v" :: arguments) input files =
        ((Report.ofOutcome
            (.error (.rejected .tooDeep))).withNotes
          (String.join (lines.map (· ++ "\n"))), files)

/- Nothing is noted where the switch makes no difference. -/
theorem seenVerbose_nil
    (hSame :
      runCommand ("-v" :: arguments) input files =
        runCommand arguments input files)
    (hNone :
      ∀ settings text,
        ¬ HandlesQuietly arguments input files settings
          text) :
    SeenVerbose arguments input files [] where
  is_line := List.forall_mem_nil _
  lines_eq settings text hText :=
    absurd hText (hNone settings text)
  adds_lines _ := by
    rw [hSame]
    exact ⟨rfl, rfl, rfl, String.empty_append.symm⟩
  too_deep := by
    rintro ⟨settings, text, hText, _⟩
    exact absurd hText (hNone settings text)

/- The records of a text are noted where the run has one. -/
theorem HandlesQuietly.seenVerbose
    (h : HandlesQuietly arguments input files settings text) :
    SeenVerbose arguments input files
      ((settings.records text).map Record.debugLine) where
  is_line := settings.records_lines text
  lines_eq other otherText hOther := by
    rcases h.unique hOther with ⟨rfl, rfl⟩
    rfl
  adds_lines hFits := by
    have hScan := Settings.scan_verbose arguments
    rw [h.scan_eq] at hScan
    rw [runCommand_of_subject h.scan_eq h.subject_eq,
      runCommand_of_subject hScan h.subject_eq,
      Settings.conclusion_verbose h.verbose_eq
        fun hTree hDeep =>
          hFits ⟨settings, text, h, hTree, hDeep⟩]
    exact ⟨rfl, rfl, rfl, rfl⟩
  too_deep := by
    rintro ⟨other, otherText, hOther, hTree, hDeep⟩
    rcases h.unique hOther with ⟨rfl, rfl⟩
    have hScan := Settings.scan_verbose arguments
    rw [h.scan_eq] at hScan
    rw [runCommand_of_subject hScan h.subject_eq]
    exact Settings.conclusion_too_deep hTree hDeep.1 files

end Runs

/-
  With the verbose switch in front of the arguments a run ends
  with the same status, prints the same and leaves the same
  files, and its diagnostics are some lines in front of the
  same diagnostics, unless its text is too deep only with the
  switch.  Where the switch is not on already and a text is
  handled, the lines are the records of the text, in order.
-/
theorem runCommand_verbose
    (arguments : List String)
    (input : String)
    (files : Files) :
    ∃ lines, SeenVerbose arguments input files lines := by
  have hVerbose := Settings.scan_verbose arguments
  cases hScan : Settings.scan arguments with
  | error fault =>
      rw [hScan] at hVerbose
      refine ⟨[], seenVerbose_nil ?_ ?_⟩
      · rw [runCommand_of_misuse hVerbose,
          runCommand_of_misuse hScan]
      · intro settings text hText
        cases hScan.symm.trans hText.scan_eq
  | ok settings =>
      rw [hScan] at hVerbose
      cases hSubject : settings.subject input files with
      | error report =>
          have hOther :
              (settings.turnOn .verbose).subject input files =
                .error report :=
            hSubject
          refine ⟨[], seenVerbose_nil ?_ ?_⟩
          · rw [runCommand_of_settings hVerbose,
              runCommand_of_settings hScan]
            rw [Settings.complete, Settings.complete, hOther,
              hSubject]
          · intro other text hText
            cases hScan.symm.trans hText.scan_eq
            cases hSubject.symm.trans hText.subject_eq
      | ok text =>
          cases hOff : settings.verbose with
          | false =>
              have hText :
                  HandlesQuietly arguments input files
                    settings text :=
                ⟨hScan, hOff, hSubject⟩
              exact ⟨_, hText.seenVerbose⟩
          | true =>
              have hOn : settings.turnOn .verbose = settings := by
                change
                  { settings with verbose := true } = settings
                rw [← hOff]
              refine ⟨[], seenVerbose_nil ?_ ?_⟩
              · change _ = Except.ok (settings.turnOn .verbose)
                  at hVerbose
                rw [hOn] at hVerbose
                rw [runCommand_of_settings hVerbose,
                  runCommand_of_settings hScan]
              · intro other otherText hText
                cases hScan.symm.trans hText.scan_eq
                cases hOff.symm.trans hText.verbose_eq

/-
  A text that is left in the middle leaves its records and
  then its fault, and none of its output.
-/
theorem verbose_before_fault :
    let files := Files.ofList [("out", "1")]
    let verbose :=
      runCommand ["-v", "-o", "out", "1*$"] "" files
    verbose.2 = files ∧
      verbose.1.stderr =
        "DEBUG:sanjutsu.tokenize:token NUMBER '1'\n" ++
        "DEBUG:sanjutsu.tokenize:token MULTIPLY '*'\n" ++
        "error: invalid number literal \"$\"\n" := by
  intro files verbose
  rcases runCommand_verbose ["-o", "out", "1*$"] "" files with
    ⟨lines, hSeen⟩
  have hText :
      HandlesQuietly ["-o", "out", "1*$"] "" files
        { output := "out", arguments := ["1*$"] } "1*$" :=
    ⟨by decide +kernel, rfl, by decide +kernel⟩
  have hRecords :
      lines =
        ["DEBUG:sanjutsu.tokenize:token NUMBER '1'",
          "DEBUG:sanjutsu.tokenize:token MULTIPLY '*'"] := by
    rw [hSeen.lines_eq _ _ hText]
    decide +kernel
  have hFits :
      ¬ DeepensWhenVerbose ["-o", "out", "1*$"] "" files := by
    rintro ⟨settings, text, hOther, _, hDeep, _⟩
    rcases hText.unique hOther with ⟨_, rfl⟩
    revert hDeep
    decide +kernel
  have hAdded := hSeen.adds_lines hFits
  constructor
  · rw [hAdded.files_eq]
    decide +kernel
  · rw [hAdded.stderr_eq, hRecords]
    decide +kernel

/-
  A text that is printed without the switch, and is too deep
  with it, fails only with the switch.
-/
theorem runs_of_too_deep
    {text printed : String}
    {expr : Expr}
    (hParse : parse text = .ok expr)
    (hPrint : expr.print = .ok printed)
    (hDeep :
      parseWithin verboseDepthLimit text = .error .tooDeep)
    (input : String)
    (files : Files) :
    runCommand ["--", text] input files =
        (⟨0, printed ++ "\n", ""⟩, files) ∧
      (runCommand ["-v", "--", text] input files).1.exit = 1 ∧
      (runCommand ["-v", "--", text] input files).1.stdout =
        "" := by
  let settings : Settings := { arguments := [text] }
  have hScan : Settings.scan ["--", text] = .ok settings :=
    rfl
  have hSubject : settings.subject input files = .ok text :=
    rfl
  have hVerbose := Settings.scan_verbose ["--", text]
  rw [hScan] at hVerbose
  have hOutcome :
      (settings.handle text).outcome = .ok printed := by
    refine (Handling.ofTree_of_ok hParse).trans ?_
    rw [hPrint]
    rfl
  constructor
  · rw [runCommand_of_subject hScan hSubject,
      settings.conclusion_printed files text rfl, hOutcome]
    rfl
  · rw [runCommand_of_subject hVerbose hSubject,
      Settings.conclusion_too_deep rfl hDeep]
    exact ⟨rfl, rfl⟩

/-
  A number may stand in so many groups that it is printed
  without the switch, and is nested too deeply with it.
-/
theorem verbose_run_fails_alone :
    let text := Text.inGroups 324 "(1)"
    let files := Files.ofList []
    runCommand ["--", text] "" files =
        (⟨0, "1\n", ""⟩, files) ∧
      (runCommand ["-v", "--", text] "" files).1.exit = 1 ∧
      (runCommand ["-v", "--", text] "" files).1.stdout =
        "" := by
  intro text files
  rcases exists_phrase_sumOfOnes 0 with
    ⟨one, hOne, _, hSpells⟩
  rcases exists_parenthesized hSpells.streamOf_eq with
    ⟨phrase, hText, hTree, hDepth⟩
  rw [show "(" ++ Text.sumOfOnes 0 ++ ")" = "(1)" by
    decide] at hText
  have hOneDepth := one.two_le_depth
  have hParse : parse text = .ok (.sumOfOnes 0) := by
    rw [parse, show depthLimit = 12 + 3 * 324 from rfl,
      parseWithin_inGroups 12 324 hText,
      parseWithin_of_phrase 12 hText, hTree, hDepth, hOne]
    rw [if_pos (by omega)]
  have hDeep :
      parseWithin verboseDepthLimit text =
        .error .tooDeep := by
    rw [show verboseDepthLimit = 5 + 3 * 324 from rfl,
      parseWithin_inGroups 5 324 hText,
      parseWithin_of_phrase 5 hText, hDepth,
      if_neg (by omega)]
  have hPrint := print_sumOfOnes 0
  rw [if_pos (by decide)] at hPrint
  exact runs_of_too_deep hParse hPrint hDeep "" files

end ArithExpr
