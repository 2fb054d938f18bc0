import ArithExpr.Proofs.CommandLine.Run
import ArithExpr.Proofs.CommandLine.Files
import ArithExpr.Proofs.Token.Listing

/-
  A dump of tokens loses nothing.

  A run that lists tokens puts out one line for each token of
  its text, whether the lines are printed or left in a file.
  The lines are read back as the tokens, so that dumps tell
  texts apart just as far as their tokens do.

  Key definitions include:
    * `Settings.PutsOut`
    * `Dumps`

  Main declarations:
    * `Settings.conclusion_putsOut`
    * `Dumps.output_eq`
    * `runCommand_dump`
-/

------------------------------------------------------------
-- Output of a Run
------------------------------------------------------------

namespace ArithExpr

namespace Settings

/-
  A run succeeds and puts out a text: it prints the text, or
  the text is not lost, and read where the settings say that
  it goes.
-/
def PutsOut
    (settings : Settings)
    (files : Files)
    (run : Report × Files)
    (output : String) : Prop :=
  run.1.exit = 0 ∧
    if settings.output = standardStream then
      run.1.stdout = output
    else
      ¬ files.Loses settings.output ∧
        run.2.read settings.output = .ok output

/- A run puts out one text at most. -/
theorem PutsOut.unique
    {settings : Settings}
    {files : Files}
    {run : Report × Files}
    {output other : String}
    (h : settings.PutsOut files run output)
    (hOther : settings.PutsOut files run other) :
    output = other := by
  unfold PutsOut at h hOther
  split at h
  · next hStream =>
      rw [if_pos hStream] at hOther
      exact h.2.symm.trans hOther.2
  · next hFile =>
      rw [if_neg hFile] at hOther
      exact Except.ok.inj (h.2.2.symm.trans hOther.2.2)

/-
  A result is put out with a line feed behind it, unless its
  file cannot be written or is the null device.
-/
theorem conclusion_putsOut
    {settings : Settings}
    {text result : String}
    (h : (settings.handle text).outcome = .ok result)
    (files : Files) :
    settings.PutsOut files (settings.conclusion files text)
        (result ++ "\n") ∨
      settings.output ≠ standardStream ∧
        ((settings.conclusion files text).1.exit ≠ 0 ∨
          files.Loses settings.output) := by
  rcases settings.deliver_cases files
      (settings.handle text).outcome with
    ⟨hExit, _⟩ |
    ⟨other, hOutcome, ⟨hStream, hDelivered⟩ |
      ⟨hFile, location, hPlace, hDelivered⟩⟩
  · refine .inr ⟨?_, .inl hExit⟩
    intro hStream
    unfold deliver at hExit
    rw [h] at hExit
    dsimp only at hExit
    rw [if_pos hStream] at hExit
    exact hExit rfl
  · rw [h] at hOutcome
    cases hOutcome
    refine .inl ?_
    rw [PutsOut, conclusion, hDelivered, if_pos hStream]
    exact ⟨rfl, rfl⟩
  · rw [h] at hOutcome
    cases hOutcome
    by_cases hLoses : files.Loses settings.output
    · exact .inr ⟨hFile, .inr hLoses⟩
    refine .inl ?_
    rw [PutsOut, conclusion, hDelivered, if_neg hFile]
    have hWritten := Files.written_store hPlace (result ++ "\n")
    exact ⟨rfl, hLoses, hWritten.read_eq hLoses⟩

end Settings

end ArithExpr

------------------------------------------------------------
-- Dumps
------------------------------------------------------------

namespace ArithExpr

/-
  Some arguments ask for the tokens of a text, with given
  settings, a given input and given files.
-/
structure AsksForTokens
    (arguments : List String)
    (input : String)
    (files : Files)
    (settings : Settings)
    (text : String) : Prop where
  scan_eq : Settings.scan arguments = .ok settings
  tokens_eq : settings.tokens = true
  subject_eq : settings.subject input files = .ok text

/- The tokens of every text can be asked for. -/
theorem asksForTokens_argument
    (text input : String)
    (files : Files) :
    AsksForTokens ["--tokens", "--", text] input files
      { tokens := true, arguments := [text] } text where
  scan_eq := rfl
  tokens_eq := rfl
  subject_eq := rfl

section Runs

variable {arguments : List String}
variable {input text output : String}
variable {files : Files}
variable {settings : Settings}
variable {tokens : List Token}

/-
  Where tokens are asked for they are put out as a listing,
  unless the listing is for a file that cannot be written or
  is the null device.
-/
theorem AsksForTokens.putsOut
    (h : AsksForTokens arguments input files settings text)
    (hTokens : tokenize text = .ok tokens) :
    settings.PutsOut files
        (runCommand arguments input files)
        (Token.listing tokens ++ "\n") ∨
      settings.output ≠ standardStream ∧
        ((runCommand arguments input files).1.exit ≠ 0 ∨
          files.Loses settings.output) := by
  have hOutcome :
      (settings.handle text).outcome =
        .ok (Token.listing tokens) := by
    rw [Settings.handle, if_pos h.tokens_eq]
    exact Handling.ofTokens_of_ok hTokens
  rw [runCommand_of_subject h.scan_eq h.subject_eq]
  exact Settings.conclusion_putsOut hOutcome files

/- A run succeeds, and puts out a text when asked for tokens. -/
def Dumps
    (arguments : List String)
    (input : String)
    (files : Files)
    (text output : String) : Prop :=
  ∃ settings,
    AsksForTokens arguments input files settings text ∧
      settings.PutsOut files
        (runCommand arguments input files) output

/- Tokens that are asked for are dumped where they print. -/
theorem AsksForTokens.dumps
    (h : AsksForTokens arguments input files settings text)
    (hTokens : tokenize text = .ok tokens)
    (hStream : settings.output = standardStream) :
    Dumps arguments input files text
      (runCommand arguments input files).1.stdout := by
  rcases h.putsOut hTokens with hOutput | ⟨hFile, _⟩
  · refine ⟨settings, h, hOutput.1, ?_⟩
    rw [if_pos hStream]
  · exact absurd hStream hFile

/- What is put out is the listing of the tokens. -/
theorem Dumps.output_eq
    (h : Dumps arguments input files text output)
    (hTokens : tokenize text = .ok tokens) :
    output = Token.listing tokens ++ "\n" := by
  rcases h with ⟨settings, hAsks, hOutput⟩
  rcases hAsks.putsOut hTokens with
    hListing | ⟨hFile, hExit | hLoses⟩
  · exact hOutput.unique hListing
  · exact absurd hOutput.1 hExit
  · have hKept := hOutput.2
    rw [if_neg hFile] at hKept
    exact absurd hLoses hKept.1

end Runs

------------------------------------------------------------
-- Lossless Dumps
------------------------------------------------------------

/-
  The tokens of a text are dumped by every run that is asked
  for them and does not have to write a file, and so where the
  text is the argument.  A dump, cut at its line feeds, is one
  line for each token with the end of the text last, and
  nothing after that line.  The lines are read back as the
  tokens; that of a token before the end is its name, one
  space and its whole text, which holds no line feed.  Two
  dumps are the same just when the tokens are.
-/
theorem runCommand_dump
    {text : String}
    {tokens : List Token}
    (h : tokenize text = .ok tokens) :
    (∀ input files,
      let arguments := ["--tokens", "--", text]
      Dumps arguments input files text
        (runCommand arguments input files).1.stdout) ∧
    (∀ arguments input files settings,
      AsksForTokens arguments input files settings text →
      settings.output = standardStream →
      Dumps arguments input files text
        (runCommand arguments input files).1.stdout) ∧
    ∀ arguments input files output,
      Dumps arguments input files text output →
      Text.cutLines output = tokens.map Token.line ++ [""] ∧
      (tokens.map Token.line).map Token.ofLine? =
        tokens.map some ∧
      (∃ others,
        tokens = others ++ [.endOfText] ∧
        ∀ token ∈ others,
          token.line =
              token.kind.name ++ " " ++ token.literal ∧
            '\n' ∉ token.literal.toList) ∧
      ∀ otherArguments otherInput otherFiles otherText
          otherTokens otherOutput,
        tokenize otherText = .ok otherTokens →
        Dumps otherArguments otherInput otherFiles otherText
          otherOutput →
        (output = otherOutput ↔ tokens = otherTokens) := by
  refine ⟨?_, ?_, ?_⟩
  · intro input files arguments
    exact
      (asksForTokens_argument text input files).dumps h rfl
  · intro arguments input files settings hAsks hStream
    exact hAsks.dumps h hStream
  intro arguments input files output hDumps
  have hOutput := hDumps.output_eq h
  have hListed := Token.areListed_of_tokenize h
  refine ⟨?_, hListed.map_ofLine?_line, ?_, ?_⟩
  · rw [hOutput]
    exact hListed.cutLines_listing
  · rcases Token.exists_lexemes_of_tokenize h with
      ⟨others, hEnd, hLexemes⟩
    refine ⟨others, hEnd, ?_⟩
    intro token hMem
    refine ⟨(hLexemes token hMem).line_eq, ?_⟩
    intro hFeed
    exact
      (hLexemes token hMem).not_isWhite _ hFeed (by decide)
  · intro otherArguments otherInput otherFiles otherText
      otherTokens otherOutput hOther hOtherDumps
    rw [hOutput, hOtherDumps.output_eq hOther]
    constructor
    · exact
        hListed.eq_of_listing_eq
          (Token.areListed_of_tokenize hOther)
    · rintro rfl
      rfl

/-
  A dump that is printed and a dump that is left in a file are
  the same where only blanks tell the texts apart.
-/
theorem dump_despite_blanks :
    let arguments := ["--tokens", "--", "1 +.5"]
    let others := ["-o", "out", "--tokens"]
    let run := runCommand arguments "" (.ofList [])
    let other := runCommand others "1+ .5\n" (.ofList [])
    Text.cutLines run.1.stdout =
        ["NUMBER 1", "PLUS +", "NUMBER .5", "END", ""] ∧
      other.2.read "out" = .ok run.1.stdout := by
  intro arguments others run other
  let tokens : List Token :=
    [⟨.number, "1", fun _ => rfl⟩,
      ⟨.plus, "+", by decide⟩,
      ⟨.number, ".5", fun _ => rfl⟩, .endOfText]
  have hTokens : tokenize "1 +.5" = .ok tokens := by
    decide +kernel
  have hOther : tokenize "1+ .5\n" = .ok tokens := by
    decide +kernel
  rcases runCommand_dump hTokens with ⟨hPrints, _, hDump⟩
  rcases hDump _ _ _ _ (hPrints "" (.ofList [])) with
    ⟨hLines, _, _, hSame⟩
  have hAsks :
      AsksForTokens others "1+ .5\n" (.ofList [])
        { tokens := true, output := "out" } "1+ .5\n" :=
    ⟨by decide +kernel, rfl, by decide +kernel⟩
  have hExit : other.1.exit = 0 := by decide +kernel
  rcases hAsks.putsOut hOther with
    hOutput | ⟨_, hFails | hLoses⟩
  · have hDumps :=
      hSame _ _ _ _ _ _ hOther ⟨_, hAsks, hOutput⟩
    refine ⟨hLines, ?_⟩
    rw [hDumps.mpr rfl]
    exact hOutput.2.2
  · exact absurd hExit hFails
  · have hPlace :
        (Files.ofList []).outputPlace "out" =
          .ok (.inside ["out"]) := by
      decide +kernel
    exact
      absurd (Except.ok.inj (hPlace.symm.trans hLoses))
        (by decide)

end ArithExpr
