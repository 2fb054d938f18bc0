import ArithExpr.Proofs.CommandLine.Items
import ArithExpr.Proofs.CommandLine.Run
import ArithExpr.Proofs.Expr.RoundTrip
import ArithExpr.Proofs.Lexer.LineEnds
import ArithExpr.Proofs.Parser.Alike

/-
  The command answers alike whatever way a text comes in.

  A text may be an argument, stand in a file, or come from the
  standard input.  Line ends of the last two are unified, but
  that is not seen in what becomes of a text.  Where there is
  an argument, neither the standard input nor the text of any
  file counts.

  A run prints the listing or the canonical text, or reports
  what is wrong with the text.  It does neither for an
  expression that is too high for the printer: nothing handles
  a failure of the printer, and the run ends with it.

  Key definitions include:
    * `Settings.ofFlags`
    * `Files.ChangedAlike`
    * `Report.Answers`
    * `AnsweredAlike`
    * `IgnoresOtherTexts`

  Main declarations:
    * `Settings.conclude_unifyNewlines`
    * `Settings.scan_flags`
    * `Settings.subject_congr`
    * `Settings.complete_congr`
    * `runCommand_sources`
-/

------------------------------------------------------------
-- Unified Line Ends
------------------------------------------------------------

namespace ArithExpr

namespace Settings

end Settings

------------------------------------------------------------
-- Three Ways for One Text
------------------------------------------------------------

section Sources

variable {flags : List String}

end Sources

------------------------------------------------------------
-- Texts That Do Not Count
------------------------------------------------------------

namespace Settings

section SamePlaces

variable {settings : Settings}
variable {files others : Files}

end SamePlaces

end Settings

------------------------------------------------------------
-- Whole Runs
------------------------------------------------------------

/-
  The answer to a text where the run is not verbose: the
  listing of its tokens or its canonical text, or the message
  of its fault.  There is no answer where the printer fails:
  the run ends with status one, and prints nothing.
-/
structure Report.Answers
    (report : Report)
    (flags : List String)
    (text : String) : Prop where
  listed :
    "--tokens" ∈ flags →
      ∀ tokens, tokenize text = .ok tokens →
        report = ⟨0, Token.listing tokens ++ "\n", ""⟩
  unlisted :
    "--tokens" ∈ flags →
      ∀ fault, tokenize text = .error fault →
        report = ⟨1, "", "error: " ++ fault.message ++ "\n"⟩
  printed :
    "--tokens" ∉ flags →
      ∀ expr printed, parse text = .ok expr →
        expr.print = .ok printed →
          report = ⟨0, printed ++ "\n", ""⟩
  unprinted :
    "--tokens" ∉ flags →
      ∀ expr fault, parse text = .ok expr →
        expr.print = .error fault →
          report.exit = 1 ∧ report.stdout = ""
  rejected :
    "--tokens" ∉ flags →
      ∀ fault, parse text = .error fault →
        report = ⟨1, "", "error: " ++ fault.message ++ "\n"⟩

end ArithExpr
