import ArithExpr.CommandLine.Options
import ArithExpr.Text.Quoted
import ArithExpr.Text.Terminal

/-
  What the command line says about itself: its help, and the
  diagnostics for its misuse.

  Key definitions include:
    * `usageLine`
    * `helpText`
    * `UsageFault.text`
    * `UsageFault.diagnostic`
    * `unwritable`
-/

namespace ArithExpr

------------------------------------------------------------
-- Help
------------------------------------------------------------

/- The form of a call. -/
def usageLine : String :=
  "Usage: main [OPTIONS] [EXPRESSION]\n"

/- The options, each on a line of its own. -/
def helpText : String :=
  usageLine ++
  "\n" ++
  "Options:\n" ++
  "  -f, --file FILENAME\n" ++
  "  -o, --output FILENAME\n" ++
  "  --tokens               Print the token stream instead.\n" ++
  "  -v, --verbose\n" ++
  "  --help                 Show this message and exit.\n"

/- Where to find the help. -/
def helpHint : String :=
  "Try 'main --help' for help.\n"

------------------------------------------------------------
-- Diagnostics
------------------------------------------------------------

namespace UsageFault

/- What is added for the options that were perhaps meant. -/
def suggestion : List String → String
| [] => ""
| [name] => " Did you mean " ++ name ++ "?"
| names =>
    " (Possible options: " ++
      ", ".intercalate (names.mergeSort fun a b => a ≤ b) ++
      ")"

/- The text of a usage error. -/
def text : UsageFault → String
| .unknownOption name similar =>
    "No such option: " ++ name ++ suggestion similar
| .missingValue name =>
    "Option '" ++ name ++ "' requires an argument."
| .unwantedValue name =>
    "Option '" ++ name ++ "' does not take a value."
| .badInput path fault =>
    "Invalid value for '-f' / '--file': '" ++ path ++ "': " ++
      fault.reason
| .extraArguments [argument] =>
    "Got unexpected extra argument (" ++ argument ++ ")"
| .extraArguments arguments =>
    "Got unexpected extra arguments (" ++
      " ".intercalate arguments ++ ")"

/- Errors about values come without the form of a call. -/
def ShowsUsage : UsageFault → Prop
| .unknownOption _ _ | .badInput _ _ | .extraArguments _ =>
    True
| .missingValue _ | .unwantedValue _ => False

instance (fault : UsageFault) :
    Decidable fault.ShowsUsage := by
  cases fault <;> unfold ShowsUsage <;> infer_instance

end UsageFault

/- An error as it is shown on a terminal. -/
def errorLine (text : String) : String :=
  Text.stripControls ("Error: " ++ text) ++ "\n"

/- All that is shown for a usage error. -/
def UsageFault.diagnostic (fault : UsageFault) : String :=
  if fault.ShowsUsage then
    usageLine ++ helpHint ++ "\n" ++ errorLine fault.text
  else
    errorLine fault.text

/- All that is shown for an output that cannot be opened. -/
def unwritable
    (path : String)
    (fault : FileFault) : String :=
  errorLine
    ("Could not open file " ++ Text.quote path ++ ": " ++
      fault.reason)

end ArithExpr
