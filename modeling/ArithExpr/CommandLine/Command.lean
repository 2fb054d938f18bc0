import ArithExpr.CommandLine.Dialogue
import ArithExpr.CommandLine.Usage
import ArithExpr.Expr.Printer
import ArithExpr.Parse
import ArithExpr.Text.Newline
import ArithExpr.Token.Listing

/-
  The command: it takes an expression from its argument, from
  a file or from the standard input, and prints the expression
  fully parenthesized, or its tokens.

  Key definitions include:
    * `Failure`
    * `Handling`
    * `Handling.ofTokens`
    * `Handling.ofTree`
    * `Settings.conclude`
    * `Settings.dialogue`
    * `command`
    * `runCommand`
-/

namespace ArithExpr

------------------------------------------------------------
-- Handling a Text
------------------------------------------------------------

/-
  Why nothing is printed for a text: the text is rejected, or
  the printer fails on the tree of the text.
-/
inductive Failure where
| rejected (fault : ParseError)
| unprinted (fault : PrintFault)
deriving DecidableEq

/- What a text leads to, and the records made on the way. -/
structure Handling where
  outcome : Except Failure String
  records : List Record

namespace Handling

/- List the tokens of a text. -/
def ofTokens (expression : String) : Handling where
  outcome :=
    match tokenize expression with
    | .ok tokens => .ok (Token.listing tokens)
    | .error fault => .error (.rejected fault)
  records :=
    (Lexer.ofText expression).scan.1.map Record.token

/- Print the tree of a text, which is parsed under a limit. -/
def ofTree
    (limit : Nat)
    (expression : String) : Handling where
  outcome :=
    match (parseRun limit expression).1 with
    | .ok expr => expr.print.mapError .unprinted
    | .error fault => .error (.rejected fault)
  records := (parseRun limit expression).2.log.toList

/- Records as lines of the diagnostic stream. -/
def debugLines (handling : Handling) : String :=
  String.join
    (handling.records.map fun record =>
      record.debugLine ++ "\n")

end Handling

------------------------------------------------------------
-- The Command
------------------------------------------------------------

/- End with a usage error. -/
def misuse (fault : UsageFault) : Dialogue :=
  .finish ⟨2, "", fault.diagnostic⟩

namespace Settings

/- The limit on nesting, which depends on the verbose switch. -/
def nestingLimit (settings : Settings) : Nat :=
  if settings.verbose then
    verboseDepthLimit
  else
    depthLimit

/- What is done with a text, as the settings say. -/
def handle
    (settings : Settings)
    (expression : String) : Handling :=
  if settings.tokens then
    .ofTokens expression
  else
    .ofTree settings.nestingLimit expression

/-
  Handle a text and write the result.  The output is opened
  only now, so that a faulty text leaves it alone.  Only a text
  that is rejected is reported as an error: a failure of the
  printer ends the run where it is, with nothing said but what
  the runtime says of its own.
-/
def conclude
    (settings : Settings)
    (expression : String) : Dialogue :=
  let handling := settings.handle expression
  let notes :=
    if settings.verbose then handling.debugLines else ""
  match handling.outcome with
  | .error (.rejected fault) =>
      .finish
        ⟨1, "", notes ++ "error: " ++ fault.message ++ "\n"⟩
  | .error (.unprinted _) => .finish ⟨1, "", notes⟩
  | .ok result =>
      if settings.output = standardStream then
        .finish ⟨0, result ++ "\n", notes⟩
      else
        .writeFile settings.output (result ++ "\n") fun
        | .ok () => .finish ⟨0, "", notes⟩
        | .error fault =>
            .finish
              ⟨1, "", notes ++
                unwritable settings.output fault⟩

/-
  Find the text to handle.  The argument comes first; without
  one it is the text of the file if there is one, and else the
  standard input, either with its line ends unified.
-/
def choose
    (settings : Settings)
    (fileText? : Option String) : Dialogue :=
  match settings.arguments with
  | [expression] => settings.conclude expression
  | _ :: extra => misuse (.extraArguments extra)
  | [] =>
      match fileText? with
      | some text =>
          settings.conclude (Text.unifyNewlines text)
      | none =>
          .readInput fun input =>
            settings.conclude (Text.unifyNewlines input)

/-
  The help comes before all else.  A file is opened even when
  its text is not needed.
-/
def dialogue (settings : Settings) : Dialogue :=
  if settings.help then
    .finish ⟨0, helpText, ""⟩
  else if settings.file = standardStream then
    settings.choose none
  else
    .readFile settings.file fun
    | .ok text => settings.choose (some text)
    | .error fault => misuse (.badInput settings.file fault)

end Settings

/- What a list of arguments leads to. -/
def command (arguments : List String) : Dialogue :=
  match Settings.scan arguments with
  | .ok settings => settings.dialogue
  | .error fault => misuse fault

/- The command among given files, with a standard input. -/
def runCommand
    (arguments : List String)
    (input : String)
    (files : Files) : Report × Files :=
  (command arguments).run input files

end ArithExpr
