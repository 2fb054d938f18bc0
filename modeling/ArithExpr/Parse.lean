import ArithExpr.Parser.Climb

/-
  Parsing whole texts under a limit on nesting.

  Key definitions include:
    * `Parser.start`
    * `Parser.roomWithin`
    * `parseRun`
    * `parseWithin`
    * `depthLimit`
    * `verboseDepthLimit`
    * `parse`
-/

namespace ArithExpr

------------------------------------------------------------
-- Starting
------------------------------------------------------------

namespace Parser

/- Load the current token and the next one. -/
def start : Parser Unit := do
  advance
  advance

/-
  The room that a limit leaves.  A text is nested too deeply
  when as many calls as the limit would be active at once.
-/
def roomWithin (limit : Nat) : Nat :=
  limit - 1

end Parser

------------------------------------------------------------
-- Whole Texts
------------------------------------------------------------

/-
  Parse a text under a limit on the number of calls that may
  be active at once.  The state that is left behind holds the
  records made on the way.
-/
def parseRun
    (limit : Nat)
    (text : String) :
    Except ParseError Expr × Parser.State :=
  (do
    Parser.start
    Parser.wholeText (Parser.roomWithin limit)).run
      (Parser.State.ofLexer (Lexer.ofText text))

/- The outcome of parsing a text under a limit. -/
def parseWithin
    (limit : Nat)
    (text : String) : Except ParseError Expr :=
  (parseRun limit text).1

/-
  The number of active calls at which a text counts as nested
  too deeply.  A group takes three calls, a sign two, and the
  right operand of an operator one.

  What is limited in fact is the stack of the runtime.  It also
  holds the program or the command that asks for the parsing,
  and the calls that the lexer makes for a token, so that the
  number of calls that are left for the parser differs a little
  from one surrounding to the next.  One number stands for it
  here, and the limits on printing and on comparing expressions
  are of the same kind.
-/
def depthLimit : Nat :=
  984

/-
  The same number where records are written out at once.  The
  writing goes deeper into the stack than the lexer does, so
  that a few calls less are left for the parser.
-/
def verboseDepthLimit : Nat :=
  977

/- Parse a text. -/
def parse (text : String) : Except ParseError Expr :=
  parseWithin depthLimit text

end ArithExpr
