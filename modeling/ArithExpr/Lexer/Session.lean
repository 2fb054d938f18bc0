import ArithExpr.Lexer

/-
  Runs of single steps on one lexer.  A run goes on after an
  error from the position that the error left behind.

  Key definitions include:
    * `Lexer.Step`
    * `Lexer.Reply`
    * `Lexer.perform`
    * `Lexer.replay`
-/

namespace ArithExpr

namespace Lexer

------------------------------------------------------------
-- Steps
------------------------------------------------------------

/- What can be asked of a lexer. -/
inductive Step where
| next
| readNumber
| peek
| skipBlanks
| seek (index : Nat)
deriving DecidableEq, Repr

/- What a lexer answers when a step does not fail. -/
inductive Reply where
| token (token : Token)
| character (c? : Option Char)
| done
deriving DecidableEq

/- Perform one step. -/
def perform
    (lexer : Lexer) :
    Step → Except ParseError Reply × Lexer
| .next => (lexer.next.1.map .token, lexer.next.2)
| .readNumber =>
    (lexer.readNumber.1.map .token, lexer.readNumber.2)
| .peek => (.ok (.character lexer.peek?), lexer)
| .skipBlanks => (.ok .done, lexer.skipBlanks)
| .seek index => (.ok .done, lexer.seek index)

------------------------------------------------------------
-- Runs
------------------------------------------------------------

/-
  Perform steps in order.  Each answer comes with the lexer
  that the step left behind.
-/
def replay
    (lexer : Lexer) :
    List Step → List (Except ParseError Reply × Lexer)
| [] => []
| step :: steps =>
    let answer := lexer.perform step
    answer :: answer.2.replay steps

end Lexer

end ArithExpr
