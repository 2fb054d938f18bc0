import ArithExpr.Parse

/-
  Runs of single steps on one parser.  A run goes on after an
  error from the state that the error left behind.

  Key definitions include:
    * `Parser.Step`
    * `Parser.Reply`
    * `Parser.perform`
    * `Parser.replay`
    * `Parser.ofText`
-/

namespace ArithExpr

namespace Parser

------------------------------------------------------------
-- Steps
------------------------------------------------------------

/- What can be asked of a parser, or of the lexer it uses. -/
inductive Step where
| advance
| expect (kind : Kind)
| expression (minimum : Int)
| primary
| group
| wholeText
| pull
deriving DecidableEq, Repr

/- What a parser answers when a step does not fail. -/
inductive Reply where
| done
| expr (expr : Expr)
| token (token : Token)
deriving DecidableEq

/- The action that a step asks for, in a given room. -/
def perform (room : Nat) : Step → Parser Reply
| .advance => do
    advance
    pure .done
| .expect kind => do
    expect kind
    pure .done
| .expression minimum => return .expr (← expression room minimum)
| .primary => return .expr (← primary room)
| .group => return .expr (← group room)
| .wholeText => return .expr (← wholeText room)
| .pull => return .token (← pull)

------------------------------------------------------------
-- Runs
------------------------------------------------------------

/-
  Perform steps in order.  Each answer comes with the state
  that the step left behind.
-/
def replay
    (room : Nat)
    (state : State) :
    List Step → List (Except ParseError Reply × State)
| [] => []
| step :: steps =>
    let answer := (perform room step).run state
    answer :: replay room answer.2 steps

/-
  A parser at the start of a text, with its first two tokens
  loaded.
-/
def ofText (text : String) : Except ParseError Unit × State :=
  start.run (State.ofLexer (Lexer.ofText text))

end Parser

end ArithExpr
