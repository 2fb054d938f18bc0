import ArithExpr.Expr

/-
  The fully parenthesized text of an expression.

  Key definitions include:
    * `PrintFault`
    * `Expr.printWithin`
    * `printLimit`
    * `Expr.print`
-/

namespace ArithExpr

/-
  Why an expression is not printed: a node of it is unknown,
  or the stack is exhausted.
-/
inductive PrintFault where
| unknownNode
| stackExhausted
deriving DecidableEq, Repr

/-
  Numbers are printed as they were read.  Every sign and every
  operator gets parentheses around itself and its operands; an
  operator stands between spaces and a sign does not.  There
  is one active call for each node on the path down from the
  top, and no text when the calls need more than the given
  room, or come to a node that is unknown.
-/
def Expr.printWithin :
    Nat → Expr → Except PrintFault String
| 0, _ => .error .stackExhausted
| _ + 1, .number token _ => .ok token.literal
| room + 1, .signed _ operator operand => do
    let inner ← printWithin room operand
    return "(" ++ operator ++ inner ++ ")"
| room + 1, .binary _ operator left right => do
    let before ← printWithin room left
    let behind ← printWithin room right
    return "(" ++ before ++ " " ++ operator ++ " " ++
      behind ++ ")"
| _ + 1, .unknown => .error .unknownNode

/-
  The number of active calls at which the stack is exhausted
  while an expression is printed.
-/
def printLimit : Nat :=
  991

/- The text of an expression, if there is one. -/
def Expr.print (expr : Expr) : Except PrintFault String :=
  expr.printWithin (printLimit - 1)

end ArithExpr
