import ArithExpr.Text.Blank
import ArithExpr.Token

/-
  Tokens as lines of a listing.

  Key definitions include:
    * `Token.line`
    * `Token.listing`
-/

namespace ArithExpr

namespace Token

/- The kind of a token and its text, without blanks after it. -/
def line (token : Token) : String :=
  Text.trimRight (token.kind.name ++ " " ++ token.literal)

/- One line for each token, with line feeds between them. -/
def listing (tokens : List Token) : String :=
  "\n".intercalate (tokens.map line)

end Token

end ArithExpr
