import ArithExpr.Token

/-
  The reasons for which a text is not accepted, and their
  wording.

  Key definitions include:
    * `ParseError`
    * `ParseError.message`
    * `ParseError.kind?`
    * `ParseError.literal`
    * `ParseError.expected?`
    * `Token.checked`
-/

namespace ArithExpr

------------------------------------------------------------
-- Parse Errors
------------------------------------------------------------

/-
  A text is rejected because a number is misspelt, because a
  token stands where something else has to stand, because a
  parenthesis is never closed, or because it is nested too
  deeply.
-/
inductive ParseError where
| invalidNumber (literal : String) (kind : Kind)
| unexpectedToken (expected : String) (found : Token)
| unmatchedParenthesis (found : Token)
| tooDeep
deriving DecidableEq

namespace ParseError

/- How a token is named in a message. -/
private def describe (token : Token) : String :=
  token.kind.name ++ " \"" ++ token.literal ++ "\""

/- The text of an error, without a line end. -/
def message : ParseError → String
| .invalidNumber literal _ =>
    "invalid number literal \"" ++ literal ++ "\""
| .unexpectedToken expected found =>
    "expected " ++ expected ++ " but got " ++ describe found
| .unmatchedParenthesis found =>
    "expected RPAREN to close \"(\" but got " ++
      describe found
| .tooDeep => "expression is nested too deeply"

/- The kind of the token at fault, if a token is at fault. -/
def kind? : ParseError → Option Kind
| .invalidNumber _ kind => some kind
| .unexpectedToken _ found => some found.kind
| .unmatchedParenthesis found => some found.kind
| .tooDeep => none

/- The text at fault, empty when no token is at fault. -/
def literal : ParseError → String
| .invalidNumber literal _ => literal
| .unexpectedToken _ found => found.literal
| .unmatchedParenthesis found => found.literal
| .tooDeep => ""

/- What had to stand in place of an unexpected token. -/
def expected? : ParseError → Option String
| .unexpectedToken expected _ => some expected
| .invalidNumber _ _ | .unmatchedParenthesis _ | .tooDeep =>
    none

end ParseError

------------------------------------------------------------
-- Checked Tokens
------------------------------------------------------------

/-
  The token with a given kind and text.  A number token whose
  text is no numeral is an error that quotes the text.
-/
def Token.checked
    (kind : Kind)
    (literal : String) : Except ParseError Token :=
  match Token.ofParts? kind literal with
  | some token => .ok token
  | none => .error (.invalidNumber literal kind)

/- A checked token has the kind that was asked for. -/
theorem Token.kind_of_checked
    {kind : Kind}
    {literal : String}
    {token : Token}
    (h : Token.checked kind literal = .ok token) :
    token.kind = kind := by
  unfold Token.checked Token.ofParts? at h
  split at h
  · next hParts =>
      split at hParts
      · cases hParts
        cases h
        rfl
      · cases hParts
  · cases h

end ArithExpr
