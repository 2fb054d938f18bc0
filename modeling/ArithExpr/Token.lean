import ArithExpr.Binary64
import ArithExpr.Token.Kind

/-
  Tokens: a kind together with the text that was matched.  A
  number token always holds a numeral; any text may stand in
  a token of another kind.

  Key definitions include:
    * `Token`
    * `Token.ofParts?`
    * `Token.endOfText`
    * `Token.ofOperator?`
    * `Token.value`
-/

namespace ArithExpr

------------------------------------------------------------
-- Tokens
------------------------------------------------------------

/- A kind and a text, which is a numeral in a number token. -/
structure Token where
  kind : Kind
  literal : String
  isNumeral :
    kind = .number → IsNumeral literal.toList
deriving DecidableEq

namespace Token

/- Two tokens are equal when their kinds and texts are. -/
@[ext] theorem ext
    {left right : Token}
    (hKind : left.kind = right.kind)
    (hLiteral : left.literal = right.literal) :
    left = right := by
  cases left
  cases right
  cases hKind
  cases hLiteral
  rfl

/-
  The token with a given kind and text, unless it would be a
  number token whose text is no numeral.
-/
def ofParts?
    (kind : Kind)
    (literal : String) : Option Token :=
  if h : kind = .number → IsNumeral literal.toList then
    some ⟨kind, literal, h⟩
  else
    none

/- The token that stands for the end of the text. -/
def endOfText : Token :=
  ⟨.endOfText, "", fun h => by cases h⟩

/- The token of an operator character. -/
def ofOperator? (c : Char) : Option Token :=
  match h : Kind.ofOperator? c with
  | some kind =>
      some ⟨kind, String.singleton c, fun hKind =>
        absurd hKind (Kind.ofOperator?_ne_number h)⟩
  | none => none

/- The token of an operator character is not the end. -/
theorem ofOperator?_kind_ne_endOfText
    {c : Char}
    {token : Token}
    (h : ofOperator? c = some token) :
    token.kind ≠ .endOfText := by
  unfold ofOperator? at h
  split at h
  · next hKind =>
      cases h
      exact Kind.ofOperator?_ne_endOfText hKind
  · cases h

/- The value of a number token. -/
def value
    (token : Token)
    (h : token.kind = .number) : Binary64 :=
  ((Numeral.read? token.literal.toList).get
    (token.isNumeral h)).toBinary64

end Token

end ArithExpr
