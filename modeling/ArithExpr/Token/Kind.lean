/-
  Kinds of tokens, their numbers, names and precedences, and
  the characters that are tokens by themselves.

  Key definitions include:
    * `Kind`
    * `Kind.code`
    * `Kind.ofCode?`
    * `Kind.name`
    * `Kind.precedence`
    * `Kind.precedenceOfCode`
    * `Kind.IsBinary`
    * `Kind.IsSign`
    * `Kind.operators`
    * `Kind.ofOperator?`
-/

namespace ArithExpr

------------------------------------------------------------
-- Kinds
------------------------------------------------------------

/- The kinds of tokens, in the order of their numbers. -/
inductive Kind where
| endOfText
| plus
| minus
| modulo
| divide
| multiply
| leftParen
| rightParen
| number
deriving DecidableEq, Repr

namespace Kind

/- All kinds, in the order of their numbers. -/
def all : List Kind :=
  [.endOfText, .plus, .minus, .modulo, .divide, .multiply,
    .leftParen, .rightParen, .number]

/- The number of a kind. -/
def code : Kind → Nat
| .endOfText => 0
| .plus => 1
| .minus => 2
| .modulo => 3
| .divide => 4
| .multiply => 5
| .leftParen => 6
| .rightParen => 7
| .number => 8

/- The kind with a given number, if there is one. -/
def ofCode? (number : Int) : Option Kind :=
  all.find? fun kind => (kind.code : Int) = number

/- The name of a kind in messages and token listings. -/
def name : Kind → String
| .endOfText => "END"
| .plus => "PLUS"
| .minus => "MINUS"
| .modulo => "MODULO"
| .divide => "DIVIDE"
| .multiply => "MULTIPLY"
| .leftParen => "LPAREN"
| .rightParen => "RPAREN"
| .number => "NUMBER"

/- The kind with a given name, if there is one. -/
def ofName? (name : String) : Option Kind :=
  all.find? fun kind => kind.name = name

------------------------------------------------------------
-- Precedence
------------------------------------------------------------

/-
  How tightly a kind binds as an operator after an operand.
  The end of the text and both parentheses never bind.  A
  number binds like a sign, so that two adjacent operands are
  noticed where the second one stands.
-/
def precedence : Kind → Int
| .modulo => 9
| .divide => 8
| .multiply => 7
| .endOfText | .leftParen | .rightParen => -1
| .plus | .minus | .number => 1

/- The precedence of a number that need not belong to a kind. -/
def precedenceOfCode (number : Int) : Int :=
  match ofCode? number with
  | some kind => kind.precedence
  | none => 1

/-
  The precedence at which the operand of a sign is read.  No
  binary operator binds as tightly.
-/
def signPrecedence : Int :=
  10

/- Binary operators stand between two operands. -/
def IsBinary : Kind → Prop
| .plus | .minus | .modulo | .divide | .multiply => True
| .endOfText | .leftParen | .rightParen | .number => False

instance (kind : Kind) : Decidable kind.IsBinary := by
  cases kind <;> unfold IsBinary <;> infer_instance

/- Signs may stand before an operand. -/
def IsSign : Kind → Prop
| .plus | .minus => True
| .endOfText | .modulo | .divide | .multiply
| .leftParen | .rightParen | .number => False

instance (kind : Kind) : Decidable kind.IsSign := by
  cases kind <;> unfold IsSign <;> infer_instance

/- A binary operator is of no other kind. -/
theorem IsBinary.ne
    {kind other : Kind}
    (h : kind.IsBinary)
    (hOther : ¬ other.IsBinary) :
    kind ≠ other := by
  rintro rfl
  exact hOther h

/- A sign is of no other kind. -/
theorem IsSign.ne
    {kind other : Kind}
    (h : kind.IsSign)
    (hOther : ¬ other.IsSign) :
    kind ≠ other := by
  rintro rfl
  exact hOther h

------------------------------------------------------------
-- Operator Characters
------------------------------------------------------------

/-
  The characters that are tokens by themselves, in the order
  of their code points.
-/
def operators : List (Char × Kind) :=
  [('%', .modulo), ('(', .leftParen), (')', .rightParen),
    ('*', .multiply), ('+', .plus), ('-', .minus),
    ('/', .divide)]

/- The kind of an operator character. -/
def ofOperator? (c : Char) : Option Kind :=
  operators.lookup c

/- An operator character is never a number. -/
theorem ofOperator?_ne_number
    {c : Char}
    {kind : Kind}
    (h : ofOperator? c = some kind) :
    kind ≠ .number := by
  rintro rfl
  simp only [ofOperator?, operators, List.lookup_cons,
    List.lookup_nil] at h
  repeat' split at h
  all_goals cases h

/- An operator character is never the end of the text. -/
theorem ofOperator?_ne_endOfText
    {c : Char}
    {kind : Kind}
    (h : ofOperator? c = some kind) :
    kind ≠ .endOfText := by
  rintro rfl
  simp only [ofOperator?, operators, List.lookup_cons,
    List.lookup_nil] at h
  repeat' split at h
  all_goals cases h

end Kind

end ArithExpr
