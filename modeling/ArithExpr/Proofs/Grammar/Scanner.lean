import ArithExpr.Proofs.Grammar.Phrase
import ArithExpr.Proofs.Lexer.Stream

/-
  A scanner that reads tokens from left to right and keeps only
  what it waits for and the number of open groups.

  The scanner says which token of a stream is the first one
  that cannot stand where it does, and why.  A lexical fault
  behind that token wins when the parser has to look at it
  before it can reject the token.

  Key definitions include:
    * `Mode`
    * `Scanner`
    * `Verdict`
    * `Scanner.verdict`
    * `Scanner.LooksAhead`
    * `Scanner.fault?`
    * `Scanner.faultOf?`
    * `Scanner.run`

  Main declarations:
    * `Scanner.fault?_of_goOn`
    * `Scanner.fault?_of_reject`
    * `Scanner.fault?_of_lexical`
    * `Scanner.run_append`
-/

------------------------------------------------------------
-- Verdicts
------------------------------------------------------------

namespace ArithExpr

/- What a scanner waits for. -/
inductive Mode where
| operand
| operator
deriving DecidableEq, Repr

/- A mode and the number of groups that are open. -/
structure Scanner where
  mode : Mode
  opened : Nat
deriving DecidableEq, Repr

/- What a scanner says about a token. -/
inductive Verdict where
| goOn (next : Scanner)
| accept
| reject (fault : ParseError)
deriving DecidableEq

namespace Scanner

/- A scanner before any token. -/
def start : Scanner :=
  ⟨.operand, 0⟩

/-
  Where an operand is missing, a number ends the wait, a sign
  or an opening parenthesis prolongs it, and nothing else may
  stand.
-/
def operandVerdict
    (opened : Nat)
    (token : Token) : Verdict :=
  match token.kind with
  | .number => .goOn ⟨.operator, opened⟩
  | .plus | .minus => .goOn ⟨.operand, opened⟩
  | .leftParen => .goOn ⟨.operand, opened + 1⟩
  | .endOfText =>
      if 0 < opened then
        .reject (.unmatchedParenthesis token)
      else
        .reject (.unexpectedToken "an expression" token)
  | .modulo | .divide | .multiply | .rightParen =>
      .reject (.unexpectedToken "an expression" token)

/-
  Behind an operand, a binary operator asks for another one, a
  closing parenthesis closes a group, and the end is accepted
  outside groups.
-/
def operatorVerdict
    (opened : Nat)
    (token : Token) : Verdict :=
  match token.kind with
  | .plus | .minus | .modulo | .divide | .multiply =>
      .goOn ⟨.operand, opened⟩
  | .number => .reject (.unexpectedToken "operator" token)
  | .rightParen =>
      if 0 < opened then
        .goOn ⟨.operator, opened - 1⟩
      else
        .reject (.unexpectedToken "END" token)
  | .leftParen =>
      if 0 < opened then
        .reject (.unexpectedToken "RPAREN" token)
      else
        .reject (.unexpectedToken "END" token)
  | .endOfText =>
      if 0 < opened then
        .reject (.unmatchedParenthesis token)
      else
        .accept

/- What a scanner says about the next token. -/
def verdict
    (scanner : Scanner)
    (token : Token) : Verdict :=
  match scanner.mode with
  | .operand => operandVerdict scanner.opened token
  | .operator => operatorVerdict scanner.opened token

/-
  A token is rejected only after the one behind it has been
  read where an operand is missing, or where the token is a
  number.
-/
def LooksAhead
    (scanner : Scanner)
    (token : Token) : Prop :=
  scanner.mode = .operand ∨ token.kind = .number

instance
    (scanner : Scanner)
    (token : Token) :
    Decidable (scanner.LooksAhead token) := by
  unfold LooksAhead
  infer_instance

------------------------------------------------------------
-- Faults
------------------------------------------------------------

/-
  The fault of some tokens, with a lexical fault or the end of
  the text behind them.
-/
def faultIn
    (lexical? : Option ParseError)
    (scanner : Scanner) : List Token → Option ParseError
| [] =>
    match lexical?, scanner.verdict .endOfText with
    | some lexical, _ => some lexical
    | none, .reject fault => some fault
    | none, _ => none
| token :: tokens =>
    match scanner.verdict token with
    | .goOn next => faultIn lexical? next tokens
    | .accept => none
    | .reject fault =>
        if tokens = [] ∧ lexical?.isSome ∧
            scanner.LooksAhead token then
          lexical?
        else
          some fault

/- The fault of a stream. -/
def fault?
    (scanner : Scanner)
    (stream : TokenStream) : Option ParseError :=
  scanner.faultIn stream.2 stream.1

/-
  The fault of a text: the first token that cannot stand where
  it does, or a lexical fault.
-/
def faultOf? (text : String) : Option ParseError :=
  start.fault? (Lexer.streamOf text.toList)

/- A scanner that goes on finds what it finds behind. -/
theorem fault?_of_goOn
    {scanner next : Scanner}
    {token : Token}
    (stream : TokenStream)
    (hKind : token.kind ≠ .endOfText)
    (hVerdict : scanner.verdict token = .goOn next) :
    scanner.fault? (stream.push token) =
      next.fault? stream := by
  rw [TokenStream.push_of_ne_end hKind]
  simp only [fault?, faultIn, hVerdict]

/- A rejection stands when more of the stream follows. -/
theorem fault?_of_reject
    {scanner : Scanner}
    {token : Token}
    {fault : ParseError}
    {stream : TokenStream}
    (hKind : token.kind ≠ .endOfText)
    (hVerdict : scanner.verdict token = .reject fault)
    (hStream :
      stream.1 = [] → stream.2 = none ∨
        ¬ scanner.LooksAhead token) :
    scanner.fault? (stream.push token) = some fault := by
  rw [TokenStream.push_of_ne_end hKind]
  simp only [fault?, faultIn, hVerdict]
  rw [if_neg]
  rintro ⟨hNil, hSome, hAhead⟩
  rcases hStream hNil with hNone | hNot
  · rw [hNone] at hSome
    cases hSome
  · exact hNot hAhead

/- A rejection at the end of the text stands. -/
theorem fault?_of_reject_end
    {scanner : Scanner}
    {fault : ParseError}
    (hVerdict :
      scanner.verdict .endOfText = .reject fault) :
    scanner.fault? ([], none) = some fault := by
  simp only [fault?, faultIn, hVerdict]

/-
  A lexical fault wins over the token before it, unless the
  token was rejected without a look ahead.
-/
theorem fault?_of_lexical
    {scanner : Scanner}
    {token : Token}
    (lexical : ParseError)
    (hVerdict :
      (∃ next, scanner.verdict token = .goOn next) ∨
        (∃ fault, scanner.verdict token = .reject fault ∧
          scanner.LooksAhead token)) :
    scanner.fault? ([token], some lexical) =
      some lexical := by
  rcases hVerdict with
    ⟨next, hNext⟩ | ⟨fault, hFault, hAhead⟩
  · simp only [fault?, faultIn, hNext]
  · simp [fault?, faultIn, hFault, hAhead]

/- Where an operand is missing a lexical fault always wins. -/
theorem operand_fault?_of_lexical
    (opened : Nat)
    (token : Token)
    (lexical : ParseError) :
    fault? ⟨.operand, opened⟩ ([token], some lexical) =
      some lexical := by
  apply fault?_of_lexical
  cases hVerdict : verdict ⟨.operand, opened⟩ token with
  | goOn next => exact .inl ⟨next, rfl⟩
  | reject fault => exact .inr ⟨fault, rfl, .inl rfl⟩
  | accept =>
      exfalso
      revert hVerdict
      unfold verdict operandVerdict
      dsimp only
      repeat' split
      all_goals exact nofun

------------------------------------------------------------
-- Runs
------------------------------------------------------------

/- Where a scanner stands after tokens it goes on over. -/
def run (scanner : Scanner) : List Token → Option Scanner
| [] => some scanner
| token :: tokens =>
    match scanner.verdict token with
    | .goOn next => next.run tokens
    | .accept | .reject _ => none

/- A run over one more token goes on behind it. -/
theorem run_cons_of_goOn
    {scanner next : Scanner}
    {token : Token}
    (tokens : List Token)
    (hVerdict : scanner.verdict token = .goOn next) :
    scanner.run (token :: tokens) = next.run tokens := by
  simp only [run, hVerdict]

/- A run over two lists goes over one and then the other. -/
theorem run_append
    (scanner : Scanner)
    (front back : List Token) :
    scanner.run (front ++ back) =
      (scanner.run front).bind fun next =>
        next.run back := by
  induction front generalizing scanner with
  | nil => rfl
  | cons token front ih =>
      simp only [List.cons_append, run]
      cases scanner.verdict token with
      | goOn next => exact ih next
      | accept => rfl
      | reject fault => rfl

/- A number ends the wait for an operand. -/
theorem verdict_of_number
    {token : Token}
    (opened : Nat)
    (hKind : token.kind = .number) :
    verdict ⟨.operand, opened⟩ token =
      .goOn ⟨.operator, opened⟩ := by
  simp only [verdict, operandVerdict, hKind]

/- A sign waits for its operand. -/
theorem verdict_of_sign
    {token : Token}
    (opened : Nat)
    (hSign : token.kind.IsSign) :
    verdict ⟨.operand, opened⟩ token =
      .goOn ⟨.operand, opened⟩ := by
  cases hKind : token.kind <;> rw [hKind] at hSign
  case plus => simp only [verdict, operandVerdict, hKind]
  case minus => simp only [verdict, operandVerdict, hKind]
  all_goals exact absurd hSign id

/- An opening parenthesis opens a group. -/
theorem verdict_of_opening
    {token : Token}
    (opened : Nat)
    (hKind : token.kind = .leftParen) :
    verdict ⟨.operand, opened⟩ token =
      .goOn ⟨.operand, opened + 1⟩ := by
  simp only [verdict, operandVerdict, hKind]

/- A closing parenthesis closes the group. -/
theorem verdict_of_closing
    {token : Token}
    (opened : Nat)
    (hKind : token.kind = .rightParen) :
    verdict ⟨.operator, opened + 1⟩ token =
      .goOn ⟨.operator, opened⟩ := by
  simp [verdict, operatorVerdict, hKind]

/- A binary operator asks for its right operand. -/
theorem verdict_of_binary
    {token : Token}
    (opened : Nat)
    (hBinary : token.kind.IsBinary) :
    verdict ⟨.operator, opened⟩ token =
      .goOn ⟨.operand, opened⟩ := by
  cases hKind : token.kind <;> rw [hKind] at hBinary
  case endOfText => exact absurd hBinary id
  case leftParen => exact absurd hBinary id
  case rightParen => exact absurd hBinary id
  case number => exact absurd hBinary id
  all_goals simp only [verdict, operatorVerdict, hKind]

end Scanner

end ArithExpr
