import ArithExpr.Error

/-
  Reading tokens from a text, one at a time.

  A lexer is a position in a text.  Blanks before a token are
  skipped.  An operator character is a token by itself.  Any
  other character starts a number, which goes on for as long
  as digits and points follow.  At the end of the text every
  further token is the end of the text.

  Key definitions include:
    * `Lexer`
    * `Lexer.ofText`
    * `Lexer.seek`
    * `Lexer.peek?`
    * `Lexer.skipBlanks`
    * `Lexer.readNumber`
    * `Lexer.next`
    * `Lexer.scan`
    * `tokenize`

  Progress is shown by:
    * `Lexer.next_rest_length_le`
    * `Lexer.next_rest_length_lt`
-/

namespace ArithExpr

------------------------------------------------------------
-- Character Classes
------------------------------------------------------------

/- The characters that may stand between tokens. -/
def IsBlank (c : Char) : Prop :=
  c = ' ' ∨ c = '\t' ∨ c = '\n' ∨ c = '\r'

instance (c : Char) : Decidable (IsBlank c) := by
  unfold IsBlank
  infer_instance

/- The characters that continue a number. -/
def IsNumberPart (c : Char) : Prop :=
  c.isDigit = true ∨ c = '.'

instance (c : Char) : Decidable (IsNumberPart c) := by
  unfold IsNumberPart
  infer_instance

------------------------------------------------------------
-- Positions in a Text
------------------------------------------------------------

/-
  A position in a text, with the characters after it.  The
  position may lie beyond the end, where none are left.
-/
structure Lexer where
  text : List Char
  index : Nat
  rest : List Char
  rest_eq : rest = text.drop index

namespace Lexer

/- The start of a text. -/
def ofText (text : String) : Lexer :=
  ⟨text.toList, 0, text.toList, rfl⟩

/- A given position in the same text. -/
def seek
    (lexer : Lexer)
    (index : Nat) : Lexer :=
  ⟨lexer.text, index, lexer.text.drop index, rfl⟩

/- The position a number of characters further on. -/
def advance
    (lexer : Lexer)
    (count : Nat) : Lexer :=
  ⟨lexer.text, lexer.index + count, lexer.rest.drop count, by
    rw [lexer.rest_eq, List.drop_drop]⟩

/- The character at the position, if there is one. -/
def peek? (lexer : Lexer) : Option Char :=
  lexer.rest.head?

/- The first position that does not hold a blank. -/
def skipBlanks (lexer : Lexer) : Lexer :=
  lexer.advance
    (lexer.rest.takeWhile fun c => IsBlank c).length

------------------------------------------------------------
-- Numbers
------------------------------------------------------------

/-
  The characters after the first one that belong to a number
  which starts at the position.
-/
def numberTail (lexer : Lexer) : List Char :=
  (lexer.rest.drop 1).takeWhile fun c =>
    IsNumberPart c

/-
  Read a number at the position.  The first character is
  taken whatever it is, and the position moves on over the
  whole run even when the run is no numeral.  Without a first
  character the position still moves on by one.
-/
def readNumber
    (lexer : Lexer) : Except ParseError Token × Lexer :=
  (Token.checked .number
      (String.ofList
        (lexer.rest.take 1 ++ lexer.numberTail)),
    lexer.advance (1 + lexer.numberTail.length))

------------------------------------------------------------
-- Tokens
------------------------------------------------------------

/- Read one token where no blanks are left to skip. -/
def readToken
    (lexer : Lexer) : Except ParseError Token × Lexer :=
  match lexer.peek? with
  | none => (.ok .endOfText, lexer)
  | some c =>
      match Token.ofOperator? c with
      | some token => (.ok token, lexer.advance 1)
      | none => lexer.readNumber

/- Skip blanks and read one token. -/
def next
    (lexer : Lexer) : Except ParseError Token × Lexer :=
  lexer.skipBlanks.readToken

------------------------------------------------------------
-- Progress
------------------------------------------------------------

/- Moving on leaves fewer characters. -/
theorem advance_rest_length
    (lexer : Lexer)
    (count : Nat) :
    (lexer.advance count).rest.length =
      lexer.rest.length - count := by
  simp [advance]

/- Skipping blanks leaves no more characters. -/
theorem skipBlanks_rest_length_le
    (lexer : Lexer) :
    lexer.skipBlanks.rest.length ≤ lexer.rest.length := by
  simp [skipBlanks, advance_rest_length]

/- Reading a token leaves no more characters. -/
theorem readToken_rest_length_le
    (lexer : Lexer) :
    lexer.readToken.2.rest.length ≤ lexer.rest.length := by
  unfold readToken
  split
  · exact Nat.le_refl _
  · split
    · simp [advance_rest_length]
    · simp [readNumber, advance_rest_length]

/- Any outcome but the end of the text uses up characters. -/
theorem readToken_rest_length_lt
    {lexer : Lexer}
    (h :
      ∀ token, lexer.readToken.1 = .ok token →
        token.kind ≠ .endOfText) :
    lexer.readToken.2.rest.length < lexer.rest.length := by
  unfold readToken at h ⊢
  cases hPeek : lexer.peek? with
  | none =>
      rw [hPeek] at h
      exact absurd rfl (h .endOfText rfl)
  | some c =>
      have hPositive : 0 < lexer.rest.length := by
        cases hRest : lexer.rest with
        | nil => simp [peek?, hRest] at hPeek
        | cons first others => simp
      simp only
      split
      · rw [advance_rest_length]
        omega
      · simp only [readNumber, advance_rest_length]
        omega

/- The next token leaves no more characters. -/
theorem next_rest_length_le
    (lexer : Lexer) :
    lexer.next.2.rest.length ≤ lexer.rest.length :=
  Nat.le_trans (readToken_rest_length_le _)
    (skipBlanks_rest_length_le lexer)

/- Any outcome but the end of the text uses up characters. -/
theorem next_rest_length_lt
    {lexer : Lexer}
    (h :
      ∀ token, lexer.next.1 = .ok token →
        token.kind ≠ .endOfText) :
    lexer.next.2.rest.length < lexer.rest.length :=
  Nat.lt_of_lt_of_le (readToken_rest_length_lt h)
    (skipBlanks_rest_length_le lexer)

/- At the end of the text no characters are left. -/
theorem next_rest_eq_nil
    {lexer : Lexer}
    {token : Token}
    (h : lexer.next.1 = .ok token)
    (hEnd : token.kind = .endOfText) :
    lexer.next.2.rest = [] := by
  unfold next readToken at h ⊢
  cases hPeek : lexer.skipBlanks.peek? with
  | none => simpa [peek?] using hPeek
  | some c =>
      rw [hPeek] at h
      simp only at h
      split at h
      · next hOperator =>
          cases h
          exact absurd hEnd
            (Token.ofOperator?_kind_ne_endOfText hOperator)
      · have hKind := Token.kind_of_checked h
        rw [hEnd] at hKind
        cases hKind

------------------------------------------------------------
-- Whole Texts
------------------------------------------------------------

/-
  Add the tokens up to the end of the text, or up to the
  first fault, to those already read.
-/
def scanFrom
    (lexer : Lexer)
    (seen : Array Token) : Array Token × Option ParseError :=
  match _hNext : lexer.next with
  | (.error fault, _) => (seen, some fault)
  | (.ok token, after) =>
      if token.kind = .endOfText then
        (seen, none)
      else
        scanFrom after (seen.push token)
termination_by lexer.rest.length
decreasing_by
  next hKind =>
    have hLess := @next_rest_length_lt lexer (by
      rw [_hNext]
      rintro _ ⟨⟩
      exact hKind)
    rwa [_hNext] at hLess

/-
  The tokens before the end of the text, and the fault that
  cut them short, if there is one.
-/
def scan
    (lexer : Lexer) : List Token × Option ParseError :=
  let (tokens, fault?) := lexer.scanFrom #[]
  (tokens.toList, fault?)

end Lexer

/- All tokens of a text, the end of the text included. -/
def tokenize
    (text : String) : Except ParseError (List Token) :=
  match (Lexer.ofText text).scan with
  | (tokens, none) => .ok (tokens ++ [.endOfText])
  | (_, some fault) => .error fault

end ArithExpr
