import ArithExpr.Lexer
import ArithExpr.Trace

/-
  What a parser knows while it reads: a lexer, the token under
  consideration and the one after it, the number of open
  groups, the records made so far, and how many tokens the
  lexer has been asked for.

  Key definitions include:
    * `Parser.State`
    * `Parser.State.ofLexer`
    * `Parser.State.remaining`
    * `Parser.State.pull`
    * `Parser.State.advance`

  Progress is shown by:
    * `Parser.State.pull_remaining_le`
    * `Parser.State.advance_remaining_le`
    * `Parser.State.advance_remaining_lt`
-/

namespace ArithExpr

namespace Parser

------------------------------------------------------------
-- States
------------------------------------------------------------

/-
  The state of a parser between two of its actions.  No action
  looks at the records or at the number of tokens that have
  been asked for; they only tell what was done.
-/
structure State where
  lexer : Lexer
  token : Token
  next : Token
  depth : Nat
  log : Array Record
  asked : Nat

namespace State

/- The state before any token has been read. -/
def ofLexer (lexer : Lexer) : State :=
  ⟨lexer, .endOfText, .endOfText, 0, #[], 0⟩

/-
  How much is left to read: the characters after the lexer's
  position, and the next token unless it is the end.
-/
def remaining (state : State) : Nat :=
  state.lexer.rest.length +
    if state.next.kind = .endOfText then 0 else 1

/- Note one more record. -/
def record
    (state : State)
    (entry : Record) : State :=
  { state with log := state.log.push entry }

/- Note a token that was read, unless it is the end. -/
def recordToken
    (state : State)
    (token : Token) : State :=
  if token.kind = .endOfText then
    state
  else
    state.record (.token token)

------------------------------------------------------------
-- Reading Tokens
------------------------------------------------------------

/- The state after the lexer has been asked for a token. -/
def asking
    (state : State)
    (lexer : Lexer) : State :=
  { state with lexer, asked := state.asked + 1 }

/-
  Take a token from the lexer without looking at it.  The
  position of the lexer moves on even when the token is
  faulty.
-/
def pull
    (state : State) : Except ParseError Token × State :=
  match state.lexer.next with
  | (.ok token, lexer) =>
      (.ok token, (state.asking lexer).recordToken token)
  | (.error fault, lexer) =>
      (.error fault, state.asking lexer)

/-
  Move on by one token.  The next token becomes the current
  one first, so that after a fault both are the same.
-/
def advance
    (state : State) : Except ParseError Unit × State :=
  match { state with token := state.next }.pull with
  | (.ok token, after) =>
      (.ok (), { after with next := token })
  | (.error fault, after) => (.error fault, after)

------------------------------------------------------------
-- Progress
------------------------------------------------------------

/- Noting a token changes nothing but the records. -/
theorem recordToken_eq
    (state : State)
    (token : Token) :
    ∃ log, state.recordToken token =
      { state with log := log } := by
  unfold recordToken
  split
  · exact ⟨state.log, rfl⟩
  · exact ⟨_, rfl⟩

/- Pulling a token keeps the next token. -/
theorem pull_next
    (state : State) :
    state.pull.2.next = state.next := by
  unfold pull
  split
  · next token lexer _ =>
      obtain ⟨log, hLog⟩ :=
        recordToken_eq (state.asking lexer) token
      rw [hLog]
      rfl
  · rfl

/- Pulling a token keeps the current token. -/
theorem pull_token
    (state : State) :
    state.pull.2.token = state.token := by
  unfold pull
  split
  · next token lexer _ =>
      obtain ⟨log, hLog⟩ :=
        recordToken_eq (state.asking lexer) token
      rw [hLog]
      rfl
  · rfl

/- Pulling a token moves the lexer by one token. -/
theorem pull_lexer
    (state : State) :
    state.pull.2.lexer = state.lexer.next.2 := by
  unfold pull
  split
  · next token lexer hNext =>
      obtain ⟨log, hLog⟩ :=
        recordToken_eq (state.asking lexer) token
      rw [hLog, hNext]
      rfl
  · next hNext =>
      rw [hNext]
      rfl

/- Pulling a token asks the lexer for one token. -/
theorem pull_asked
    (state : State) :
    state.pull.2.asked = state.asked + 1 := by
  unfold pull
  split
  · next token lexer _ =>
      obtain ⟨log, hLog⟩ :=
        recordToken_eq (state.asking lexer) token
      rw [hLog]
      rfl
  · rfl

/- Pulling a token answers what the lexer answers. -/
theorem pull_result
    (state : State) :
    state.pull.1 = state.lexer.next.1 := by
  unfold pull
  split <;> next hNext => rw [hNext]

/- Pulling a token leaves no more to read. -/
theorem pull_remaining_le
    (state : State) :
    state.pull.2.remaining ≤ state.remaining := by
  unfold remaining
  rw [pull_next, pull_lexer]
  exact Nat.add_le_add_right
    (Lexer.next_rest_length_le _) _

/-
  Moving on leaves the lexer where one token has been read,
  with that token next if it was read without a fault.
-/
private theorem advance_cases
    (state : State) :
    state.advance.2.lexer = state.lexer.next.2 ∧
      ((∃ token, state.lexer.next.1 = .ok token ∧
          state.advance.2.next = token) ∨
        (∃ fault, state.lexer.next.1 = .error fault ∧
          state.advance.1 = .error fault ∧
          state.advance.2.next = state.next)) := by
  have hLexer := pull_lexer { state with token := state.next }
  have hResult := pull_result { state with token := state.next }
  have hNext := pull_next { state with token := state.next }
  unfold advance
  split
  · next token after hPull =>
      rw [hPull] at hLexer hResult
      exact ⟨hLexer, .inl ⟨token, hResult.symm, rfl⟩⟩
  · next fault after hPull =>
      rw [hPull] at hLexer hResult hNext
      exact
        ⟨hLexer, .inr ⟨fault, hResult.symm, rfl, hNext⟩⟩

/- Moving on makes the next token the current one. -/
theorem advance_token
    (state : State) :
    state.advance.2.token = state.next := by
  have hToken := pull_token { state with token := state.next }
  unfold advance
  split <;> next hPull => rw [hPull] at hToken; exact hToken

/- Moving on asks the lexer for one token. -/
theorem advance_asked
    (state : State) :
    state.advance.2.asked = state.asked + 1 := by
  have hAsked := pull_asked { state with token := state.next }
  unfold advance
  split <;> next hPull => rw [hPull] at hAsked; exact hAsked

/- Moving on leaves no more to read. -/
theorem advance_remaining_le
    (state : State) :
    state.advance.2.remaining ≤ state.remaining := by
  obtain ⟨hLexer, hCases⟩ := advance_cases state
  unfold remaining
  rw [hLexer]
  rcases hCases with ⟨token, hToken, hNext⟩ |
    ⟨fault, hFault, _, hNext⟩
  · rw [hNext]
    by_cases hEnd : token.kind = .endOfText
    · rw [Lexer.next_rest_eq_nil hToken hEnd]
      simp [hEnd]
    · have hLess := @Lexer.next_rest_length_lt state.lexer (by
        rw [hToken]
        rintro _ ⟨⟩
        exact hEnd)
      rw [if_neg hEnd]
      omega
  · rw [hNext]
    exact Nat.add_le_add_right
      (Lexer.next_rest_length_le _) _

/- Moving on past a token other than the end uses it up. -/
theorem advance_remaining_lt
    {state : State}
    (hNext : state.next.kind ≠ .endOfText) :
    state.advance.2.remaining < state.remaining := by
  obtain ⟨hLexer, hCases⟩ := advance_cases state
  unfold remaining
  rw [hLexer, if_neg hNext]
  rcases hCases with ⟨token, hToken, hAfter⟩ |
    ⟨fault, hFault, _, hAfter⟩
  · rw [hAfter]
    by_cases hEnd : token.kind = .endOfText
    · rw [Lexer.next_rest_eq_nil hToken hEnd]
      simp [hEnd]
    · have hLess := @Lexer.next_rest_length_lt state.lexer (by
        rw [hToken]
        rintro _ ⟨⟩
        exact hEnd)
      rw [if_neg hEnd]
      omega
  · have hLess := @Lexer.next_rest_length_lt state.lexer (by
      rw [hFault]
      rintro _ ⟨⟩)
    rw [hAfter, if_neg hNext]
    omega

end State

end Parser

end ArithExpr
