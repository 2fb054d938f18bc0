import ArithExpr.Parse
import ArithExpr.Proofs.Lexer.Stream

/-
  Contracts of parser actions.

  An action that is run in a state ends with an answer or with
  a fault.  A contract says what holds in either case, and the
  contract of an action is put together from those of its
  steps.  An operand ends as its first token says, and the
  loop over operators is left by an invariant that one more
  operator keeps.

  What a parser sees of a text is its window: two tokens and
  the lexer behind them.  A move shifts the window by one
  token, and all that is ahead of it stays the same.

  Key definitions include:
    * `Parser.Ends`
    * `Parser.Window`
    * `Parser.Window.ahead`
    * `Parser.Window.stream`
    * `Parser.Window.Shifts`
    * `Parser.State.moved`

  Main declarations:
    * `Parser.Ends.mono`
    * `Parser.ends_advance`
    * `Parser.ends_shift`
    * `Parser.primary_ends_of_sign`
    * `Parser.run_climb_of_lt`
    * `Parser.climb_ends`
-/

------------------------------------------------------------
-- Contracts
------------------------------------------------------------

namespace ArithExpr

namespace Parser

variable {α β : Type}

/-
  An action that is run in a state ends with an answer that is
  as asked for, or with a fault that is as asked for.
-/
def Ends
    (action : Parser α)
    (state : State)
    (answers : α → State → Prop)
    (fails : ParseError → State → Prop) : Prop :=
  match action.run state with
  | (.ok answer, after) => answers answer after
  | (.error fault, after) => fails fault after

/- A contract speaks about the answer of a run. -/
theorem ends_of_ok
    {action : Parser α}
    {state after : State}
    {answer : α}
    {answers : α → State → Prop}
    {fails : ParseError → State → Prop}
    (hRun : action.run state = (.ok answer, after)) :
    action.Ends state answers fails ↔
      answers answer after := by
  unfold Ends
  rw [hRun]

/- A contract speaks about the fault of a run. -/
theorem ends_of_error
    {action : Parser α}
    {state after : State}
    {fault : ParseError}
    {answers : α → State → Prop}
    {fails : ParseError → State → Prop}
    (hRun : action.run state = (.error fault, after)) :
    action.Ends state answers fails ↔
      fails fault after := by
  unfold Ends
  rw [hRun]

/- A contract may be weakened in both cases. -/
theorem Ends.mono
    {action : Parser α}
    {state : State}
    {answers answers' : α → State → Prop}
    {fails fails' : ParseError → State → Prop}
    (h : action.Ends state answers fails)
    (hAnswers :
      ∀ answer after,
        answers answer after → answers' answer after)
    (hFails :
      ∀ fault after,
        fails fault after → fails' fault after) :
    action.Ends state answers' fails' := by
  unfold Ends at h ⊢
  split at h
  · exact hAnswers _ _ h
  · exact hFails _ _ h

/- Of two facts behind an answer, the first may be kept. -/
theorem Ends.first
    {action : Parser α}
    {state : State}
    {answers others : α → State → Prop}
    {fails : ParseError → State → Prop}
    (h :
      action.Ends state
        (fun answer after =>
          answers answer after ∧ others answer after)
        fails) :
    action.Ends state answers fails :=
  h.mono (fun _ _ h => h.1) (fun _ _ h => h)

/- An action ends well where nothing is asked for. -/
theorem ends_true
    (action : Parser α)
    (state : State) :
    action.Ends state (fun _ _ => True) (fun _ _ => True) := by
  unfold Ends
  split <;> trivial

/- Two contracts of one action hold together. -/
theorem Ends.and
    {action : Parser α}
    {state : State}
    {answers answers' : α → State → Prop}
    {fails fails' : ParseError → State → Prop}
    (h : action.Ends state answers fails)
    (h' : action.Ends state answers' fails') :
    action.Ends state
      (fun answer after =>
        answers answer after ∧ answers' answer after)
      (fun fault after =>
        fails fault after ∧ fails' fault after) := by
  unfold Ends at h h' ⊢
  rcases hRun : action.run state with ⟨_ | _, _⟩
  · rw [hRun] at h h'
    exact ⟨h, h'⟩
  · rw [hRun] at h h'
    exact ⟨h, h'⟩

/- The second action has to end well after the first one. -/
@[simp] theorem ends_bind
    (first : Parser α)
    (second : α → Parser β)
    (state : State)
    (answers : β → State → Prop)
    (fails : ParseError → State → Prop) :
    (first >>= second).Ends state answers fails ↔
      first.Ends state
        (fun answer after =>
          (second answer).Ends after answers fails)
        fails := by
  unfold Ends
  rw [run_bind]
  rcases first.run state with ⟨_ | _, _⟩ <;> rfl

/- An answer that is given has to be as asked for. -/
@[simp] theorem ends_pure
    (answer : α)
    (state : State)
    (answers : α → State → Prop)
    (fails : ParseError → State → Prop) :
    (pure answer : Parser α).Ends state answers fails ↔
      answers answer state :=
  Iff.rfl

/- A fault that is raised has to be as asked for. -/
@[simp] theorem ends_fail
    (fault : ParseError)
    (state : State)
    (answers : α → State → Prop)
    (fails : ParseError → State → Prop) :
    (fail fault : Parser α).Ends state answers fails ↔
      fails fault state :=
  Iff.rfl

/- The chosen action has to end well. -/
@[simp] theorem ends_ite
    (condition : Prop)
    [Decidable condition]
    (first second : Parser α)
    (state : State)
    (answers : α → State → Prop)
    (fails : ParseError → State → Prop) :
    (if condition then first else second).Ends state
        answers fails ↔
      if condition then first.Ends state answers fails
      else second.Ends state answers fails := by
  split <;> rfl

/- Looking at the current token answers it. -/
@[simp] theorem ends_current
    (state : State)
    (answers : Token → State → Prop)
    (fails : ParseError → State → Prop) :
    current.Ends state answers fails ↔
      answers state.token state :=
  Iff.rfl

/- Looking at the next token answers it. -/
@[simp] theorem ends_lookahead
    (state : State)
    (answers : Token → State → Prop)
    (fails : ParseError → State → Prop) :
    lookahead.Ends state answers fails ↔
      answers state.next state :=
  Iff.rfl

/- Looking at the number of open groups answers it. -/
@[simp] theorem ends_openGroups
    (state : State)
    (answers : Nat → State → Prop)
    (fails : ParseError → State → Prop) :
    openGroups.Ends state answers fails ↔
      answers state.depth state :=
  Iff.rfl

/- Entering a group counts it. -/
@[simp] theorem ends_enterGroup
    (state : State)
    (answers : Unit → State → Prop)
    (fails : ParseError → State → Prop) :
    enterGroup.Ends state answers fails ↔
      answers () { state with depth := state.depth + 1 } :=
  Iff.rfl

/- Leaving a group takes it off the count. -/
@[simp] theorem ends_leaveGroup
    (state : State)
    (answers : Unit → State → Prop)
    (fails : ParseError → State → Prop) :
    leaveGroup.Ends state answers fails ↔
      answers () { state with depth := state.depth - 1 } :=
  Iff.rfl

/- Noting a record adds it at the end. -/
@[simp] theorem ends_record
    (entry : Record)
    (state : State)
    (answers : Unit → State → Prop)
    (fails : ParseError → State → Prop) :
    (record entry).Ends state answers fails ↔
      answers () (state.record entry) :=
  Iff.rfl

end Parser

end ArithExpr

------------------------------------------------------------
-- Windows
------------------------------------------------------------

namespace ArithExpr

namespace Parser

/-
  What a parser sees of a text: the current token, the next
  one, and the lexer behind them.
-/
structure Window where
  lexer : Lexer
  token : Token
  next : Token

/- The window of a state. -/
def State.window (state : State) : Window :=
  ⟨state.lexer, state.token, state.next⟩

/- The stream behind the current token. -/
def Window.ahead (window : Window) : TokenStream :=
  TokenStream.push window.lexer.scan window.next

/- The stream that starts with the current token. -/
def Window.stream (window : Window) : TokenStream :=
  window.ahead.push window.token

/- The window after a move over a token that could be read. -/
def Window.moved
    (window : Window)
    (token : Token)
    (lexer : Lexer) : Window :=
  ⟨lexer, window.next, token⟩

/- A window shifts when one more token can be read. -/
def Window.Shifts (window after : Window) : Prop :=
  ∃ token lexer,
    window.lexer.next = (.ok token, lexer) ∧
      after = window.moved token lexer

/- A shift makes the next token the current one. -/
theorem Window.Shifts.token_eq
    {window after : Window}
    (h : window.Shifts after) :
    after.token = window.next := by
  rcases h with ⟨token, lexer, _, rfl⟩
  rfl

/- A shift makes a stream of what was ahead. -/
theorem Window.Shifts.stream_eq
    {window after : Window}
    (h : window.Shifts after) :
    after.stream = window.ahead := by
  rcases h with ⟨token, lexer, hNext, rfl⟩
  unfold stream ahead moved
  rw [Lexer.scan_of_ok hNext]

/- Nothing but the next token is ahead of a fault. -/
theorem Window.ahead_of_error
    {window : Window}
    {fault : ParseError}
    {lexer : Lexer}
    (h : window.lexer.next = (.error fault, lexer))
    (hNext : window.next.kind ≠ .endOfText) :
    window.ahead = ([window.next], some fault) := by
  unfold ahead
  rw [Lexer.scan_of_error h,
    TokenStream.push_of_ne_end hNext]

/- The next token is the first one ahead. -/
theorem Window.next_of_ahead_cons
    {window : Window}
    {token : Token}
    {others : List Token}
    {fault? : Option ParseError}
    (h : window.ahead = (token :: others, fault?)) :
    window.next = token ∧ token.kind ≠ .endOfText := by
  unfold ahead at h
  by_cases hEnd : window.next.kind = .endOfText
  · rw [TokenStream.push_of_end hEnd] at h
    cases h
  · rw [TokenStream.push_of_ne_end hEnd] at h
    cases h
    exact ⟨rfl, hEnd⟩

/- Where nothing is ahead the next token is the end. -/
theorem Window.next_of_ahead_nil
    {window : Window}
    {fault? : Option ParseError}
    (h : window.ahead = ([], fault?)) :
    window.next.kind = .endOfText := by
  unfold ahead at h
  by_cases hEnd : window.next.kind = .endOfText
  · exact hEnd
  · rw [TokenStream.push_of_ne_end hEnd] at h
    cases h

------------------------------------------------------------
-- Moves
------------------------------------------------------------

namespace State

/- The state after a move over a token that could be read. -/
def moved
    (state : State)
    (token : Token)
    (lexer : Lexer) : State :=
  recordToken
    { state with
        lexer
        token := state.next
        next := token
        asked := state.asked + 1 }
    token

/- The state after a move into a lexical fault. -/
def stuck
    (state : State)
    (lexer : Lexer) : State :=
  { state with
      lexer
      token := state.next
      asked := state.asked + 1 }

/- A move shifts the window. -/
@[simp] theorem moved_window
    (state : State)
    (token : Token)
    (lexer : Lexer) :
    (state.moved token lexer).window =
      state.window.moved token lexer := by
  unfold moved recordToken
  split <;> rfl

/- A move makes the next token the current one. -/
@[simp] theorem moved_token
    (state : State)
    (token : Token)
    (lexer : Lexer) :
    (state.moved token lexer).token = state.next := by
  unfold moved recordToken
  split <;> rfl

/- A move makes the token that was read the next one. -/
@[simp] theorem moved_next
    (state : State)
    (token : Token)
    (lexer : Lexer) :
    (state.moved token lexer).next = token := by
  unfold moved recordToken
  split <;> rfl

/- A move takes the lexer behind the token that was read. -/
@[simp] theorem moved_lexer
    (state : State)
    (token : Token)
    (lexer : Lexer) :
    (state.moved token lexer).lexer = lexer := by
  unfold moved recordToken
  split <;> rfl

/- A move neither enters nor leaves a group. -/
@[simp] theorem moved_depth
    (state : State)
    (token : Token)
    (lexer : Lexer) :
    (state.moved token lexer).depth = state.depth := by
  unfold moved recordToken
  split <;> rfl

/- A move asks the lexer for one token more. -/
@[simp] theorem moved_asked
    (state : State)
    (token : Token)
    (lexer : Lexer) :
    (state.moved token lexer).asked = state.asked + 1 := by
  unfold moved recordToken
  split <;> rfl

/- The parser moves on where a token can be read. -/
theorem advance_of_ok
    {state : State}
    {token : Token}
    {lexer : Lexer}
    (h : state.lexer.next = (.ok token, lexer)) :
    state.advance = (.ok (), state.moved token lexer) := by
  unfold advance pull moved asking recordToken
  rw [h]
  dsimp only
  split <;> rfl

/- The parser fails where no token can be read. -/
theorem advance_of_error
    {state : State}
    {fault : ParseError}
    {lexer : Lexer}
    (h : state.lexer.next = (.error fault, lexer)) :
    state.advance = (.error fault, state.stuck lexer) := by
  unfold advance pull
  rw [h]
  rfl

end State

/-
  Moving on ends as the lexer says: with one more token, or
  with a lexical fault.
-/
theorem ends_advance
    {state : State}
    {answers : Unit → State → Prop}
    {fails : ParseError → State → Prop}
    (hOk :
      ∀ token lexer,
        state.lexer.next = (.ok token, lexer) →
          answers () (state.moved token lexer))
    (hError :
      ∀ fault lexer,
        state.lexer.next = (.error fault, lexer) →
          fails fault (state.stuck lexer)) :
    advance.Ends state answers fails := by
  rcases hNext : state.lexer.next with ⟨fault | token, lexer⟩
  · rw [ends_of_error (State.advance_of_error hNext)]
    exact hError fault lexer hNext
  · rw [ends_of_ok (State.advance_of_ok hNext)]
    exact hOk token lexer hNext

/-
  Moving on shifts the window, or fails with what the lexer
  fails with.
-/
theorem ends_shift
    {state : State}
    {answers : Unit → State → Prop}
    {fails : ParseError → State → Prop}
    (hOk :
      ∀ after : State,
        state.window.Shifts after.window →
          after.depth = state.depth → answers () after)
    (hError :
      ∀ fault lexer after,
        state.lexer.next = (.error fault, lexer) →
          fails fault after) :
    advance.Ends state answers fails := by
  apply ends_advance
  · intro token lexer hNext
    apply hOk
    · exact
        ⟨token, lexer, hNext, State.moved_window _ _ _⟩
    · exact State.moved_depth _ _ _
  · intro fault lexer hNext
    exact hError fault lexer _ hNext

------------------------------------------------------------
-- Operands
------------------------------------------------------------

section Primary

variable {room : Nat}
variable {state : State}
variable {answers : Expr → State → Prop}
variable {fails : ParseError → State → Prop}

/- An opening parenthesis starts a group. -/
theorem primary_ends_of_opening
    (hOpening : state.token.kind = .leftParen) :
    (primary (room + 1)).Ends state answers fails ↔
      (group room).Ends state answers fails := by
  rw [primary, ends_bind, ends_current, ends_ite,
    if_pos hOpening]

/- A sign is followed by its operand. -/
theorem primary_ends_of_sign
    (hSign : state.token.kind.IsSign) :
    (primary (room + 1)).Ends state answers fails ↔
      (do
        advance
        let inner ← expression room Kind.signPrecedence
        record (.sign state.token.literal)
        pure (Expr.ofSign state.token inner)).Ends
          state answers fails := by
  rw [primary, ends_bind, ends_current, ends_ite,
    if_neg (hSign.ne id), ends_ite, if_pos hSign]

/- A number is an operand by itself. -/
theorem primary_ends_of_number
    (hNumber : state.token.kind = .number) :
    (primary (room + 1)).Ends state answers fails ↔
      answers
        (.number state.token (state.token.value hNumber))
        state := by
  have hSign : ¬ state.token.kind.IsSign := by
    rw [hNumber]
    exact id
  rw [primary, ends_bind, ends_current, ends_ite,
    if_neg (by simp [hNumber]), ends_ite, if_neg hSign,
    ends_ite, if_pos hNumber, Expr.ofNumber_eq hNumber]
  rfl

/- Any other token stands where an operand is missing. -/
theorem primary_ends_of_missing
    (hOpening : state.token.kind ≠ .leftParen)
    (hSign : ¬ state.token.kind.IsSign)
    (hNumber : state.token.kind ≠ .number) :
    (primary (room + 1)).Ends state answers fails ↔
      fails
        (if state.token.kind = .endOfText ∧
            0 < state.depth then
          .unmatchedParenthesis state.token
        else
          .unexpectedToken "an expression" state.token)
        state := by
  rw [primary, ends_bind, ends_current, ends_ite,
    if_neg hOpening, ends_ite, if_neg hSign, ends_ite,
    if_neg hNumber, ends_bind, ends_openGroups, ends_ite]
  split <;> rfl

end Primary

------------------------------------------------------------
-- The Loop over Operators
------------------------------------------------------------

section Climb

variable {operand : Int → Parser Expr}
variable {minimum : Int}
variable {fails : ParseError → State → Prop}

/- The loop is left where no operator binds tightly enough. -/
theorem run_climb_of_le
    {left : Expr}
    {state : State}
    (h : state.next.kind.precedence ≤ minimum) :
    (climb operand minimum left).run state =
      (.ok left, state) := by
  change climbFrom operand minimum left state = _
  rw [climbFrom, if_neg (Int.not_lt.mpr h)]

/- One more operator is taken where it binds tightly enough. -/
theorem run_climb_of_lt
    {left : Expr}
    {state : State}
    (h : minimum < state.next.kind.precedence) :
    (climb operand minimum left).run state =
      (extend operand left >>=
        climb operand minimum).run state := by
  change climbFrom operand minimum left state = _
  rw [climbFrom, if_pos h, run_bind]
  split
  · next hExtend =>
      rw [hExtend]
      rfl
  · next hExtend => rw [hExtend]

/- A loop that is left ends with what was read so far. -/
theorem climb_ends_of_le
    {left : Expr}
    {state : State}
    {answers : Expr → State → Prop}
    (h : state.next.kind.precedence ≤ minimum) :
    (climb operand minimum left).Ends state answers fails ↔
      answers left state :=
  ends_of_ok (run_climb_of_le h)

/- A loop that goes on ends as it does one operator later. -/
theorem climb_ends_of_lt
    {left : Expr}
    {state : State}
    {answers : Expr → State → Prop}
    (h : minimum < state.next.kind.precedence) :
    (climb operand minimum left).Ends state answers fails ↔
      (extend operand left).Ends state
        (fun node after =>
          (climb operand minimum node).Ends after
            answers fails)
        fails := by
  rw [← ends_bind]
  unfold Ends
  rw [run_climb_of_lt h]

/-
  An invariant that one more operator keeps holds when the
  loop is left, and no operator is left to take.
-/
theorem climb_ends
    {invariant : Expr → State → Prop}
    (hStep :
      ∀ left state, invariant left state →
        minimum < state.next.kind.precedence →
          (extend operand left).Ends state invariant fails)
    {left : Expr}
    {state : State}
    (hStart : invariant left state) :
    (climb operand minimum left).Ends state
      (fun node after =>
        invariant node after ∧
          after.next.kind.precedence ≤ minimum)
      fails := by
  induction hRemaining : state.remaining
    using Nat.strong_induction_on
    generalizing left state with
  | h remaining ih =>
      by_cases hLess : minimum < state.next.kind.precedence
      · rw [climb_ends_of_lt hLess]
        have hExtend := hStep left state hStart hLess
        rcases hRun : (extend operand left).run state with
          ⟨fault | node, after⟩
        · rw [ends_of_error hRun] at hExtend ⊢
          exact hExtend
        · rw [ends_of_ok hRun] at hExtend ⊢
          refine ih _ ?_ hExtend rfl
          rw [← hRemaining]
          exact extend_remaining_lt hRun
      · rw [climb_ends_of_le (Int.not_lt.mp hLess)]
        exact ⟨hStart, Int.not_lt.mp hLess⟩

end Climb

end Parser

end ArithExpr
