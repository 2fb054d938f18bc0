import ArithExpr.Expr
import ArithExpr.Parser.Action

/-
  Reading expressions by precedence climbing.

  After an operand, operators are taken up for as long as they
  bind more tightly than a minimum; each reads its right
  operand with its own precedence as the minimum, so that
  operators of one precedence group to the left.  Nesting is
  bounded: every call of `expression`, `primary` and `group`
  takes one place of the room it is given, and gives it back
  when it answers.

  Key definitions include:
    * `Parser.expect`
    * `Parser.operator`
    * `Parser.extend`
    * `Parser.climb`
    * `Parser.expression`
    * `Parser.primary`
    * `Parser.group`
    * `Parser.wholeText`
-/

namespace ArithExpr

namespace Parser

------------------------------------------------------------
-- Single Tokens
------------------------------------------------------------

/-
  Move on if the next token has a given kind.  A closing
  parenthesis that is missing at the end of the text is
  reported as such.
-/
def expect (kind : Kind) : Parser Unit := do
  let next ← lookahead
  if next.kind = kind then
    advance
  else if kind = .rightParen ∧ next.kind = .endOfText then
    fail (.unmatchedParenthesis next)
  else
    fail (.unexpectedToken kind.name next)

/- Take the current token if it is a binary operator. -/
def takeOperator : Parser Token := do
  let token ← current
  if token.kind.IsBinary then
    advance
    pure token
  else
    fail (.unexpectedToken "operator" token)

/- Move on to an operator and past it. -/
def operator : Parser Token := do
  advance
  takeOperator

/- An operator that can be taken uses up what is left. -/
theorem operator_remaining_lt
    {state after : State}
    {token : Token}
    (h : operator.run state = (.ok token, after)) :
    after.remaining < state.remaining := by
  by_cases hEnd : state.next.kind = .endOfText
  · exfalso
    unfold operator at h
    rw [run_bind] at h
    have hToken := State.advance_token state
    rcases hAdvance : advance.run state with ⟨_ | _, mid⟩
    · rw [hAdvance] at h
      cases h
    · rw [hAdvance] at h
      rw [run_advance] at hAdvance
      rw [hAdvance] at hToken
      have hKind : ¬ mid.token.kind.IsBinary := by
        rw [hToken, hEnd]
        exact id
      simp [takeOperator, hKind] at h
  · have hLess :
        (operator.run state).2.remaining < state.remaining :=
      bind_remaining_lt (State.advance_remaining_lt hEnd)
    rwa [h] at hLess

------------------------------------------------------------
-- Operators and Their Right Operands
------------------------------------------------------------

/-
  Take one more operator and its right operand, whose minimum
  is the precedence of the operator.
-/
def extend
    (operand : Int → Parser Expr)
    (left : Expr) : Parser Expr := do
  let token ← operator
  let right ← operand token.kind.precedence
  record (.operator token.literal)
  pure (Expr.ofOperator token left right)

/- One more operator uses up what is left. -/
theorem extend_remaining_lt
    {operand : Int → Parser Expr}
    {left node : Expr}
    {state after : State}
    (h :
      (extend operand left).run state = (.ok node, after)) :
    after.remaining < state.remaining := by
  rcases hOperator : operator.run state with ⟨_ | token, mid⟩
  · unfold extend at h
    rw [run_bind, hOperator] at h
    cases h
  · have hLess := operator_remaining_lt hOperator
    have hBind :
        ((extend operand left).run state).2.remaining <
          state.remaining :=
      bind_remaining_lt (by rwa [hOperator])
    rwa [h] at hBind

/-
  From a given state, take operators and right operands for
  as long as the next token binds more tightly than the
  minimum.
-/
def climbFrom
    (operand : Int → Parser Expr)
    (minimum : Int)
    (left : Expr)
    (state : State) : Except ParseError Expr × State :=
  if minimum < state.next.kind.precedence then
    match _hExtend : (extend operand left).run state with
    | (.ok node, after) =>
        climbFrom operand minimum node after
    | (.error fault, after) => (.error fault, after)
  else
    (.ok left, state)
termination_by state.remaining
decreasing_by exact extend_remaining_lt _hExtend

/- Climbing leaves no more to read. -/
theorem climbFrom_remaining_le
    (operand : Int → Parser Expr)
    (minimum : Int)
    (left : Expr)
    (state : State) :
    (climbFrom operand minimum left state).2.remaining ≤
      state.remaining := by
  fun_induction climbFrom operand minimum left state with
  | case1 left state _ node after hExtend ih =>
      exact Nat.le_trans ih
        (Nat.le_of_lt (extend_remaining_lt hExtend))
  | case2 left state _ fault after hExtend =>
      have hLe := (extend operand left).remaining_le state
      rwa [hExtend] at hLe
  | case3 => exact Nat.le_refl _

/- The operators that follow a left operand. -/
def climb
    (operand : Int → Parser Expr)
    (minimum : Int)
    (left : Expr) : Parser Expr where
  run := climbFrom operand minimum left
  remaining_le := climbFrom_remaining_le operand minimum left

------------------------------------------------------------
-- Expressions
------------------------------------------------------------

mutual

/-
  An operand with the operators after it that bind more
  tightly than a minimum.
-/
def expression : Nat → Int → Parser Expr
| 0, _ => fail .tooDeep
| room + 1, minimum => do
    let left ← primary room
    climb (expression room) minimum left

/-
  One operand: a group, a sign with its operand, or a number.
  The end of the text inside a group is reported as a missing
  parenthesis.
-/
def primary : Nat → Parser Expr
| 0 => fail .tooDeep
| room + 1 => do
    let token ← current
    if token.kind = .leftParen then
      group room
    else if token.kind.IsSign then
      advance
      let operand ← expression room Kind.signPrecedence
      record (.sign token.literal)
      pure (Expr.ofSign token operand)
    else if token.kind = .number then
      ofExcept (Expr.ofNumber token)
    else
      let depth ← openGroups
      if token.kind = .endOfText ∧ 0 < depth then
        fail (.unmatchedParenthesis token)
      else
        fail (.unexpectedToken "an expression" token)

/-
  An expression in parentheses.  The count of open groups
  stays raised when the group is not closed.
-/
def group : Nat → Parser Expr
| 0 => fail .tooDeep
| room + 1 => do
    enterGroup
    advance
    let inner ← expression room 0
    expect .rightParen
    leaveGroup
    pure inner

end

/- An expression that reaches to the end of the text. -/
def wholeText (room : Nat) : Parser Expr := do
  let node ← expression room 0
  expect .endOfText
  pure node

end Parser

end ArithExpr
