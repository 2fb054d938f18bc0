import ArithExpr.Proofs.Grammar.Phrase
import ArithExpr.Proofs.Parser.Contract

/-
  How the parser reads a phrase.

  A reading leads from the state in which the first token of a
  phrase is the current one to the state in which the last one
  is.  It moves over the tokens one by one, enters and leaves
  the groups, and notes a sign or an operator behind its last
  operand.  When `Parser.expression` answers with a minimum,
  it has read a phrase whose operators bind more tightly than
  the minimum, its answer is the tree of that phrase, and the
  next token does not go on with it.

  Key definitions include:
    * `Parser.State.Moves`
    * `Parser.Reading`
    * `Parser.HasRead`
    * `Parser.ReadsAbove`

  Main declarations:
    * `Parser.operator_moves`
    * `Parser.expect_moves`
    * `Parser.extend_read`
    * `Parser.calls_read`
-/

------------------------------------------------------------
-- Readings
------------------------------------------------------------

namespace ArithExpr

namespace Parser

/- A parser moves on over a token that can be read. -/
def State.Moves (before after : State) : Prop :=
  ∃ token lexer,
    before.lexer.next = (.ok token, lexer) ∧
      after = before.moved token lexer

/- A move shifts the window and keeps the groups. -/
theorem State.Moves.shifts
    {before after : State}
    (h : before.Moves after) :
    before.window.Shifts after.window ∧
      after.depth = before.depth := by
  rcases h with ⟨token, lexer, hNext, rfl⟩
  exact
    ⟨⟨token, lexer, hNext, State.moved_window _ _ _⟩,
      State.moved_depth _ _ _⟩

/- A move makes the next token the current one. -/
theorem State.Moves.token_eq
    {before after : State}
    (h : before.Moves after) :
    after.token = before.next := by
  rcases h with ⟨token, lexer, _, rfl⟩
  exact State.moved_token _ _ _

/- A parser that moves on, moves or finds a lexical fault. -/
theorem ends_advance_moves
    {state : State}
    {answers : Unit → State → Prop}
    (h : ∀ after, state.Moves after → answers () after) :
    advance.Ends state answers (fun _ _ => True) := by
  apply ends_advance
  · intro token lexer hNext
    exact h _ ⟨token, lexer, hNext, rfl⟩
  · intros
    trivial

/-
  The parser reads a phrase from one state to another one.
  A phrase in parentheses is read with one more group open.
-/
inductive Reading :
    {level : Level} → Phrase level → State → State → Prop
| number
    (state : State)
    (hNumber : state.token.kind = .number) :
    Reading (.number state.token hNumber) state state
| signed
    {before middle after : State}
    {inner : Phrase .operand}
    (hSign : before.token.kind.IsSign)
    (hMoves : before.Moves middle)
    (hInner : Reading inner middle after) :
    Reading (.signed before.token hSign inner) before
      (after.record (.sign before.token.literal))
| group
    {before middle last after : State}
    {inner : Phrase .sum}
    (hOpening : before.token.kind = .leftParen)
    (hClosing : last.next.kind = .rightParen)
    (hMoves :
      State.Moves { before with depth := before.depth + 1 }
        middle)
    (hInner : Reading inner middle last)
    (hLast : last.Moves after) :
    Reading
      (.group before.token last.next hOpening hClosing inner)
      before { after with depth := after.depth - 1 }
| single
    {level : Level}
    {before after : State}
    (hLevel : level ≠ .operand)
    (inner : Phrase level.tighter)
    (hInner : Reading inner before after) :
    Reading (.single hLevel inner) before after
| binary
    {level : Level}
    {before middle between next after : State}
    {left : Phrase level}
    {right : Phrase level.tighter}
    (hTakes : level.Takes middle.next.kind)
    (hLeft : Reading left before middle)
    (hFirst : middle.Moves between)
    (hSecond : between.Moves next)
    (hRight : Reading right next after) :
    Reading (.binary middle.next hTakes left right) before
      (after.record (.operator middle.next.literal))

/- The answer is the tree of a phrase that was read. -/
def HasRead
    (level : Level)
    (before : State)
    (node : Expr)
    (after : State) : Prop :=
  ∃ phrase : Phrase level,
    phrase.tree = node ∧ Reading phrase before after

/- A phrase that was read belongs to every looser level. -/
theorem HasRead.loosened
    {looser level : Level}
    {before after : State}
    {node : Expr}
    (h : HasRead level before node after)
    (hLooser : looser.precedence ≤ level.precedence) :
    HasRead looser before node after := by
  rcases h with ⟨phrase, hTree, hReading⟩
  refine
    Phrase.exists_loosened_of
      (fun other => other.tree = node ∧
        Reading other before after)
      phrase hLooser ?_ ⟨hTree, hReading⟩
  intro level hLevel inner hInner
  exact ⟨hInner.1, .single hLevel inner hInner.2⟩

/-
  While operators are taken, the phrase read so far has a
  level above the minimum, and the next token does not bind
  more tightly than that level.
-/
def HasReadAbove
    (minimum : Int)
    (before : State)
    (node : Expr)
    (state : State) : Prop :=
  ∃ level : Level,
    (Level.above minimum).precedence ≤ level.precedence ∧
      HasRead level before node state ∧
      state.next.kind.precedence ≤ level.precedence

/-
  What is read above a minimum is a phrase that is not
  followed by an operator above the minimum.
-/
def ReadsAbove (operand : Int → Parser Expr) : Prop :=
  ∀ minimum state,
    (operand minimum).Ends state
      (fun node after =>
        HasRead (.above minimum) state node after ∧
          after.next.kind.precedence ≤ minimum)
      (fun _ _ => True)

------------------------------------------------------------
-- Moves over Tokens
------------------------------------------------------------

/- An operator is taken by two moves. -/
theorem operator_moves
    (state : State) :
    operator.Ends state
      (fun token after =>
        token = state.next ∧ token.kind.IsBinary ∧
          ∃ middle, state.Moves middle ∧ middle.Moves after)
      (fun _ _ => True) := by
  rw [operator, ends_bind]
  apply ends_advance_moves
  intro middle hMiddle
  rw [takeOperator, ends_bind, ends_current, ends_ite]
  split
  · next hBinary =>
      rw [ends_bind]
      apply ends_advance_moves
      intro after hAfter
      exact
        ⟨hMiddle.token_eq, hBinary, middle, hMiddle, hAfter⟩
  · trivial

/- A token that is expected is taken by one move. -/
theorem expect_moves
    (kind : Kind)
    (state : State) :
    (expect kind).Ends state
      (fun _ after =>
        state.next.kind = kind ∧ state.Moves after)
      (fun _ _ => True) := by
  rw [expect, ends_bind, ends_lookahead, ends_ite]
  split
  · next hKind =>
      apply ends_advance_moves
      intro after hAfter
      exact ⟨hKind, hAfter⟩
  · rw [ends_ite]
    split <;> trivial

------------------------------------------------------------
-- Phrases That Are Read
------------------------------------------------------------

/-
  One more operator makes a longer phrase.  What was read so
  far is loosened to the level of the operator, and its right
  operand belongs to the next level.
-/
theorem extend_read
    {operand : Int → Parser Expr}
    (hOperand : ReadsAbove operand)
    {minimum : Int}
    {before state : State}
    {left : Expr}
    (hLeft : HasReadAbove minimum before left state)
    (hAbove : minimum < state.next.kind.precedence) :
    (extend operand left).Ends state
      (HasReadAbove minimum before)
      (fun _ _ => True) := by
  rcases hLeft with ⟨level, _, hLeft, hNext⟩
  rw [extend, ends_bind]
  refine (operator_moves state).mono ?_ (fun _ _ h => h)
  rintro token next
    ⟨rfl, hBinary, between, hFirst, hSecond⟩
  rw [ends_bind]
  refine (hOperand _ next).mono ?_ (fun _ _ h => h)
  rintro right after ⟨hRight, hPrecedence⟩
  rcases Level.exists_takes hBinary with ⟨wider, hTakes⟩
  have hWider := (Level.takes_iff.mp hTakes).2
  rw [hWider] at hAbove hNext hPrecedence hRight
  rw [Level.above_precedence] at hRight
  rcases hLeft.loosened hNext with
    ⟨leftPhrase, rfl, hLeftReading⟩
  rcases hRight with ⟨rightPhrase, rfl, hRightReading⟩
  exact
    ⟨wider, Level.above_precedence_le hAbove,
      ⟨.binary state.next hTakes leftPhrase rightPhrase, rfl,
        .binary hTakes hLeftReading hFirst hSecond
          hRightReading⟩,
      hPrecedence⟩

/-
  An operand with the operators behind it is read.  While the
  loop runs, the phrase read so far has a level that no
  operator behind it binds more tightly than.
-/
theorem climb_read
    {operand : Int → Parser Expr}
    (hOperand : ReadsAbove operand)
    (minimum : Int)
    {before state : State}
    {left : Expr}
    (hLeft : HasRead .operand before left state) :
    (climb operand minimum left).Ends state
      (fun node after =>
        HasRead (.above minimum) before node after ∧
          after.next.kind.precedence ≤ minimum)
      (fun _ _ => True) := by
  have hStart : HasReadAbove minimum before left state :=
    ⟨.operand, Level.precedence_le_operand _, hLeft,
      Kind.precedence_le_operand _⟩
  refine (climb_ends ?_ hStart).mono ?_ (fun _ _ h => h)
  · intro node middle hNode hAbove
    exact extend_read hOperand hNode hAbove
  · rintro node after ⟨⟨level, hLevel, hNode, _⟩, hNext⟩
    exact ⟨hNode.loosened hLevel, hNext⟩

/- A sign in front of an operand is read. -/
theorem signed_read
    {operand : Parser Expr}
    (hOperand :
      ∀ state,
        operand.Ends state
          (HasRead .operand state)
          (fun _ _ => True))
    {state : State}
    (hSign : state.token.kind.IsSign) :
    (do
      advance
      let inner ← operand
      record (.sign state.token.literal)
      pure (Expr.ofSign state.token inner)).Ends state
      (HasRead .operand state)
      (fun _ _ => True) := by
  rw [ends_bind]
  apply ends_advance_moves
  intro middle hMoves
  rw [ends_bind]
  refine (hOperand middle).mono ?_ (fun _ _ h => h)
  rintro inner after ⟨phrase, rfl, hReading⟩
  exact
    ⟨.signed state.token hSign phrase, rfl,
      .signed hSign hMoves hReading⟩

/- A sum in parentheses is read. -/
theorem group_read
    {operand : Parser Expr}
    (hOperand :
      ∀ state,
        operand.Ends state
          (HasRead .sum state)
          (fun _ _ => True))
    {state : State}
    (hOpening : state.token.kind = .leftParen) :
    (do
      enterGroup
      advance
      let inner ← operand
      expect .rightParen
      leaveGroup
      pure inner).Ends state
      (HasRead .operand state)
      (fun _ _ => True) := by
  rw [ends_bind, ends_enterGroup, ends_bind]
  apply ends_advance_moves
  intro middle hMoves
  rw [ends_bind]
  refine (hOperand middle).mono ?_ (fun _ _ h => h)
  rintro inner last ⟨phrase, rfl, hReading⟩
  rw [ends_bind]
  refine (expect_moves .rightParen last).mono ?_
    (fun _ _ h => h)
  rintro _ after ⟨hClosing, hLast⟩
  exact
    ⟨.group state.token last.next hOpening hClosing phrase,
      rfl, .group hOpening hClosing hMoves hReading hLast⟩

/-
  What is answered in a given room has been read.  The
  induction is on the room, which every call makes smaller.
-/
theorem calls_read
    (room : Nat) :
    ReadsAbove (expression room) ∧
      (∀ state,
        (primary room).Ends state
          (HasRead .operand state)
          (fun _ _ => True)) ∧
      (∀ state : State, state.token.kind = .leftParen →
        (group room).Ends state
          (HasRead .operand state)
          (fun _ _ => True)) := by
  induction room with
  | zero =>
      refine ⟨?_, ?_, ?_⟩
      · intro minimum state
        trivial
      · intro state
        trivial
      · intro state _
        trivial
  | succ room ih =>
      rcases ih with ⟨ihExpression, ihPrimary, ihGroup⟩
      refine ⟨?_, ?_, ?_⟩
      · intro minimum state
        rw [expression, ends_bind]
        refine (ihPrimary state).mono ?_ (fun _ _ h => h)
        intro left after hLeft
        exact climb_read ihExpression minimum hLeft
      · intro state
        by_cases hOpening : state.token.kind = .leftParen
        · rw [primary_ends_of_opening hOpening]
          exact ihGroup state hOpening
        · by_cases hSign : state.token.kind.IsSign
          · rw [primary_ends_of_sign hSign]
            refine signed_read ?_ hSign
            intro middle
            refine
              (ihExpression Kind.signPrecedence
                middle).mono ?_ (fun _ _ h => h)
            exact fun _ _ h => h.1
          · by_cases hNumber : state.token.kind = .number
            · rw [primary_ends_of_number hNumber]
              exact
                ⟨.number state.token hNumber, rfl,
                  .number state hNumber⟩
            · rw [primary_ends_of_missing hOpening hSign
                hNumber]
              trivial
      · intro state hOpening
        refine group_read ?_ hOpening
        intro middle
        refine (ihExpression 0 middle).mono ?_
          (fun _ _ h => h)
        exact fun _ _ h => h.1

end Parser

end ArithExpr
