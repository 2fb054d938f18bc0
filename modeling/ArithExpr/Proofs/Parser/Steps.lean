import ArithExpr.Proofs.Grammar.Phrase
import ArithExpr.Proofs.Parser.Lockstep
import ArithExpr.Proofs.Parser.Start

/-
  From single steps of the parser to runs on whole texts.

  A predicate that holds in front of an operand and one that
  holds behind it are kept by every call, whatever it calls in
  turn, once every single step leads from one to the other.
  The number of open groups goes with them.

  Key definitions include:
    * `Parser.Keeps`
    * `tokensAsked`

  Main declarations:
    * `Parser.Keeps.calls`
    * `Parser.Keeps.parse`
    * `parseRun_lexer_eq`
-/

------------------------------------------------------------
-- Steps
------------------------------------------------------------

namespace ArithExpr

namespace Parser

/-
  What every single step of the parser keeps.  One predicate
  holds in front of an operand and one behind it, each with
  the number of groups that are open.
-/
structure Keeps
    (before behind : Nat → State → Prop)
    (fails : ParseError → State → Prop) : Prop where
  tooDeep :
    ∀ {opened state},
      before opened state →
        fails .tooDeep state
  number :
    ∀ {opened state},
      before opened state →
        state.token.kind = .number →
          behind opened state
  missing :
    ∀ {opened state},
      before opened state →
        state.token.kind ≠ .leftParen →
        ¬ state.token.kind.IsSign →
        state.token.kind ≠ .number →
          fails
            (if state.token.kind = .endOfText ∧
                0 < state.depth then
              .unmatchedParenthesis state.token
            else
              .unexpectedToken "an expression" state.token)
            state
  signed :
    ∀ {opened state},
      before opened state →
        state.token.kind.IsSign →
          advance.Ends state
            (fun _ => before opened) fails
  opening :
    ∀ {opened state},
      before opened state →
        state.token.kind = .leftParen →
          advance.Ends
            { state with depth := state.depth + 1 }
            (fun _ => before (opened + 1)) fails
  operator :
    ∀ {opened state},
      behind opened state →
        0 < state.next.kind.precedence →
          operator.Ends state
            (fun token after =>
              0 ≤ token.kind.precedence ∧
                before opened after)
            fails
  closing :
    ∀ {opened state},
      behind (opened + 1) state →
        state.next.kind.precedence ≤ 0 →
          (expect .rightParen).Ends state
            (fun _ after =>
              behind opened
                { after with depth := after.depth - 1 })
            fails
  noted :
    ∀ {opened state},
      behind opened state →
        ∀ entry : Record, entry.token? = none →
          behind opened (state.record entry)

------------------------------------------------------------
-- Calls
------------------------------------------------------------

namespace Keeps

variable {before behind : Nat → State → Prop}
variable {fails : ParseError → State → Prop}

/- One more operator with its right operand keeps it. -/
theorem extend
    (h : Keeps before behind fails)
    {operand : Int → Parser Expr}
    (hOperand :
      ∀ minimum opened state, 0 ≤ minimum →
        before opened state →
          (operand minimum).Ends state
            (fun _ => behind opened) fails)
    (left : Expr)
    {opened : Nat}
    {state : State}
    (hOperator :
      Parser.operator.Ends state
        (fun token after =>
          0 ≤ token.kind.precedence ∧
            before opened after)
        fails) :
    (extend operand left).Ends state
      (fun _ => behind opened) fails := by
  rw [Parser.extend, ends_bind]
  refine hOperator.mono ?_ (fun _ _ h => h)
  intro token middle hMiddle
  rw [ends_bind]
  refine
    (hOperand _ opened middle hMiddle.1
      hMiddle.2).mono ?_ (fun _ _ h => h)
  intro right after hAfter
  exact h.noted hAfter _ rfl

/- An operand keeps what its calls keep. -/
theorem primary_succ
    (h : Keeps before behind fails)
    {room : Nat}
    (hExpression :
      ∀ minimum opened state, 0 ≤ minimum →
        before opened state →
          (expression room minimum).Ends state
            (fun _ => behind opened) fails)
    (hGroup :
      ∀ opened state, before opened state →
        state.token.kind = .leftParen →
          (group room).Ends state
            (fun _ => behind opened) fails)
    {opened : Nat}
    {state : State}
    (hBefore : before opened state) :
    (primary (room + 1)).Ends state
      (fun _ => behind opened) fails := by
  rw [primary, ends_bind, ends_current, ends_ite]
  split
  · next hOpening =>
      exact hGroup opened state hBefore hOpening
  · next hOpening =>
      rw [ends_ite]
      split
      · next hSign =>
          rw [ends_bind]
          refine (h.signed hBefore hSign).mono ?_
            (fun _ _ h => h)
          intro _ middle hMiddle
          rw [ends_bind]
          refine
            (hExpression Kind.signPrecedence opened
              middle (by decide) hMiddle).mono ?_
              (fun _ _ h => h)
          intro inner after hAfter
          exact h.noted hAfter _ rfl
      · next hSign =>
          rw [ends_ite]
          split
          · next hNumber =>
              rw [Expr.ofNumber_eq hNumber]
              exact h.number hBefore hNumber
          · next hNumber =>
              have hMissing :=
                h.missing hBefore hOpening hSign hNumber
              rw [ends_bind, ends_openGroups,
                ends_ite]
              split
              · next hEnd =>
                  rw [if_pos hEnd] at hMissing
                  exact hMissing
              · next hEnd =>
                  rw [if_neg hEnd] at hMissing
                  exact hMissing

/- A group keeps what is kept inside it. -/
theorem group_succ
    (h : Keeps before behind fails)
    {room : Nat}
    (hExpression :
      ∀ opened state, before opened state →
        (expression room 0).Ends state
          (fun _ after =>
            behind opened after ∧
              after.next.kind.precedence ≤ 0)
          fails)
    {opened : Nat}
    {state : State}
    (hBefore : before opened state)
    (hOpening : state.token.kind = .leftParen) :
    (group (room + 1)).Ends state
      (fun _ => behind opened) fails := by
  rw [group, ends_bind, ends_enterGroup,
    ends_bind]
  refine (h.opening hBefore hOpening).mono ?_
    (fun _ _ h => h)
  intro _ middle hMiddle
  rw [ends_bind]
  refine
    (hExpression _ middle hMiddle).mono ?_
      (fun _ _ h => h)
  intro inner last hLast
  rw [ends_bind]
  refine (h.closing hLast.1 hLast.2).mono ?_
    (fun _ _ h => h)
  intro _ after hAfter
  exact hAfter

/-
  What every single step keeps, every call keeps.  The
  induction is on the room, which every call makes smaller.
-/
theorem calls
    (h : Keeps before behind fails)
    (room : Nat) :
    (∀ minimum opened state, 0 ≤ minimum →
      before opened state →
        (expression room minimum).Ends state
          (fun _ after =>
            behind opened after ∧
              after.next.kind.precedence ≤ minimum)
          fails) ∧
      (∀ opened state, before opened state →
        (primary room).Ends state
          (fun _ => behind opened) fails) ∧
      (∀ opened state, before opened state →
        state.token.kind = .leftParen →
          (group room).Ends state
            (fun _ => behind opened) fails) := by
  induction room with
  | zero =>
      refine ⟨?_, ?_, ?_⟩
      · intro minimum opened state _ hBefore
        exact h.tooDeep hBefore
      · intro opened state hBefore
        exact h.tooDeep hBefore
      · intro opened state hBefore _
        exact h.tooDeep hBefore
  | succ room ih =>
      rcases ih with ⟨ihExpression, ihPrimary, ihGroup⟩
      have hOperand :
          ∀ minimum opened state, 0 ≤ minimum →
            before opened state →
              (expression room minimum).Ends state
                (fun _ => behind opened) fails := by
        intro minimum opened state hMinimum hBefore
        exact
          (ihExpression minimum opened state hMinimum
            hBefore).first
      refine ⟨?_, ?_, ?_⟩
      · intro minimum opened state hMinimum hBefore
        rw [expression, ends_bind]
        refine
          (ihPrimary opened state hBefore).mono ?_
            (fun _ _ h => h)
        intro left middle hMiddle
        refine climb_ends ?_ hMiddle
        intro node state hBehind hAbove
        have hPositive := Int.lt_of_le_of_lt hMinimum hAbove
        exact
          h.extend hOperand node
            (h.operator hBehind hPositive)
      · intro opened state hBefore
        exact h.primary_succ hOperand ihGroup hBefore
      · intro opened state hBefore hOpening
        refine h.group_succ ?_ hBefore hOpening
        intro opened state hBefore
        exact
          ihExpression 0 opened state (Int.le_refl 0)
            hBefore

/-
  A whole text keeps what every step keeps, if the first two
  tokens and the end of the text do.
-/
theorem parse
    (h : Keeps before behind fails)
    {state : State}
    {answers : State → Prop}
    (hStart : start.Ends state (fun _ => before 0) fails)
    (hEnding :
      ∀ state, behind 0 state →
        state.next.kind.precedence ≤ 0 →
          (expect .endOfText).Ends state
            (fun _ => answers) fails)
    (room : Nat) :
    (do
      start
      wholeText room).Ends state (fun _ => answers) fails := by
  rw [ends_bind]
  refine hStart.mono ?_ (fun _ _ h => h)
  intro _ middle hMiddle
  rw [wholeText, ends_bind]
  refine
    ((h.calls _).1 0 0 middle (Int.le_refl 0) hMiddle).mono
      ?_ (fun _ _ h => h)
  intro node last hLast
  rw [ends_bind]
  refine (hEnding last hLast.1 hLast.2).mono ?_
    (fun _ _ h => h)
  intro _ after hAfter
  exact hAfter

end Keeps

end Parser

------------------------------------------------------------
-- Tokens That Were Asked For
------------------------------------------------------------

/-
  How many tokens the lexer is asked for while a text is
  parsed under a limit.
-/
def tokensAsked
    (limit : Nat)
    (text : String) : Nat :=
  (parseRun limit text).2.asked

/-
  However parsing ends, the lexer is left as many tokens
  behind the start of the text as it was asked for.
-/
theorem parseRun_lexer_eq
    (limit : Nat)
    (text : String) :
    (parseRun limit text).2.lexer =
      (Lexer.ofText text).after (tokensAsked limit text) := by
  let invariant (state : Parser.State) : Prop :=
    state.lexer = (Lexer.ofText text).after state.asked
  have hAdvance :
      ∀ state, invariant state →
        Parser.advance.Ends state
          (fun _ => invariant) (fun _ => invariant) := by
    intro state hState
    apply Parser.ends_advance
    · intro token lexer hNext
      rw [hState] at hNext
      change (state.moved token lexer).lexer = _
      rw [Parser.State.moved_lexer,
        Parser.State.moved_asked, Lexer.after, hNext]
    · intro fault lexer hNext
      rw [hState] at hNext
      change lexer =
        (Lexer.ofText text).after (state.asked + 1)
      rw [Lexer.after, hNext]
  let pace : Parser.Lockstep :=
    .alone invariant invariant (fun _ => True)
      (fun _ _ => trivial) (fun _ h => h) hAdvance
  have hNests : pace.Nests :=
    Parser.Lockstep.nests_alone
      (fun _ _ h => h) (fun _ _ h _ _ => h)
  have hStart :
      invariant (.ofLexer (Lexer.ofText text)) :=
    rfl
  have hParse :=
    hNests.parse (Parser.roomWithin limit) 0 (.inl rfl)
  change invariant (parseRun limit text).2
  rw [parseRun]
  exact hParse.run hStart

end ArithExpr
