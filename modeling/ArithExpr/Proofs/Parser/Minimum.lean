import ArithExpr.Parser.Session
import ArithExpr.Proofs.Parser.Termination

/-
  What an expression is, whatever its minimum.

  From any state and with any minimum, an expression in enough
  room either fails or is read to a token that does not bind
  more tightly than the minimum.  The current tokens on the
  way are derived as its tree, its operators outside groups
  and signs bind more tightly than the minimum, and it ends in
  a number or a closing parenthesis.  Every token binds more
  tightly than minus two, so that with a minimum as low as
  that nothing is read.

  Key definitions include:
    * `Phrase.operators`

  Main declarations:
    * `Phrase.lt_precedence_of_mem_operators`
    * `Phrase.kind_getLast?`
    * `Parser.Derived.exists_currents`
    * `Parser.expression_above_minimum`
-/

------------------------------------------------------------
-- Operators of Phrases
------------------------------------------------------------

namespace ArithExpr

namespace Phrase

/-
  The operators of a phrase, those in groups and in operands
  of signs left out.
-/
def operators {level : Level} : Phrase level → List Token
| .number _ _ => []
| .signed _ _ _ => []
| .group _ _ _ _ _ => []
| .single _ inner => inner.operators
| .binary token _ left right =>
    left.operators ++ token :: right.operators

/-
  The operators of a phrase belong to its level or to tighter
  ones.
-/
theorem exists_takes_of_mem_operators
    {level : Level}
    (phrase : Phrase level) :
    ∀ token ∈ phrase.operators,
      ∃ tighter : Level,
        tighter.Takes token.kind ∧
          level.precedence ≤ tighter.precedence := by
  induction phrase with
  | number token hKind => exact nofun
  | signed token hSign inner ih => exact nofun
  | group opening closing hOpening hClosing inner ih =>
      exact nofun
  | single hLevel inner ih =>
      intro token hMem
      rcases ih token hMem with ⟨tighter, hTakes, hLe⟩
      have hLess := Level.precedence_lt_tighter hLevel
      exact ⟨tighter, hTakes, by omega⟩
  | @binary level token hTakes left right ihLeft ihRight =>
      intro other hMem
      rcases List.mem_append.mp hMem with hMem | hMem
      · exact ihLeft other hMem
      · rcases List.mem_cons.mp hMem with rfl | hMem
        · exact ⟨level, hTakes, Int.le_refl _⟩
        · rcases ihRight other hMem with
            ⟨tighter, hTakes', hLe⟩
          have hLess :=
            Level.precedence_lt_tighter
              (Level.ne_operand_of_takes hTakes)
          exact ⟨tighter, hTakes', by omega⟩

/-
  The operators of a phrase above a minimum bind more tightly
  than the minimum.
-/
theorem lt_precedence_of_mem_operators
    {minimum : Int}
    (phrase : Phrase (.above minimum)) :
    ∀ token ∈ phrase.operators,
      minimum < token.kind.precedence := by
  intro token hMem
  rcases phrase.exists_takes_of_mem_operators token hMem with
    ⟨level, hTakes, hLe⟩
  rw [(Level.takes_iff.mp hTakes).2]
  exact
    Level.lt_of_above_precedence_le
      (Level.ne_operand_of_takes hTakes) hLe

/- Tokens in front of a phrase do not change its last one. -/
theorem getLast?_append_tokens
    {level : Level}
    (front : List Token)
    (phrase : Phrase level) :
    (front ++ phrase.tokens).getLast? =
      phrase.tokens.getLast? := by
  rw [List.getLast?_append,
    List.getLast?_eq_some_getLast phrase.tokens_ne_nil,
    Option.some_or]

/- A phrase ends in a number or in a closing parenthesis. -/
theorem kind_getLast?
    {level : Level}
    (phrase : Phrase level) :
    ∀ token ∈ phrase.tokens.getLast?,
      token.kind = .number ∨ token.kind = .rightParen := by
  induction phrase with
  | number token hKind =>
      rintro _ ⟨⟩
      exact .inl hKind
  | signed token hSign inner ih =>
      change ∀ other ∈ ([token] ++ inner.tokens).getLast?, _
      rwa [getLast?_append_tokens]
  | group opening closing hOpening hClosing inner ih =>
      intro token hMem
      rw [tokens, ← List.cons_append,
        List.getLast?_concat] at hMem
      cases hMem
      exact .inr hClosing
  | single hLevel inner ih => exact ih
  | binary token hTakes left right ihLeft ihRight =>
      rw [tokens, List.append_cons, getLast?_append_tokens]
      exact ihRight

/-
  A phrase belongs to every looser level, with the same tokens
  and operators.
-/
theorem exists_loosened_operators
    {looser level : Level}
    (phrase : Phrase level)
    (hLooser : looser.precedence ≤ level.precedence) :
    ∃ loosened : Phrase looser,
      loosened.tree = phrase.tree ∧
        loosened.tokens = phrase.tokens ∧
        loosened.operators = phrase.operators :=
  exists_loosened_of
    (fun other =>
      other.tree = phrase.tree ∧
        other.tokens = phrase.tokens ∧
        other.operators = phrase.operators)
    phrase hLooser (fun _ _ hInner => hInner)
    ⟨rfl, rfl, rfl⟩

end Phrase

/- Every token binds more tightly than minus two. -/
theorem Kind.neg_one_le_precedence
    (kind : Kind) :
    -1 ≤ kind.precedence := by
  cases kind <;> decide

------------------------------------------------------------
-- Expressions above a Minimum
------------------------------------------------------------

namespace Parser

/-
  What is read above a minimum are the current tokens on the
  way, the last of which is current behind it.
-/
theorem Derived.exists_currents
    {level : Level}
    {state after : State}
    {node : Expr}
    {moves : Nat}
    (h : Derived level state node after)
    (hMoves : after.window = state.window.after moves) :
    ∃ phrase : Phrase level,
      phrase.tree = node ∧
        phrase.tokens = state.window.currents moves ∧
        phrase.tokens.getLast? = some after.token := by
  rcases h with ⟨_, phrase, hTree, hCovers⟩
  have hToken :
      after.token = (state.window.after moves).token :=
    congrArg Window.token hMoves
  rw [hMoves] at hCovers
  have hTokens :=
    hCovers.eq_currents phrase.kind_ne_endOfText
  refine ⟨phrase, hTree, hTokens, ?_⟩
  rw [hTokens, hToken]
  exact state.window.getLast?_currents moves

/-
  With any minimum and from any state, reading an expression
  comes to an end in enough room.  Where it answers, no token
  that binds more tightly than the minimum follows, the groups
  are as before, and the current tokens during its moves are
  derived as the answer, with operators that bind more tightly
  than the minimum and a number or a closing parenthesis at
  the end.  With a minimum below minus one it never answers.
-/
theorem expression_above_minimum
    (minimum : Int)
    (state : State) :
    (∃ enough, ∀ room, enough ≤ room →
      (expression room minimum).run state =
          (expression enough minimum).run state ∧
        ((expression room minimum).run state).1 ≠
          .error .tooDeep) ∧
      (∀ room node after,
        (expression room minimum).run state =
            (.ok node, after) →
          let moves :=
            (expression room minimum).asks state
          after.window = state.window.after moves ∧
            after.next.kind.precedence ≤ minimum ∧
            after.depth = state.depth ∧
            ∃ phrase : Phrase .sum,
              phrase.tree = node ∧
                phrase.tokens =
                  state.window.currents moves ∧
                (∀ token ∈ phrase.operators,
                  minimum < token.kind.precedence) ∧
                phrase.tokens.getLast? = some after.token ∧
                (after.token.kind = .number ∨
                  after.token.kind = .rightParen)) ∧
      (minimum ≤ -2 →
        ∀ room, ∃ fault after,
          (expression room minimum).run state =
            (.error fault, after)) := by
  have hSound (room : Nat) :=
    (calls_derived room).1 minimum state
  refine ⟨expression_settles minimum state, ?_, ?_⟩
  · intro room node after hRun moves
    have hWindow := expression_window room minimum state
    rw [hRun] at hWindow
    rcases (ends_of_ok hRun).mp (hSound room) with
      ⟨hDerived, hNext⟩
    rcases hDerived.exists_currents hWindow with
      ⟨inner, rfl, hTokens, hLast⟩
    rcases inner.exists_loosened_operators
        (Level.sum_precedence_le _) with
      ⟨phrase, hTree, hSame, hOperators⟩
    refine
      ⟨hWindow, hNext, hDerived.1, phrase, hTree, ?_, ?_, ?_,
        ?_⟩
    · rw [hSame, hTokens]
    · rw [hOperators]
      exact inner.lt_precedence_of_mem_operators
    · rw [hSame, hLast]
    · exact inner.kind_getLast? _ hLast
  · intro hMinimum room
    rcases hRun : (expression room minimum).run state with
      ⟨fault | node, after⟩
    · exact ⟨fault, after, rfl⟩
    · have hNext := ((ends_of_ok hRun).mp (hSound room)).2
      have hLeast := after.next.kind.neg_one_le_precedence
      omega

/-
  Above a sum only the product in front of it is read, and
  with a minimum of minus two the loop goes on to the fault
  behind the last number.
-/
theorem expression_above_sum :
    let state := (ofText "1*2+3").2
    (∃ node after,
      ((expression 9 1).run state) = (.ok node, after) ∧
        after.next.kind.precedence ≤ 1 ∧
        ∃ phrase : Phrase .sum,
          phrase.tree = node ∧
            phrase.tokens.map Token.literal =
              ["1", "*", "2"]) ∧
      ∃ fault after,
        (expression 9 (-2)).run state =
          (.error fault, after) := by
  intro state
  rcases expression_above_minimum 1 state with
    ⟨_, hReads, _⟩
  have hIsOk :
      ((expression 9 1).run state).1.isOk = true := by
    decide +kernel
  have hCurrents :
      (state.window.currents
          ((expression 9 1).asks state)).map
        Token.literal = ["1", "*", "2"] := by
    decide +kernel
  constructor
  · rcases hRun : (expression 9 1).run state with
      ⟨fault | node, after⟩
    · rw [hRun] at hIsOk
      cases hIsOk
    · rcases hReads 9 node after hRun with
        ⟨_, hNext, _, phrase, hTree, hTokens, _⟩
      rw [← hTokens] at hCurrents
      exact
        ⟨node, after, rfl, hNext, phrase, hTree, hCurrents⟩
  · exact
      (expression_above_minimum (-2) state).2.2
        (by decide) 9

end Parser

end ArithExpr
