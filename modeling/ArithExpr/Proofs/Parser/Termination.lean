import ArithExpr.Proofs.Parser.Room
import ArithExpr.Proofs.Parser.Windows

/-
  Calls end without a limit.

  A call that makes another one has moved past a token, or is
  a call of `Parser.expression` or `Parser.primary` that makes
  one of the next procedure where it stands.  So the calls
  that are nested in a call are bounded by what its window has
  left, and there is room enough for all of them.  What a call
  comes to in enough room it comes to in any more room.

  Key definitions include:
    * `Parser.Procedure.rank`
    * `Parser.Call.rank`
    * `Parser.Call.Opens`

  Main declarations:
    * `Parser.Call.Makes.rank_lt`
    * `Parser.Call.not_tooDeep_of_rank_lt`
    * `Parser.expression_settles`
-/

------------------------------------------------------------
-- Moves Between Calls
------------------------------------------------------------

namespace ArithExpr

namespace Parser

/- What a parser moves to is the state behind its move. -/
theorem State.Moves.advance_eq
    {before after : State}
    (h : before.Moves after) :
    before.advance.2 = after := by
  rcases h with ⟨token, lexer, hNext, rfl⟩
  rw [State.advance_of_ok hNext]

/-
  Behind an operator there is less than was left in front of
  it, the current token apart.
-/
theorem operator_unread_lt
    {state after : State}
    {token : Token}
    (h : operator.run state = (.ok token, after)) :
    after.window.unread < state.remaining := by
  have hMoves := operator_moves state
  rw [ends_of_ok h] at hMoves
  rcases hMoves with
    ⟨rfl, hBinary, middle, hFirst, hSecond⟩
  have hMiddle := State.advance_remaining_lt (hBinary.ne id)
  have hAfter := middle.advance_unread_le
  rw [hFirst.advance_eq] at hMiddle
  rw [hSecond.advance_eq] at hAfter
  exact Nat.lt_of_le_of_lt hAfter hMiddle

/- A move past a token other than the end leaves less. -/
theorem advance_unread_lt
    {state after : State}
    (hToken : state.token.kind ≠ .endOfText)
    (h : advance.run state = (.ok (), after)) :
    after.window.unread < state.window.unread := by
  have hAfter := state.advance_unread_le
  rw [run_advance] at h
  rw [h] at hAfter
  rw [state.unread_window, if_neg hToken]
  exact Nat.lt_succ_of_le hAfter

------------------------------------------------------------
-- Ranks of Calls
------------------------------------------------------------

/- How many calls a procedure makes at most before a move. -/
def Procedure.rank : Procedure → Nat
| .expression _ => 2
| .primary => 1
| .group => 0

namespace Call

/- A bound on the number of calls that are nested in a call. -/
def rank (call : Call) : Nat :=
  3 * call.state.window.unread + call.procedure.rank

/- A group is entered at its opening parenthesis. -/
def Opens (call : Call) : Prop :=
  call.procedure = .group →
    call.state.token.kind = .leftParen

/- A call has not more left when it comes to its loop. -/
theorem AtLoop.remaining_le
    {room : Nat}
    {minimum : Int}
    {before state : State}
    {left : Expr}
    (h : AtLoop room minimum before left state) :
    state.remaining ≤ before.remaining := by
  induction h with
  | @enter left state hPrimary =>
      have hLe := (primary room).remaining_le before
      rwa [hPrimary] at hLe
  | again _ _ hExtend ih =>
      exact
        Nat.le_trans
          (Nat.le_of_lt (extend_remaining_lt hExtend)) ih

/- A call that is made has a lower rank than its caller. -/
theorem Makes.rank_lt
    {caller callee : Call}
    (hMakes : caller.Makes callee)
    (hOpens : caller.Opens) :
    callee.rank < caller.rank ∧ callee.Opens := by
  cases hMakes with
  | operand => exact ⟨Nat.lt_succ_self _, nofun⟩
  | @rightOperand room minimum before state after left token
      hLoop _ hOperator =>
      have hLess := operator_unread_lt hOperator
      have hLe := hLoop.remaining_le
      have hBefore := before.unread_window
      refine ⟨?_, nofun⟩
      simp only [rank, Procedure.rank]
      omega
  | parenthesis hOpening =>
      exact ⟨Nat.lt_succ_self _, fun _ => hOpening⟩
  | @signed room state after hSign hAdvance =>
      have hLess := advance_unread_lt (hSign.ne id) hAdvance
      refine ⟨?_, nofun⟩
      simp only [rank, Procedure.rank]
      omega
  | @inside room state after hAdvance =>
      have hOpening : state.token.kind = .leftParen :=
        hOpens rfl
      have hToken : state.token.kind ≠ .endOfText := by
        rw [hOpening]
        exact nofun
      have hLess :
          after.window.unread < state.window.unread :=
        @advance_unread_lt
          { state with depth := state.depth + 1 } after
          hToken hAdvance
      refine ⟨?_, nofun⟩
      simp only [rank, Procedure.rank]
      omega

/-
  A call that has more room than its rank is not nested too
  deeply.  The induction is on the room, which every call
  makes smaller, as it does the rank.
-/
theorem not_tooDeep_of_rank_lt
    {call : Call}
    (hOpens : call.Opens)
    (hRoom : call.rank < call.room) :
    ¬ call.Fails .tooDeep := by
  induction hSize : call.room generalizing call with
  | zero => omega
  | succ room ih =>
      intro hFails
      rcases makes_of_tooDeep hFails with
        hZero | ⟨callee, hMakes, hDeep⟩
      · omega
      · have hCallee := hMakes.room_eq
        rcases hMakes.rank_lt hOpens with
          ⟨hLess, hCalleeOpens⟩
        exact
          ih hCalleeOpens (by omega) (by omega) hDeep

end Call

------------------------------------------------------------
-- Expressions in Enough Room
------------------------------------------------------------

/- There is room enough for every expression. -/
theorem expression_not_tooDeep
    {room : Nat}
    {minimum : Int}
    {state : State}
    (hRoom : 3 * state.window.unread + 2 < room) :
    ¬ (expression room minimum).FailsWith .tooDeep state :=
  @Call.not_tooDeep_of_rank_lt
    ⟨.expression minimum, room, state⟩ nofun hRoom

/-
  Reading an expression comes to the same in any room from
  some room on, and is not nested too deeply there.
-/
theorem expression_settles
    (minimum : Int)
    (state : State) :
    ∃ enough, ∀ room, enough ≤ room →
      (expression room minimum).run state =
          (expression enough minimum).run state ∧
        ((expression room minimum).run state).1 ≠
          .error .tooDeep := by
  let enough := 3 * state.window.unread + 3
  have hEnough :
      ¬ (expression enough minimum).FailsWith .tooDeep
        state :=
    expression_not_tooDeep (Nat.lt_succ_self _)
  refine ⟨enough, ?_⟩
  intro room hRoom
  rcases Nat.exists_eq_add_of_le hRoom with ⟨extra, rfl⟩
  have hRoomier := (procedures_approximate enough extra).1
  rcases (hRoomier minimum).cases state with hDeep | hSame
  · exact absurd hDeep hEnough
  · refine ⟨hSame, ?_⟩
    rw [hSame]
    exact fun hFails => hEnough (failsWith_iff.mpr hFails)

end Parser

end ArithExpr
