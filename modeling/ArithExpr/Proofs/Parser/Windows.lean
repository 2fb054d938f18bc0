import ArithExpr.Proofs.Parser.Soundness
import ArithExpr.Proofs.Parser.Steps

/-
  The windows that a parser goes through.

  Every move asks the lexer for one more token, and the window
  behind it depends only on the window before it.  As long as
  the current token is not the end of the text, a move uses up
  some of what is left, so that no window comes twice.  The
  current tokens that an expression goes through are therefore
  those of the first windows, as many as it makes moves.

  Key definitions include:
    * `Parser.Window.advanced`
    * `Parser.Window.after`
    * `Parser.Window.currents`
    * `Parser.Window.unread`
    * `Parser.asks`

  Main declarations:
    * `Parser.Window.unread_advanced`
    * `Parser.Window.after_injective`
    * `Parser.Window.Covers.eq_currents`
    * `Parser.expression_window`
-/

------------------------------------------------------------
-- Windows after Moves
------------------------------------------------------------

namespace ArithExpr

namespace Parser

namespace Window

/-
  The window after one more token has been asked for.  Behind
  a fault the next token is the current one as well.
-/
def advanced (window : Window) : Window :=
  match window.lexer.next with
  | (.ok token, lexer) => window.moved token lexer
  | (.error _, lexer) => ⟨lexer, window.next, window.next⟩

/- The window after a number of moves. -/
def after (window : Window) : Nat → Window
| 0 => window
| moves + 1 => (window.after moves).advanced

/-
  The values that the current token takes one after another
  during a number of moves, from the one before the first move
  to the one after the last.
-/
def currents
    (window : Window)
    (moves : Nat) : List Token :=
  (List.range (moves + 1)).map fun move =>
    (window.after move).token

/- A shift leads to the window after one move. -/
theorem Shifts.advanced_eq
    {window next : Window}
    (h : window.Shifts next) :
    window.advanced = next := by
  rcases h with ⟨token, lexer, hNext, rfl⟩
  unfold advanced
  rw [hNext]

/- The first of some moves may be made before the others. -/
theorem after_succ
    (window : Window)
    (moves : Nat) :
    window.after (moves + 1) =
      window.advanced.after moves := by
  induction moves with
  | zero => rfl
  | succ moves ih =>
      rw [after, ih]
      rfl

/- Moves are made one number after the other. -/
theorem after_add
    (window : Window)
    (first second : Nat) :
    window.after (first + second) =
      (window.after first).after second := by
  induction second with
  | zero => rfl
  | succ second ih =>
      rw [← Nat.add_assoc, after, ih]
      rfl

/- The first current token stands in front of the others. -/
theorem currents_succ
    (window : Window)
    (moves : Nat) :
    window.currents (moves + 1) =
      window.token :: window.advanced.currents moves := by
  unfold currents
  rw [List.range_succ_eq_map, List.map_cons, List.map_map]
  congr 1
  apply List.map_congr_left
  intro move _
  exact congrArg Window.token (window.after_succ move)

/- The last current token is the one after all moves. -/
theorem getLast?_currents
    (window : Window)
    (moves : Nat) :
    (window.currents moves).getLast? =
      some (window.after moves).token := by
  unfold currents
  rw [List.range_succ, List.map_append,
    List.getLast?_append]
  rfl

end Window

/- A parser that moves on moves its window on. -/
theorem State.advance_window
    (state : State) :
    state.advance.2.window = state.window.advanced := by
  have hLexer : state.window.lexer = state.lexer := rfl
  unfold Window.advanced
  rw [hLexer]
  rcases hNext : state.lexer.next with
    ⟨fault | token, lexer⟩
  · rw [State.advance_of_error hNext]
    rfl
  · rw [State.advance_of_ok hNext]
    exact State.moved_window _ _ _

------------------------------------------------------------
-- What Is Left
------------------------------------------------------------

namespace Window

/-
  How much a window has left: the characters behind its lexer,
  and those of its two tokens that are not the end.
-/
def unread (window : Window) : Nat :=
  window.lexer.rest.length +
    (if window.next.kind = .endOfText then 0 else 1) +
    (if window.token.kind = .endOfText then 0 else 1)

end Window

/- A parser has left what its window has left. -/
theorem State.unread_window
    (state : State) :
    state.window.unread =
      state.remaining +
        if state.token.kind = .endOfText then 0 else 1 :=
  rfl

/- A move leaves no more than stood behind the current token. -/
theorem State.advance_unread_le
    (state : State) :
    state.advance.2.window.unread ≤ state.remaining := by
  rw [State.unread_window, State.advance_token]
  split
  · exact state.advance_remaining_le
  · next hNext => exact State.advance_remaining_lt hNext

namespace Window

/-
  A move leaves no more than there was, and less if the
  current token is not the end.
-/
theorem unread_advanced
    (window : Window) :
    window.advanced.unread +
        (if window.token.kind = .endOfText then 0 else 1) ≤
      window.unread := by
  let state : State :=
    ⟨window.lexer, window.token, window.next, 0, #[], 0⟩
  have hLe := state.advance_unread_le
  rw [State.advance_window] at hLe
  exact Nat.add_le_add_right hLe _

/- Moves never lead back to a token other than the end. -/
theorem unread_after_lt
    {window : Window}
    (h : window.token.kind ≠ .endOfText)
    (moves : Nat) :
    (window.after (moves + 1)).unread < window.unread := by
  induction moves with
  | zero =>
      have hLess := window.unread_advanced
      rw [if_neg h] at hLess
      exact hLess
  | succ moves ih =>
      have hLe := (window.after (moves + 1)).unread_advanced
      exact
        Nat.lt_of_le_of_lt
          (Nat.le_trans (Nat.le_add_right _ _) hLe) ih

/- A later window differs from one before the end. -/
theorem after_ne_of_lt
    {window : Window}
    {first second : Nat}
    (hToken :
      (window.after first).token.kind ≠ .endOfText)
    (hLess : first < second) :
    window.after second ≠ window.after first := by
  rcases Nat.exists_eq_add_of_lt hLess with ⟨moves, rfl⟩
  intro hSame
  have hUnread := unread_after_lt hToken moves
  rw [← after_add, ← Nat.add_assoc, hSame] at hUnread
  exact Nat.lt_irrefl _ hUnread

/- Before the end of the text no window comes twice. -/
theorem after_injective
    {window : Window}
    {first second : Nat}
    (hToken :
      (window.after first).token.kind ≠ .endOfText)
    (h : window.after first = window.after second) :
    first = second := by
  rcases Nat.lt_trichotomy first second with
    hLess | hSame | hMore
  · exact absurd h.symm (after_ne_of_lt hToken hLess)
  · exact hSame
  · rw [h] at hToken
    exact absurd h (after_ne_of_lt hToken hMore)

------------------------------------------------------------
-- Current Tokens
------------------------------------------------------------

/- Tokens that are gone through are current one by one. -/
theorem Covers.exists_moves
    {window last : Window}
    {tokens : List Token}
    (h : window.Covers tokens last) :
    ∃ moves,
      tokens = window.currents moves ∧
        last = window.after moves := by
  induction h with
  | here window => exact ⟨0, rfl, rfl⟩
  | @shift window middle last tokens hShift _ ih =>
      rcases ih with ⟨moves, rfl, rfl⟩
      rw [← hShift.advanced_eq]
      exact
        ⟨moves + 1, (window.currents_succ moves).symm,
          (window.after_succ moves).symm⟩

/-
  Tokens of a phrase that are gone through in a number of
  moves are the current tokens during these moves.
-/
theorem Covers.eq_currents
    {window : Window}
    {tokens : List Token}
    {moves : Nat}
    (h : window.Covers tokens (window.after moves))
    (hKinds : ∀ token ∈ tokens, token.kind ≠ .endOfText) :
    tokens = window.currents moves := by
  rcases h.exists_moves with ⟨others, rfl, hAfter⟩
  -- the last token is not the end, so the numbers agree
  have hLast :
      (window.after others).token ∈ window.currents others :=
    List.mem_of_getLast? (window.getLast?_currents others)
  rw [after_injective (hKinds _ hLast) hAfter.symm]

end Window

------------------------------------------------------------
-- Windows of Expressions
------------------------------------------------------------

/-
  How many tokens an action asks the lexer for from a state,
  whether it answers or fails.
-/
def asks
    {α : Type}
    (action : Parser α)
    (state : State) : Nat :=
  (action.run state).2.asked - state.asked

/-
  However reading an expression ends, its window is as many
  moves behind the first one as tokens have been asked for.
-/
theorem expression_window
    (room : Nat)
    (minimum : Int)
    (state : State) :
    ((expression room minimum).run state).2.window =
      state.window.after
        ((expression room minimum).asks state) := by
  let invariant (other : State) : Prop :=
    ∃ moves, other.asked = state.asked + moves ∧
      other.window = state.window.after moves
  have hAdvance :
      ∀ other, invariant other →
        advance.Ends other
          (fun _ => invariant) (fun _ => invariant) := by
    rintro other ⟨moves, hAsked, hOther⟩
    have hAfter :
        other.advance.2.window =
          state.window.after (moves + 1) := by
      rw [State.advance_window, hOther, Window.after]
    have hOne :
        other.asked + 1 = state.asked + (moves + 1) := by
      rw [hAsked, Nat.add_assoc]
    apply ends_advance
    · intro token lexer hNext
      rw [State.advance_of_ok hNext] at hAfter
      exact
        ⟨moves + 1, (State.moved_asked ..).trans hOne, hAfter⟩
    · intro fault lexer hNext
      rw [State.advance_of_error hNext] at hAfter
      exact ⟨moves + 1, hOne, hAfter⟩
  let pace : Lockstep :=
    .alone invariant invariant (fun _ => True)
      (fun _ _ => trivial) (fun _ h => h) hAdvance
  have hNests : pace.Nests :=
    Lockstep.nests_alone
      (fun _ _ h => h) (fun _ _ h _ _ => h)
  have hStart : invariant state := ⟨0, rfl, rfl⟩
  rcases ((hNests.calls room 0 (.inl rfl)).1 minimum).run hStart
    with ⟨moves, hAsked, hWindow⟩
  rw [asks, hWindow]
  change _ =
    state.window.after
      (((expression room minimum).run state).2.asked -
        state.asked)
  rw [show ((expression room minimum).run state).2.asked =
    state.asked + moves from hAsked, Nat.add_sub_cancel_left]

end Parser

end ArithExpr
