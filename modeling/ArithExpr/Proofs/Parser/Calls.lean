import ArithExpr.Proofs.Parser.Start

/-
  The calls that are active while a text is parsed.

  `Parser.expression`, `Parser.primary` and `Parser.group`
  call each other.  A call that is made is active until it
  ends, together with the one that made it, and so on back to
  the first call.  A call that fails lets its caller fail with
  the same fault, and a call that is nested too deeply has no
  room or has made one that is.  So a text is nested too
  deeply exactly when as many calls as the limit are active at
  once.

  Key definitions include:
    * `Parser.FailsWith`
    * `Parser.Procedure`
    * `Parser.Call`
    * `Parser.Call.AtLoop`
    * `Parser.Call.Makes`
    * `Parser.Call.Fails`
    * `Parser.Active`

  Main declarations:
    * `Parser.Call.Makes.fails`
    * `Parser.Call.makes_of_tooDeep`
    * `Parser.Active.room_add_length`
    * `parseWithin_eq_tooDeep_iff_active`
-/

------------------------------------------------------------
-- Failing Actions
------------------------------------------------------------

namespace ArithExpr

namespace Parser

variable {α β : Type}

/- An action that is run in a state fails with a fault. -/
def FailsWith
    (action : Parser α)
    (fault : ParseError)
    (state : State) : Prop :=
  action.Ends state
    (fun _ _ => False)
    (fun found _ => found = fault)

/- A run that fails fails with its fault. -/
theorem failsWith_of_error
    {action : Parser α}
    {fault : ParseError}
    {state after : State}
    (hRun : action.run state = (.error fault, after)) :
    action.FailsWith fault state :=
  (ends_of_error hRun).mpr rfl

/- An action fails with what its run comes to. -/
theorem failsWith_iff
    {action : Parser α}
    {fault : ParseError}
    {state : State} :
    action.FailsWith fault state ↔
      (action.run state).1 = .error fault := by
  unfold FailsWith
  rcases hRun : action.run state with ⟨found | answer, after⟩
  · rw [ends_of_error hRun]
    exact (Except.error.injEq found fault).symm.to_iff
  · rw [ends_of_ok hRun]
    exact ⟨nofun, nofun⟩

/- A run that answers does not fail. -/
theorem not_failsWith_of_ok
    {action : Parser α}
    {fault : ParseError}
    {state after : State}
    {answer : α}
    (hRun : action.run state = (.ok answer, after)) :
    ¬ action.FailsWith fault state :=
  (ends_of_ok hRun).mp

/- Where an action fails, any answer may be asked for. -/
theorem FailsWith.ends
    {action : Parser α}
    {fault : ParseError}
    {state : State}
    {answers : α → State → Prop}
    (h : action.FailsWith fault state) :
    action.Ends state answers
      (fun found _ => found = fault) :=
  h.mono (fun _ _ hFalse => hFalse.elim) (fun _ _ h => h)

/- Where the first action fails, both together do. -/
theorem FailsWith.bind
    {first : Parser α}
    {fault : ParseError}
    {state : State}
    (h : first.FailsWith fault state)
    (second : α → Parser β) :
    (first >>= second).FailsWith fault state :=
  (ends_bind _ _ _ _ _).mpr h.ends

------------------------------------------------------------
-- Calls
------------------------------------------------------------

/- The procedures that call each other. -/
inductive Procedure where
| expression (minimum : Int)
| primary
| group

/-
  A procedure that is called, the room that it is given and
  the state that it starts in.
-/
structure Call where
  procedure : Procedure
  room : Nat
  state : State

namespace Call

/- What a call does. -/
def action (call : Call) : Parser Expr :=
  match call.procedure with
  | .expression minimum => expression call.room minimum
  | .primary => primary call.room
  | .group => group call.room

/-
  A call of `expression` that started in one state comes to
  its loop over operators in another one: first with its left
  operand, and then with every operator that it has taken.
-/
inductive AtLoop
    (room : Nat)
    (minimum : Int)
    (before : State) : Expr → State → Prop
| enter
    {left : Expr}
    {state : State}
    (hPrimary :
      (primary room).run before = (.ok left, state)) :
    AtLoop room minimum before left state
| again
    {left node : Expr}
    {state after : State}
    (hLoop : AtLoop room minimum before left state)
    (hLess : minimum < state.next.kind.precedence)
    (hExtend :
      (extend (expression room) left).run state =
        (.ok node, after)) :
    AtLoop room minimum before node after

/- A call makes another one while it is active. -/
inductive Makes : Call → Call → Prop
| operand
    {room : Nat}
    {minimum : Int}
    {state : State} :
    Makes ⟨.expression minimum, room + 1, state⟩
      ⟨.primary, room, state⟩
| rightOperand
    {room : Nat}
    {minimum : Int}
    {before state after : State}
    {left : Expr}
    {token : Token}
    (hLoop : AtLoop room minimum before left state)
    (hLess : minimum < state.next.kind.precedence)
    (hOperator : operator.run state = (.ok token, after)) :
    Makes ⟨.expression minimum, room + 1, before⟩
      ⟨.expression token.kind.precedence, room, after⟩
| parenthesis
    {room : Nat}
    {state : State}
    (hOpening : state.token.kind = .leftParen) :
    Makes ⟨.primary, room + 1, state⟩
      ⟨.group, room, state⟩
| signed
    {room : Nat}
    {state after : State}
    (hSign : state.token.kind.IsSign)
    (hAdvance : advance.run state = (.ok (), after)) :
    Makes ⟨.primary, room + 1, state⟩
      ⟨.expression Kind.signPrecedence, room, after⟩
| inside
    {room : Nat}
    {state after : State}
    (hAdvance :
      advance.run { state with depth := state.depth + 1 } =
        (.ok (), after)) :
    Makes ⟨.group, room + 1, state⟩
      ⟨.expression 0, room, after⟩

/- Every call that is made has one place of room less. -/
theorem Makes.room_eq
    {caller callee : Call}
    (h : caller.Makes callee) :
    caller.room = callee.room + 1 := by
  cases h <;> rfl

/- A call fails with a given fault. -/
def Fails
    (call : Call)
    (fault : ParseError) : Prop :=
  call.action.FailsWith fault call.state

/- A call without room is nested too deeply. -/
theorem fails_of_room_eq_zero
    {call : Call}
    (hRoom : call.room = 0) :
    call.Fails .tooDeep := by
  rcases call with ⟨procedure, room, state⟩
  change room = 0 at hRoom
  subst hRoom
  cases procedure with
  | expression minimum => rfl
  | primary => rfl
  | group => rfl

------------------------------------------------------------
-- Faults of Calls That Are Made
------------------------------------------------------------

/- A call ends as it goes on from its loop. -/
theorem AtLoop.ends_iff
    {room : Nat}
    {minimum : Int}
    {before state : State}
    {node : Expr}
    (h : AtLoop room minimum before node state)
    (answers : Expr → State → Prop)
    (fails : ParseError → State → Prop) :
    (expression (room + 1) minimum).Ends before
        answers fails ↔
      (climb (expression room) minimum node).Ends state
        answers fails := by
  induction h with
  | enter hPrimary =>
      rw [expression, ends_bind, ends_of_ok hPrimary]
  | again _ hLess hExtend ih =>
      rw [ih, climb_ends_of_lt hLess, ends_of_ok hExtend]

/- What a call that is made fails with, its caller does too. -/
theorem Makes.fails
    {caller callee : Call}
    {fault : ParseError}
    (hMakes : caller.Makes callee)
    (hFails : callee.Fails fault) :
    caller.Fails fault := by
  cases hMakes with
  | @operand room minimum state =>
      change (expression (room + 1) minimum).FailsWith fault
        state
      rw [expression]
      exact hFails.bind _
  | @rightOperand room minimum before state after left token
      hLoop hLess hOperator =>
      change (expression (room + 1) minimum).Ends before _ _
      rw [hLoop.ends_iff, climb_ends_of_lt hLess, extend,
        ends_bind, ends_of_ok hOperator, ends_bind]
      exact hFails.ends
  | @parenthesis room state hOpening =>
      exact (primary_ends_of_opening hOpening).mpr hFails
  | @signed room state after hSign hAdvance =>
      apply (primary_ends_of_sign hSign).mpr
      rw [ends_bind, ends_of_ok hAdvance, ends_bind]
      exact hFails.ends
  | @inside room state after hAdvance =>
      change (group (room + 1)).Ends state _ _
      rw [group, ends_bind, ends_enterGroup, ends_bind,
        ends_of_ok hAdvance, ends_bind]
      exact hFails.ends

end Call

end Parser

end ArithExpr

------------------------------------------------------------
-- Causes of Too Deep Nesting
------------------------------------------------------------

namespace ArithExpr

namespace Parser

variable {α : Type}

/- An action that does not nest does not fail for depth. -/
def Shallow (action : Parser α) : Prop :=
  ∀ state,
    action.Ends state
      (fun _ _ => True)
      (fun fault _ => fault ≠ .tooDeep)

/- Moving on fails for lexical faults only. -/
theorem shallow_advance : Shallow advance := by
  intro state
  apply ends_advance
  · intros
    trivial
  · intro fault lexer hNext
    rw [Lexer.next_fault hNext]
    intro hDeep
    cases hDeep

/- Taking an operator does not nest. -/
theorem shallow_operator : Shallow operator := by
  intro state
  rw [operator, ends_bind]
  refine (shallow_advance state).mono ?_ (fun _ _ h => h)
  intro _ middle _
  rw [takeOperator, ends_bind, ends_current, ends_ite]
  split
  · rw [ends_bind]
    exact shallow_advance middle
  · intro hDeep
    cases hDeep

/- Expecting a token does not nest. -/
theorem shallow_expect
    (kind : Kind) :
    Shallow (expect kind) := by
  intro state
  rw [expect, ends_bind, ends_lookahead, ends_ite]
  split
  · exact shallow_advance state
  · rw [ends_ite]
    split
    · intro hDeep
      cases hDeep
    · intro hDeep
      cases hDeep

namespace Call

/-
  A call is too deep because of a call that it makes, if at
  all.
-/
def HasCause
    (call : Call)
    (action : Parser α)
    (state : State) : Prop :=
  action.Ends state
    (fun _ _ => True)
    (fun fault _ =>
      fault = .tooDeep →
        ∃ callee, call.Makes callee ∧ callee.Fails .tooDeep)

/- What does not nest is never the cause. -/
theorem hasCause_of_shallow
    {action : Parser α}
    (call : Call)
    (hShallow : Shallow action)
    (state : State) :
    call.HasCause action state := by
  refine (hShallow state).mono (fun _ _ h => h) ?_
  intro fault _ hFault hDeep
  exact absurd hDeep hFault

/- A call that is made may be the cause. -/
theorem Makes.hasCause
    {call callee : Call}
    (hMakes : call.Makes callee) :
    call.HasCause callee.action callee.state := by
  unfold HasCause
  rcases hRun : callee.action.run callee.state with
    ⟨fault | node, after⟩
  · rw [ends_of_error hRun]
    rintro rfl
    exact ⟨callee, hMakes, failsWith_of_error hRun⟩
  · rw [ends_of_ok hRun]
    trivial

/- The cause lies in the second action or in the first one. -/
theorem HasCause.bind
    {β : Type}
    {call : Call}
    {first : Parser α}
    {second : α → Parser β}
    {state : State}
    (hFirst : call.HasCause first state)
    (hSecond :
      ∀ answer after,
        first.run state = (.ok answer, after) →
          call.HasCause (second answer) after) :
    call.HasCause (first >>= second) state := by
  unfold HasCause at hFirst ⊢
  rw [ends_bind]
  rcases hRun : first.run state with
    ⟨fault | answer, after⟩
  · rw [ends_of_error hRun] at hFirst ⊢
    exact hFirst
  · rw [ends_of_ok hRun]
    exact hSecond answer after hRun

/-
  An operator behind the loop is too deep because of its right
  operand.
-/
theorem extend_hasCause
    {room : Nat}
    {minimum : Int}
    {before state : State}
    {left : Expr}
    (hLoop : AtLoop room minimum before left state)
    (hLess : minimum < state.next.kind.precedence) :
    HasCause ⟨.expression minimum, room + 1, before⟩
      (extend (expression room) left) state := by
  rw [extend]
  refine
    (hasCause_of_shallow _ shallow_operator state).bind ?_
  intro token middle hOperator
  have hMakes := Makes.rightOperand hLoop hLess hOperator
  refine hMakes.hasCause.bind ?_
  intros
  trivial

/-
  An expression is too deep because of its first operand or
  because of a right operand behind it.
-/
theorem expression_hasCause
    (room : Nat)
    (minimum : Int)
    (state : State) :
    HasCause ⟨.expression minimum, room + 1, state⟩
      (expression (room + 1) minimum) state := by
  rw [expression]
  have hOperand :=
    @Makes.operand room minimum state
  refine hOperand.hasCause.bind ?_
  intro left middle hPrimary
  have hStart : AtLoop room minimum state left middle :=
    .enter hPrimary
  refine
    (climb_ends ?_ hStart).mono
      (fun _ _ _ => trivial) (fun _ _ h => h)
  intro node last hLoop hLess
  have hCause := extend_hasCause hLoop hLess
  unfold HasCause at hCause
  rcases hExtend : (extend (expression room) node).run last
    with ⟨fault | longer, after⟩
  · rw [ends_of_error hExtend] at hCause ⊢
    exact hCause
  · rw [ends_of_ok hExtend]
    exact hLoop.again hLess hExtend

/-
  An operand is too deep because of a group, or because of the
  operand of a sign.
-/
theorem primary_hasCause
    (room : Nat)
    (state : State) :
    HasCause ⟨.primary, room + 1, state⟩
      (primary (room + 1)) state := by
  by_cases hOpening : state.token.kind = .leftParen
  · have hMakes :=
      @Makes.parenthesis room state hOpening
    apply (primary_ends_of_opening hOpening).mpr
    exact hMakes.hasCause
  · by_cases hSign : state.token.kind.IsSign
    · apply (primary_ends_of_sign hSign).mpr
      refine
        (hasCause_of_shallow _ shallow_advance state).bind ?_
      intro _ middle hAdvance
      have hMakes := @Makes.signed room state middle hSign
        hAdvance
      refine hMakes.hasCause.bind ?_
      intros
      trivial
    · by_cases hNumber : state.token.kind = .number
      · apply (primary_ends_of_number hNumber).mpr
        trivial
      · apply
          (primary_ends_of_missing hOpening hSign
            hNumber).mpr
        split
        · exact nofun
        · exact nofun

/- A group is too deep because of what is inside it. -/
theorem group_hasCause
    (room : Nat)
    (state : State) :
    HasCause ⟨.group, room + 1, state⟩
      (group (room + 1)) state := by
  rw [group, HasCause, ends_bind, ends_enterGroup]
  refine (hasCause_of_shallow _ shallow_advance _).bind ?_
  intro _ middle hAdvance
  have hMakes := @Makes.inside room state middle hAdvance
  refine hMakes.hasCause.bind ?_
  intro inner last _
  refine
    (hasCause_of_shallow _
      (shallow_expect .rightParen) last).bind ?_
  intros
  trivial

/-
  A call that is too deep has no room, or has made another one
  that is too deep.
-/
theorem makes_of_tooDeep
    {call : Call}
    (hFails : call.Fails .tooDeep) :
    call.room = 0 ∨
      ∃ callee, call.Makes callee ∧
        callee.Fails .tooDeep := by
  rcases call with ⟨procedure, room, state⟩
  cases room with
  | zero => exact .inl rfl
  | succ room =>
      right
      have hCause :
          HasCause ⟨procedure, room + 1, state⟩
            (action ⟨procedure, room + 1, state⟩)
            state := by
        cases procedure with
        | expression minimum =>
            exact expression_hasCause room minimum state
        | primary => exact primary_hasCause room state
        | group => exact group_hasCause room state
      have hBoth := hFails.and hCause
      unfold Ends at hBoth
      split at hBoth
      · exact absurd hBoth.1 id
      · exact hBoth.2 hBoth.1

end Call

end Parser

end ArithExpr

------------------------------------------------------------
-- Active Calls
------------------------------------------------------------

namespace ArithExpr

namespace Parser

/-
  Calls that are active at once while a text is parsed under a
  limit, the latest one first.  The first call of all is made
  on the whole text, once its first two tokens are loaded.
-/
inductive Active
    (limit : Nat)
    (text : String) : List Call → Prop
| first
    {state : State}
    (hStart :
      start.run (State.ofLexer (Lexer.ofText text)) =
        (.ok (), state)) :
    Active limit text
      [⟨.expression 0, roomWithin limit, state⟩]
| next
    {caller callee : Call}
    {calls : List Call}
    (hActive : Active limit text (caller :: calls))
    (hMakes : caller.Makes callee) :
    Active limit text (callee :: caller :: calls)

/- Every active call takes one place of the room. -/
theorem Active.room_add_length
    {limit : Nat}
    {text : String}
    {calls : List Call}
    (h : Active limit text calls) :
    ∃ call callers, calls = call :: callers ∧
      call.room + callers.length = roomWithin limit := by
  induction h with
  | first hStart => exact ⟨_, [], rfl, rfl⟩
  | next _ hMakes ih =>
      rcases ih with ⟨caller, callers, hCalls, hRoom⟩
      cases hCalls
      refine ⟨_, _, rfl, ?_⟩
      have hCallee := hMakes.room_eq
      rw [List.length_cons]
      omega

/- Loading the first two tokens does not nest. -/
theorem shallow_start : Shallow start := by
  intro state
  rw [start, ends_bind]
  refine (shallow_advance state).mono ?_ (fun _ _ h => h)
  intro _ middle _
  exact shallow_advance middle

/- What does not nest is not too deep. -/
theorem Shallow.not_tooDeep
    {α : Type}
    {action : Parser α}
    (hShallow : Shallow action)
    (state : State) :
    ¬ action.FailsWith .tooDeep state := by
  intro hDeep
  have hBoth := (hShallow state).and hDeep
  unfold Ends at hBoth
  split at hBoth
  · exact hBoth.2
  · exact hBoth.1 hBoth.2

/-
  A text is parsed by its first call, which is followed by the
  end of the text only.
-/
theorem parseRun_ends_iff
    {limit : Nat}
    {text : String}
    {state : State}
    (hStart :
      start.run (State.ofLexer (Lexer.ofText text)) =
        (.ok (), state))
    (answers : Expr → State → Prop)
    (fails : ParseError → State → Prop) :
    (do start; wholeText (roomWithin limit)).Ends
        (State.ofLexer (Lexer.ofText text)) answers fails ↔
      (expression (roomWithin limit) 0).Ends state
        (fun node after =>
          (expect .endOfText).Ends after
            (fun _ last => answers node last) fails)
        fails := by
  rw [ends_bind, ends_of_ok hStart, wholeText, ends_bind]
  simp only [ends_bind, ends_pure]

/- A text is rejected when its run fails with the fault. -/
theorem parseWithin_eq_error_iff_failsWith
    {limit : Nat}
    {text : String}
    {fault : ParseError} :
    parseWithin limit text = .error fault ↔
      (do start; wholeText (roomWithin limit)).FailsWith
        fault (State.ofLexer (Lexer.ofText text)) :=
  failsWith_iff.symm

/- What an active call fails with, the whole text does too. -/
theorem Active.parseWithin_eq
    {limit : Nat}
    {text : String}
    {call : Call}
    {callers : List Call}
    {fault : ParseError}
    (hActive : Active limit text (call :: callers))
    (hFails : call.Fails fault) :
    parseWithin limit text = .error fault := by
  induction callers generalizing call with
  | nil =>
      cases hActive with
      | first hStart =>
          apply parseWithin_eq_error_iff_failsWith.mpr
          apply (parseRun_ends_iff hStart _ _).mpr
          exact hFails.ends
  | cons caller callers ih =>
      cases hActive with
      | next hActive hMakes =>
          exact ih hActive (hMakes.fails hFails)

/- A text is too deep because of its first call. -/
theorem exists_first_of_tooDeep
    {limit : Nat}
    {text : String}
    (h : parseWithin limit text = .error .tooDeep) :
    ∃ call, Active limit text [call] ∧
      call.Fails .tooDeep := by
  have hDeep := parseWithin_eq_error_iff_failsWith.mp h
  unfold FailsWith at hDeep
  rcases hStart :
      start.run (State.ofLexer (Lexer.ofText text)) with
    ⟨fault | _, state⟩
  · have hShallow :=
      shallow_start (State.ofLexer (Lexer.ofText text))
    rw [ends_bind, ends_of_error hStart] at hDeep
    rw [ends_of_error hStart] at hShallow
    exact absurd hDeep hShallow
  · refine ⟨_, .first hStart, ?_⟩
    rw [parseRun_ends_iff hStart] at hDeep
    refine hDeep.mono ?_ (fun _ _ h => h)
    intro node last hLast
    exact
      (shallow_expect .endOfText).not_tooDeep last hLast

/- A call that is too deep leads to one without room. -/
theorem Active.exists_full
    {limit : Nat}
    {text : String}
    {call : Call}
    {callers : List Call}
    (hActive : Active limit text (call :: callers))
    (hFails : call.Fails .tooDeep) :
    ∃ calls, Active limit text calls ∧
      calls.length = roomWithin limit + 1 := by
  induction hRoom : call.room
    generalizing call callers with
  | zero =>
      rcases hActive.room_add_length with
        ⟨_, _, hCalls, hLength⟩
      cases hCalls
      refine ⟨_, hActive, ?_⟩
      rw [List.length_cons]
      omega
  | succ room ih =>
      rcases Call.makes_of_tooDeep hFails with
        hZero | ⟨callee, hMakes, hCallee⟩
      · omega
      · have hCalleeRoom := hMakes.room_eq
        exact ih (hActive.next hMakes) hCallee (by omega)

end Parser

/-
  A text is nested too deeply exactly when as many calls as
  the limit are active at once while it is parsed.
-/
theorem parseWithin_eq_tooDeep_iff_active
    (limit : Nat)
    (text : String) :
    parseWithin limit text = .error .tooDeep ↔
      ∃ calls, Parser.Active limit text calls ∧
        limit ≤ calls.length := by
  constructor
  · intro hDeep
    rcases Parser.exists_first_of_tooDeep hDeep with
      ⟨call, hActive, hFails⟩
    rcases hActive.exists_full hFails with
      ⟨calls, hCalls, hLength⟩
    refine ⟨calls, hCalls, ?_⟩
    unfold Parser.roomWithin at hLength
    omega
  · rintro ⟨calls, hActive, hLimit⟩
    rcases hActive.room_add_length with
      ⟨call, callers, rfl, hRoom⟩
    apply hActive.parseWithin_eq
    apply Parser.Call.fails_of_room_eq_zero
    unfold Parser.roomWithin at hRoom
    rw [List.length_cons] at hLimit
    omega

end ArithExpr
