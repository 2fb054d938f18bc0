import ArithExpr.Proofs.Parser.Bound
import ArithExpr.Proofs.Parser.Lockstep

/-
  The number of open groups, in every call.

  Only a group changes the number: it adds one when it is
  entered and takes it off when it is left, and it is left
  only when it answers.  So what answers leaves the number as
  it was, and what fails leaves it raised by the groups among
  the calls that were active when the fault was raised.  While
  a whole text is parsed the number is that of the parentheses
  that have been entered and not yet closed.

  Key definitions include:
    * `Parser.KeepsDepth`
    * `Parser.groupsIn`
    * `Parser.Call.Passes`
    * `Parser.Call.Raises`
    * `Parser.Call.Unwinds`

  Main declarations:
    * `Parser.Call.depth_of_answer`
    * `Parser.Call.Passes.depth_eq`
    * `Parser.Call.exists_unwinds`
    * `Parser.Call.Unwinds.depth_eq`
    * `Parser.Active.depth_eq`
    * `Parser.Active.end_of_operand`
-/

------------------------------------------------------------
-- Single Actions
------------------------------------------------------------

namespace ArithExpr

namespace Parser

variable {α β : Type}

/- Runs that are in step keep a given number of groups. -/
def atDepth (depth : Nat) : Lockstep :=
  .alone
    (fun state => state.depth = depth)
    (fun state => state.depth = depth)
    (fun _ => True)
    (fun _ _ => trivial)
    (fun _ h => h)
    (fun state h => by
      apply ends_advance
      · intro token lexer _
        exact (State.moved_depth state token lexer).trans h
      · intro fault lexer _
        exact h)

/- An action that leaves the number of groups as it is. -/
def KeepsDepth (action : Parser α) : Prop :=
  ∀ depth,
    (atDepth depth).InStep (fun _ => True) action action

/- What keeps the number keeps it with any outcome. -/
theorem KeepsDepth.depth_eq
    {action : Parser α}
    (h : KeepsDepth action)
    {state after : State}
    {outcome : Except ParseError α}
    (hRun : action.run state = (outcome, after)) :
    after.depth = state.depth := by
  have hAfter := (h state.depth).run rfl
  rwa [hRun] at hAfter

/- What keeps the number answers with that number. -/
theorem KeepsDepth.ends
    {action : Parser α}
    (h : KeepsDepth action)
    (state : State) :
    action.Ends state
      (fun _ after => after.depth = state.depth)
      (fun _ _ => True) :=
  ((h state.depth).ends rfl).mono
    (fun _ _ h => h.2) (fun _ _ _ => trivial)

/- Moving on neither enters nor leaves a group. -/
theorem keepsDepth_advance : KeepsDepth advance :=
  fun depth => (atDepth depth).inStep_advance

/- Neither does expecting a token. -/
theorem keepsDepth_expect
    (kind : Kind) :
    KeepsDepth (expect kind) :=
  fun depth => (atDepth depth).inStep_expect kind

/- Neither does moving past an operator. -/
theorem keepsDepth_operator : KeepsDepth operator :=
  fun depth =>
    (atDepth depth).inStep_operator.mono fun _ _ => trivial

/- Neither does taking a token from the lexer. -/
theorem keepsDepth_pull : KeepsDepth pull := by
  rintro depth state _ ⟨rfl, hState⟩
  rw [run_pull, State.pull]
  rcases state.lexer.next with ⟨fault | token, lexer⟩
  · exact .fault ⟨rfl, hState⟩
  · rcases State.recordToken_eq (state.asking lexer) token
      with ⟨log, hLog⟩
    dsimp only
    rw [hLog]
    exact .answer trivial ⟨rfl, hState⟩

------------------------------------------------------------
-- Calls
------------------------------------------------------------

/- How many groups a procedure enters by itself. -/
def Procedure.opens : Procedure → Nat
| .expression _ | .primary => 0
| .group => 1

/- How many groups some calls have entered. -/
def groupsIn (calls : List Call) : Nat :=
  (calls.map fun call => call.procedure.opens).sum

/- One more call may have entered one more group. -/
theorem groupsIn_cons
    (call : Call)
    (calls : List Call) :
    groupsIn (call :: calls) =
      call.procedure.opens + groupsIn calls :=
  rfl

namespace Call

/- A call without room does nothing but fail. -/
theorem run_of_room_eq_zero
    {call : Call}
    (hRoom : call.room = 0) :
    call.action.run call.state =
      (.error .tooDeep, call.state) := by
  rcases call with ⟨procedure, room, state⟩
  change room = 0 at hRoom
  subst hRoom
  cases procedure with
  | expression minimum => rfl
  | primary => rfl
  | group => rfl

/- A call that answers leaves the groups as it found them. -/
theorem depth_of_answer
    {call : Call}
    {node : Expr}
    {after : State}
    (hRun :
      call.action.run call.state = (.ok node, after)) :
    after.depth = call.state.depth := by
  rcases call with ⟨procedure, room, state⟩
  have hEnds :
      (Call.action ⟨procedure, room, state⟩).Ends state
        (fun _ after => after.depth = state.depth)
        (fun _ _ => True) := by
    cases procedure with
    | expression minimum =>
        exact
          ((calls_derived room).1 minimum state).mono
            (fun _ _ h => h.1.1) (fun _ _ h => h)
    | primary =>
        exact
          ((calls_derived room).2.1 state).mono
            (fun _ _ h => h.1) (fun _ _ h => h)
    | group =>
        cases room with
        | zero => trivial
        | succ room =>
            -- the token need not be a parenthesis here
            change (group (room + 1)).Ends state _ _
            rw [group, ends_bind, ends_enterGroup, ends_bind]
            refine (keepsDepth_advance.ends _).mono ?_
              (fun _ _ h => h)
            intro _ middle hMiddle
            rw [ends_bind]
            refine (expression_derived room middle).mono ?_
              (fun _ _ _ => trivial)
            intro inner last hLast
            rw [ends_bind]
            refine
              ((keepsDepth_expect .rightParen).ends
                last).mono ?_ (fun _ _ h => h)
            intro _ after hAfter
            change after.depth - 1 = state.depth
            rw [hAfter, hLast.1, hMiddle]
            rfl
  exact (ends_of_ok hRun).mp hEnds

/- A call comes to its loop with the groups that it found. -/
theorem AtLoop.depth_eq
    {room : Nat}
    {minimum : Int}
    {before state : State}
    {left : Expr}
    (h : AtLoop room minimum before left state) :
    state.depth = before.depth := by
  rcases h.hasReadAbove.climbed with ⟨_, _, hDerived, _⟩
  exact hDerived.1

/-
  A call that is made finds the groups of its caller, and the
  one that the caller has entered.
-/
theorem Makes.depth_eq
    {caller callee : Call}
    (h : caller.Makes callee) :
    callee.state.depth =
      caller.state.depth + caller.procedure.opens := by
  cases h with
  | operand => rfl
  | rightOperand hLoop _ hOperator =>
      exact
        (keepsDepth_operator.depth_eq hOperator).trans
          hLoop.depth_eq
  | parenthesis _ => rfl
  | signed _ hAdvance =>
      exact keepsDepth_advance.depth_eq hAdvance
  | inside hAdvance =>
      exact keepsDepth_advance.depth_eq hAdvance

------------------------------------------------------------
-- States That a Call Passes Through
------------------------------------------------------------

/-
  A call passes through a state between two of its steps: at
  its start, which for a group is behind its entry, when it
  makes another call and when that one has answered, and,
  for a group, when it has been closed and is about to be
  left.
-/
inductive Passes : Call → State → Prop
| start
    {procedure : Procedure}
    {room : Nat}
    {state : State}
    (hProcedure : procedure ≠ .group) :
    Passes ⟨procedure, room + 1, state⟩ state
| entered
    {room : Nat}
    {state : State} :
    Passes ⟨.group, room + 1, state⟩
      { state with depth := state.depth + 1 }
| calls
    {caller callee : Call}
    (hMakes : caller.Makes callee) :
    Passes caller callee.state
| answered
    {caller callee : Call}
    {node : Expr}
    {after : State}
    (hMakes : caller.Makes callee)
    (hRun :
      callee.action.run callee.state = (.ok node, after)) :
    Passes caller after
| closed
    {room : Nat}
    {state middle last after : State}
    {inner : Expr}
    (hAdvance :
      advance.run { state with depth := state.depth + 1 } =
        (.ok (), middle))
    (hInner :
      (expression room 0).run middle = (.ok inner, last))
    (hClosing :
      (expect .rightParen).run last = (.ok (), after)) :
    Passes ⟨.group, room + 1, state⟩ after

/-
  A group counts itself from its entry on until it is left,
  and no other call changes the number.
-/
theorem Passes.depth_eq
    {call : Call}
    {state : State}
    (h : call.Passes state) :
    state.depth =
      call.state.depth + call.procedure.opens := by
  cases h with
  | @start procedure room state hProcedure =>
      cases procedure with
      | expression minimum => rfl
      | primary => rfl
      | group => exact absurd rfl hProcedure
  | entered => rfl
  | calls hMakes => exact hMakes.depth_eq
  | answered hMakes hRun =>
      exact (depth_of_answer hRun).trans hMakes.depth_eq
  | @closed room state middle last after inner hAdvance hInner
      hClosing =>
      have hMiddle := keepsDepth_advance.depth_eq hAdvance
      have hLast :=
        @depth_of_answer ⟨.expression 0, room, middle⟩ _ _
          hInner
      have hAfter :=
        (keepsDepth_expect _).depth_eq hClosing
      exact hAfter.trans (hLast.trans hMiddle)

------------------------------------------------------------
-- Where Faults Are Raised
------------------------------------------------------------

/-
  A call raises a fault by itself: there is no room for a call
  that it makes, no operator stands behind its operand or an
  operand is missing, a group is not closed, or there is a
  lexical fault where it moves on.
-/
inductive Raises : Call → ParseError → State → Prop
| refused
    {caller callee : Call}
    (hMakes : caller.Makes callee)
    (hRoom : callee.room = 0) :
    Raises caller .tooDeep callee.state
| operator
    {room : Nat}
    {minimum : Int}
    {before state after : State}
    {left : Expr}
    {fault : ParseError}
    (hLoop : AtLoop room minimum before left state)
    (hLess : minimum < state.next.kind.precedence)
    (hOperator :
      Parser.operator.run state = (.error fault, after)) :
    Raises ⟨.expression minimum, room + 1, before⟩ fault
      after
| missing
    {room : Nat}
    {state : State}
    (hOpening : state.token.kind ≠ .leftParen)
    (hSign : ¬ state.token.kind.IsSign)
    (hNumber : state.token.kind ≠ .number) :
    Raises ⟨.primary, room + 1, state⟩
      (if state.token.kind = .endOfText ∧
          0 < state.depth then
        .unmatchedParenthesis state.token
      else
        .unexpectedToken "an expression" state.token)
      state
| sign
    {room : Nat}
    {state after : State}
    {fault : ParseError}
    (hSign : state.token.kind.IsSign)
    (hAdvance : advance.run state = (.error fault, after)) :
    Raises ⟨.primary, room + 1, state⟩ fault after
| opening
    {room : Nat}
    {state after : State}
    {fault : ParseError}
    (hAdvance :
      advance.run { state with depth := state.depth + 1 } =
        (.error fault, after)) :
    Raises ⟨.group, room + 1, state⟩ fault after
| closing
    {room : Nat}
    {state middle last after : State}
    {inner : Expr}
    {fault : ParseError}
    (hAdvance :
      advance.run { state with depth := state.depth + 1 } =
        (.ok (), middle))
    (hInner :
      (expression room 0).run middle = (.ok inner, last))
    (hClosing :
      (expect .rightParen).run last =
        (.error fault, after)) :
    Raises ⟨.group, room + 1, state⟩ fault after

/- A call that raises a fault leaves what it has entered. -/
theorem Raises.depth_eq
    {call : Call}
    {fault : ParseError}
    {after : State}
    (h : call.Raises fault after) :
    after.depth =
      call.state.depth + call.procedure.opens := by
  cases h with
  | refused hMakes _ => exact hMakes.depth_eq
  | operator hLoop _ hOperator =>
      exact
        (keepsDepth_operator.depth_eq hOperator).trans
          hLoop.depth_eq
  | missing _ _ _ => rfl
  | sign _ hAdvance =>
      exact keepsDepth_advance.depth_eq hAdvance
  | opening hAdvance =>
      exact keepsDepth_advance.depth_eq hAdvance
  | @closing room state middle last after inner fault hAdvance
      hInner hClosing =>
      have hMiddle := keepsDepth_advance.depth_eq hAdvance
      have hLast :=
        @depth_of_answer ⟨.expression 0, room, middle⟩ _ _
          hInner
      have hAfter :=
        (keepsDepth_expect _).depth_eq hClosing
      exact hAfter.trans (hLast.trans hMiddle)

/-
  The calls that are active when a fault is raised, from the
  first one to the one that raises it.  All of them fail with
  the fault.
-/
inductive Unwinds :
    Call → List Call → ParseError → State → Prop
| raises
    {call : Call}
    {fault : ParseError}
    {after : State}
    (hRaises : call.Raises fault after) :
    Unwinds call [call] fault after
| passes
    {caller callee : Call}
    {calls : List Call}
    {fault : ParseError}
    {after : State}
    (hMakes : caller.Makes callee)
    (hCallee : callee.Unwinds calls fault after) :
    Unwinds caller (caller :: calls) fault after

/-
  The calls that were active leave the number raised by the
  groups that they have entered.
-/
theorem Unwinds.depth_eq
    {call : Call}
    {calls : List Call}
    {fault : ParseError}
    {after : State}
    (h : call.Unwinds calls fault after) :
    after.depth = call.state.depth + groupsIn calls := by
  induction h with
  | raises hRaises => exact hRaises.depth_eq
  | passes hMakes _ ih =>
      rw [ih, hMakes.depth_eq, groupsIn_cons, Nat.add_assoc]

------------------------------------------------------------
-- Where Faults Come From
------------------------------------------------------------

/-
  What an action fails with is raised by a call itself, or
  comes from a call that it makes.
-/
def Accounts
    (call : Call)
    (action : Parser α)
    (state : State) : Prop :=
  action.Ends state
    (fun _ _ => True)
    (fun fault after =>
      call.Raises fault after ∨
        ∃ callee, call.Makes callee ∧
          callee.action.run callee.state =
            (.error fault, after))

/- A call raises the faults of its own steps. -/
theorem accounts_of_raises
    {call : Call}
    {action : Parser α}
    {state : State}
    (h :
      ∀ fault after,
        action.run state = (.error fault, after) →
          call.Raises fault after) :
    call.Accounts action state := by
  unfold Accounts
  rcases hRun : action.run state with ⟨fault | answer, after⟩
  · exact (ends_of_error hRun).mpr (.inl (h _ _ hRun))
  · exact (ends_of_ok hRun).mpr trivial

/- A call that is made may fail. -/
theorem Makes.accounts
    {call callee : Call}
    (hMakes : call.Makes callee) :
    call.Accounts callee.action callee.state := by
  unfold Accounts
  rcases hRun : callee.action.run callee.state with
    ⟨fault | node, after⟩
  · exact
      (ends_of_error hRun).mpr
        (.inr ⟨callee, hMakes, hRun⟩)
  · exact (ends_of_ok hRun).mpr trivial

/- What answers has no fault to account for. -/
theorem accounts_of_ok
    {call : Call}
    {action : Parser α}
    {state after : State}
    {answer : α}
    (hRun : action.run state = (.ok answer, after)) :
    call.Accounts action state :=
  (ends_of_ok hRun).mpr trivial

/- A fault comes from the first action or from the second. -/
theorem Accounts.bind
    {call : Call}
    {first : Parser α}
    {second : α → Parser β}
    {state : State}
    (hFirst : call.Accounts first state)
    (hSecond :
      ∀ answer after,
        first.run state = (.ok answer, after) →
          call.Accounts (second answer) after) :
    call.Accounts (first >>= second) state := by
  unfold Accounts at hFirst ⊢
  rw [ends_bind]
  rcases hRun : first.run state with
    ⟨fault | answer, after⟩
  · rw [ends_of_error hRun] at hFirst ⊢
    exact hFirst
  · rw [ends_of_ok hRun]
    exact hSecond answer after hRun

/- One more operator fails where it stands or behind it. -/
theorem extend_accounts
    {room : Nat}
    {minimum : Int}
    {before state : State}
    {left : Expr}
    (hLoop : AtLoop room minimum before left state)
    (hLess : minimum < state.next.kind.precedence) :
    Accounts ⟨.expression minimum, room + 1, before⟩
      (extend (expression room) left) state := by
  rw [extend]
  refine
    (accounts_of_raises fun _ _ hRun =>
      .operator hLoop hLess hRun).bind ?_
  intro token middle hOperator
  refine
    (Makes.rightOperand hLoop hLess
      hOperator).accounts.bind ?_
  intro right last _
  exact accounts_of_ok rfl

/- An expression fails in its operand or in its loop. -/
theorem expression_accounts
    (room : Nat)
    (minimum : Int)
    (state : State) :
    Accounts ⟨.expression minimum, room + 1, state⟩
      (expression (room + 1) minimum) state := by
  rw [expression]
  refine (@Makes.operand room minimum state).accounts.bind ?_
  intro left middle hPrimary
  have hStart : AtLoop room minimum state left middle :=
    .enter hPrimary
  refine
    (climb_ends ?_ hStart).mono
      (fun _ _ _ => trivial) (fun _ _ h => h)
  intro node last hLoop hLess
  have hExtends := extend_accounts hLoop hLess
  unfold Accounts at hExtends
  rcases hExtend : (extend (expression room) node).run last
    with ⟨fault | longer, after⟩
  · rw [ends_of_error hExtend] at hExtends ⊢
    exact hExtends
  · rw [ends_of_ok hExtend]
    exact hLoop.again hLess hExtend

/- An operand fails as its first token says. -/
theorem primary_accounts
    (room : Nat)
    (state : State) :
    Accounts ⟨.primary, room + 1, state⟩
      (primary (room + 1)) state := by
  by_cases hOpening : state.token.kind = .leftParen
  · apply (primary_ends_of_opening hOpening).mpr
    exact (@Makes.parenthesis room state hOpening).accounts
  by_cases hSign : state.token.kind.IsSign
  · apply (primary_ends_of_sign hSign).mpr
    refine
      (accounts_of_raises fun _ _ hRun =>
        .sign hSign hRun).bind ?_
    intro _ middle hAdvance
    refine
      (@Makes.signed room state middle hSign
        hAdvance).accounts.bind ?_
    intro inner last _
    exact accounts_of_ok rfl
  by_cases hNumber : state.token.kind = .number
  · apply (primary_ends_of_number hNumber).mpr
    trivial
  · apply
      (primary_ends_of_missing hOpening hSign hNumber).mpr
    exact .inl (.missing hOpening hSign hNumber)

/- A group fails at either parenthesis or inside. -/
theorem group_accounts
    (room : Nat)
    (state : State) :
    Accounts ⟨.group, room + 1, state⟩
      (group (room + 1)) state := by
  rw [group, Accounts, ends_bind, ends_enterGroup]
  refine
    (accounts_of_raises fun _ _ hRun => .opening hRun).bind ?_
  intro _ middle hAdvance
  refine (@Makes.inside room state middle
    hAdvance).accounts.bind ?_
  intro inner last hInner
  refine
    (accounts_of_raises fun _ _ hRun =>
      .closing hAdvance hInner hRun).bind ?_
  intro _ after _
  exact accounts_of_ok rfl

/-
  A call that fails has no room, or raises the fault itself,
  or hands on what a call that it has made fails with.
-/
theorem raises_or_makes
    {call : Call}
    {fault : ParseError}
    {after : State}
    (hRun :
      call.action.run call.state = (.error fault, after)) :
    call.room = 0 ∨ call.Raises fault after ∨
      ∃ callee, call.Makes callee ∧
        callee.action.run callee.state =
          (.error fault, after) := by
  rcases call with ⟨procedure, room, state⟩
  cases room with
  | zero => exact .inl rfl
  | succ room =>
      have hAccounts :
          Accounts ⟨procedure, room + 1, state⟩
            (action ⟨procedure, room + 1, state⟩) state := by
        cases procedure with
        | expression minimum =>
            exact expression_accounts room minimum state
        | primary => exact primary_accounts room state
        | group => exact group_accounts room state
      exact .inr ((ends_of_error hRun).mp hAccounts)

/-
  A call that has room and fails does so because of the last
  of some calls that are active then.  The induction is on the
  room, which every call makes smaller.
-/
theorem exists_unwinds
    {call : Call}
    {fault : ParseError}
    {after : State}
    (hRun :
      call.action.run call.state = (.error fault, after)) :
    call.room = 0 ∨
      ∃ calls, call.Unwinds calls fault after := by
  induction hRoom : call.room generalizing call with
  | zero => exact .inl rfl
  | succ room ih =>
      right
      rcases raises_or_makes hRun with
        hZero | hRaises | ⟨callee, hMakes, hCallee⟩
      · omega
      · exact ⟨[call], .raises hRaises⟩
      · have hCalleeRoom := hMakes.room_eq
        rcases ih hCallee (by omega) with
          hZero | ⟨calls, hUnwinds⟩
        · rw [run_of_room_eq_zero (by omega)] at hCallee
          cases hCallee
          exact
            ⟨[call], .raises (.refused hMakes (by omega))⟩
        · exact ⟨call :: calls, .passes hMakes hUnwinds⟩

end Call

------------------------------------------------------------
-- Groups of a Whole Text
------------------------------------------------------------

section Active

variable {limit : Nat}
variable {text : String}
variable {call : Call}
variable {callers : List Call}

/-
  While a text is parsed, a call finds the groups that its
  callers have entered.
-/
theorem Active.depth_eq
    (h : Active limit text (call :: callers)) :
    call.state.depth = groupsIn callers := by
  induction callers generalizing call with
  | nil =>
      cases h with
      | @first state hStart =>
          have hDepth : KeepsDepth start :=
            fun depth => (atDepth depth).inStep_start
          exact hDepth.depth_eq hStart
  | cons caller callers ih =>
      cases h with
      | next hActive hMakes =>
          rw [hMakes.depth_eq, ih hActive, groupsIn_cons,
            Nat.add_comm]

/-
  While a text is parsed, the number of groups is that of the
  groups among the active calls, wherever the latest of them
  stands.
-/
theorem Active.depth_of_passes
    (h : Active limit text (call :: callers))
    {state : State}
    (hPasses : call.Passes state) :
    state.depth = groupsIn (call :: callers) := by
  rw [hPasses.depth_eq, h.depth_eq, groupsIn_cons,
    Nat.add_comm]

/- While a text is parsed, groups are entered at parentheses. -/
theorem Active.located
    (h : Active limit text (call :: callers)) :
    ∃ front,
      Located text front call.state ∧
        (call.procedure = .group →
          call.state.token.kind = .leftParen) := by
  rcases h.fits with ⟨_, _, front, hCalls, hFits⟩
  cases hCalls
  exact ⟨front, hFits.located, hFits.opening⟩

/-
  The end of the text in place of an operand is reported as a
  parenthesis that is not closed where a group is open, and as
  a missing operand where none is.
-/
theorem Active.end_of_operand
    {room : Nat}
    {state : State}
    (h :
      Active limit text
        (⟨.primary, room + 1, state⟩ :: callers))
    (hEnd : state.token.kind = .endOfText) :
    parseWithin limit text =
      .error
        (if 0 < groupsIn callers then
          .unmatchedParenthesis state.token
        else
          .unexpectedToken "an expression" state.token) := by
  have hDepth : state.depth = groupsIn callers := h.depth_eq
  apply h.parseWithin_eq
  apply
    (primary_ends_of_missing (by simp [hEnd])
      (by rw [hEnd]; exact id) (by simp [hEnd])).mpr
  rw [hDepth]
  simp only [hEnd, true_and]

end Active

end Parser

end ArithExpr
