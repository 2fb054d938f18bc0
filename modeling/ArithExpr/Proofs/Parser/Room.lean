import ArithExpr.Proofs.Parser.Calls
import ArithExpr.Proofs.Parser.Lockstep
import Mathlib.Order.Bounds.Defs

/-
  More room for the calls of a text.

  A call with less room goes as one with more room does, or it
  is nested too deeply.  So a text that fits a limit is parsed
  in the same way under every higher one, and the same calls
  are active.

  Key definitions include:
    * `Parser.moreRoom`
    * `Parser.Approximates`
    * `Parser.Call.roomier`

  Main declarations:
    * `Parser.Approximates.cases`
    * `Parser.procedures_approximate`
    * `Parser.Active.roomier`
    * `Parser.Active.exists_narrow`
    * `parseRun_of_le`
    * `isGreatest_active_length`
    * `parseWithin_conservative`
-/

------------------------------------------------------------
-- Approximation
------------------------------------------------------------

namespace ArithExpr

namespace Parser

variable {α : Type}

/- Runs of which the first has less room than the other. -/
def moreRoom : Lockstep where
  alike := Eq
  failed := Eq
  quotes _ := True
  roomier := True
  token_eq _ _ h := congrArg State.token h
  next_eq _ _ h := congrArg State.next h
  quotes_token _ _ _ := trivial
  failed_of_alike _ _ h := h
  moves := by
    rintro state _ rfl
    rcases state.advance with ⟨fault | _, after⟩
    · exact .fault rfl
    · exact .answer trivial rfl

/- Groups and nodes keep states equal. -/
theorem moreRoom_nests : moreRoom.Nests where
  depth_eq _ _ h := congrArg State.depth h
  depth := by
    rintro state _ depth rfl
    rfl
  record _ _ entry h _ _ :=
    congrArg (fun state : State => state.record entry) h

/-
  An action approximates one with more room when it runs in
  the same way wherever it is not nested too deeply.
-/
def Approximates (action roomier : Parser α) : Prop :=
  moreRoom.InStep (fun _ => True) action roomier

/- What approximates is nested too deeply or runs alike. -/
theorem Approximates.cases
    {action roomier : Parser α}
    (h : action.Approximates roomier)
    (state : State) :
    action.FailsWith .tooDeep state ∨
      roomier.run state = action.run state := by
  have hEnds := h state state rfl
  rcases hRun : action.run state with ⟨fault | answer, after⟩
  · rw [hRun] at hEnds
    generalize roomier.run state = roomierEnd at hEnds ⊢
    cases hEnds with
    | fault hSame => exact .inr (by rw [hSame])
    | refused _ => exact .inl ((ends_of_error hRun).mpr rfl)
  · rw [hRun] at hEnds
    generalize roomier.run state = roomierEnd at hEnds ⊢
    cases hEnds with
    | answer _ hSame => exact .inr (by rw [hSame])

/- An answer with less room is one with more room. -/
theorem Approximates.run_of_ok
    {action roomier : Parser α}
    {state after : State}
    {answer : α}
    (h : action.Approximates roomier)
    (hRun : action.run state = (.ok answer, after)) :
    roomier.run state = (.ok answer, after) := by
  rcases h.cases state with hDeep | hSame
  · exact absurd hDeep (not_failsWith_of_ok hRun)
  · rw [hSame, hRun]

/- Every procedure approximates itself with more room. -/
theorem procedures_approximate
    (room extra : Nat) :
    (∀ minimum,
      (expression room minimum).Approximates
        (expression (room + extra) minimum)) ∧
      (primary room).Approximates
        (primary (room + extra)) ∧
      (group room).Approximates (group (room + extra)) :=
  moreRoom_nests.calls room extra (.inr trivial)

------------------------------------------------------------
-- Calls with More Room
------------------------------------------------------------

namespace Call

/- A call with some more room. -/
def roomier (call : Call) (extra : Nat) : Call :=
  { call with room := call.room + extra }

section Loop

variable {room : Nat}
variable {minimum : Int}
variable {before state : State}
variable {left : Expr}

/- A call with more room comes to its loop as well. -/
theorem AtLoop.roomier
    (h : AtLoop room minimum before left state)
    (extra : Nat) :
    AtLoop (room + extra) minimum before left state := by
  rcases procedures_approximate room extra with
    ⟨hExpression, hSame, _⟩
  induction h with
  | enter hPrimary => exact .enter (hSame.run_of_ok hPrimary)
  | @again left _ _ _ _ hLess hExtend ih =>
      have hSame := moreRoom_nests.extend hExpression left
      exact
        ih.again hLess
          (Approximates.run_of_ok hSame hExtend)

/-
  A call that is not too deep comes to its loop as it does
  with more room.
-/
theorem AtLoop.narrow
    {extra : Nat}
    (h : AtLoop (room + extra) minimum before left state)
    (hFits :
      ¬ Fails ⟨.expression minimum, room + 1, before⟩
        .tooDeep) :
    AtLoop room minimum before left state := by
  rcases procedures_approximate room extra with
    ⟨hExpression, hPrimary, _⟩
  induction h with
  | enter hRun =>
      rcases hPrimary.cases before with hDeep | hSame
      · have hMakes := @Makes.operand room minimum before
        exact absurd (hMakes.fails hDeep) hFits
      · exact .enter (hSame.symm.trans hRun)
  | @again left node state after _ hLess hExtend ih =>
      have hExtends :=
        moreRoom_nests.extend hExpression left
      rcases Approximates.cases hExtends state with
        hDeep | hSame
      · refine absurd ?_ hFits
        change (expression (room + 1) minimum).Ends before _ _
        rw [ih.ends_iff, climb_ends_of_lt hLess]
        exact hDeep.ends
      · exact ih.again hLess (hSame.symm.trans hExtend)

end Loop

/- A call with more room makes the same calls. -/
theorem Makes.roomier
    {caller callee : Call}
    (h : caller.Makes callee)
    (extra : Nat) :
    (caller.roomier extra).Makes (callee.roomier extra) := by
  unfold Call.roomier
  cases h with
  | operand =>
      rw [Nat.add_right_comm]
      exact .operand
  | rightOperand hLoop hLess hOperator =>
      rw [Nat.add_right_comm]
      exact
        .rightOperand (hLoop.roomier extra) hLess hOperator
  | parenthesis hOpening =>
      rw [Nat.add_right_comm]
      exact .parenthesis hOpening
  | signed hSign hAdvance =>
      rw [Nat.add_right_comm]
      exact .signed hSign hAdvance
  | inside hAdvance =>
      rw [Nat.add_right_comm]
      exact .inside hAdvance

/-
  A call that is not too deep makes the calls that it makes
  with more room.
-/
theorem Makes.exists_narrow
    {caller callee : Call}
    {extra : Nat}
    (h : (caller.roomier extra).Makes callee)
    (hFits : ¬ caller.Fails .tooDeep) :
    ∃ narrow, callee = narrow.roomier extra ∧
      caller.Makes narrow := by
  rcases caller with ⟨procedure, room, state⟩
  cases room with
  | zero => exact absurd (fails_of_room_eq_zero rfl) hFits
  | succ room =>
      unfold Call.roomier at h
      rw [Nat.add_right_comm] at h
      cases h with
      | operand => exact ⟨⟨_, room, _⟩, rfl, .operand⟩
      | rightOperand hLoop hLess hOperator =>
          have hNarrow := hLoop.narrow hFits
          exact
            ⟨⟨_, room, _⟩, rfl,
              .rightOperand hNarrow hLess hOperator⟩
      | parenthesis hOpening =>
          exact ⟨⟨_, room, _⟩, rfl, .parenthesis hOpening⟩
      | signed hSign hAdvance =>
          exact ⟨⟨_, room, _⟩, rfl, .signed hSign hAdvance⟩
      | inside hAdvance =>
          exact ⟨⟨_, room, _⟩, rfl, .inside hAdvance⟩

end Call

------------------------------------------------------------
-- Active Calls under a Higher Limit
------------------------------------------------------------

section Active

variable {limit higher extra : Nat}
variable {text : String}
variable {calls : List Call}

/- The calls that are active are so under a higher limit. -/
theorem Active.roomier
    (h : Active limit text calls)
    (hHigher : roomWithin higher = roomWithin limit + extra) :
    Active higher text
      (calls.map fun call => call.roomier extra) := by
  induction h with
  | first hStart =>
      have hFirst := @Active.first higher text _ hStart
      rw [hHigher] at hFirst
      exact hFirst
  | next _ hMakes ih => exact ih.next (hMakes.roomier extra)

/-
  While a text that is not too deep is parsed, the calls that
  are active under a higher limit are active.
-/
theorem Active.exists_narrow
    (h : Active higher text calls)
    (hHigher : roomWithin higher = roomWithin limit + extra)
    (hFits : parseWithin limit text ≠ .error .tooDeep) :
    ∃ narrow, Active limit text narrow ∧
      calls = narrow.map fun call => call.roomier extra := by
  induction h with
  | first hStart =>
      refine ⟨_, .first hStart, ?_⟩
      rw [hHigher]
      rfl
  | next _ hMakes ih =>
      rcases ih with ⟨narrow, hNarrow, hCalls⟩
      rcases List.map_eq_cons_iff.mp hCalls.symm with
        ⟨caller, callers, rfl, rfl, rfl⟩
      rcases hMakes.exists_narrow
          fun hFails => hFits (hNarrow.parseWithin_eq hFails)
        with ⟨callee, rfl, hCallee⟩
      exact ⟨_, hNarrow.next hCallee, rfl⟩

end Active

end Parser

/-
  A text that is not too deep under a limit is parsed in the
  same way under every higher one.
-/
theorem parseRun_of_le
    {limit higher : Nat}
    {text : String}
    (hLe : limit ≤ higher)
    (hFits : parseWithin limit text ≠ .error .tooDeep) :
    parseRun higher text = parseRun limit text := by
  have hRoom :
      Parser.roomWithin limit +
          (Parser.roomWithin higher -
            Parser.roomWithin limit) =
        Parser.roomWithin higher := by
    unfold Parser.roomWithin
    omega
  have hWhole :=
    Parser.moreRoom_nests.parse (Parser.roomWithin limit)
      (Parser.roomWithin higher - Parser.roomWithin limit)
      (.inr trivial)
  rw [hRoom] at hWhole
  rcases
    Parser.Approximates.cases hWhole
      (Parser.State.ofLexer (Lexer.ofText text)) with
    hDeep | hSame
  · rw [← Parser.parseWithin_eq_error_iff_failsWith] at hDeep
    exact absurd hDeep hFits
  · exact hSame

/-
  A text that is too deep under a limit, and no longer so
  under the next one, has as many active calls as the limit at
  some moment, and never more, under every higher limit.
-/
theorem isGreatest_active_length
    {count limit : Nat}
    {text : String}
    (hDeep : parseWithin count text = .error .tooDeep)
    (hFits : parseWithin (count + 1) text ≠ .error .tooDeep)
    (hLimit : count < limit) :
    IsGreatest
      {length | ∃ calls,
        Parser.Active limit text calls ∧
          calls.length = length}
      count := by
  have hCount : Parser.roomWithin count + 1 = count := by
    cases count with
    | zero => exact absurd hDeep hFits
    | succ count => rfl
  constructor
  · rcases Parser.exists_first_of_tooDeep hDeep with
      ⟨call, hActive, hFails⟩
    rcases hActive.exists_full hFails with
      ⟨calls, hCalls, hLength⟩
    have hHigher :
        Parser.roomWithin limit =
          Parser.roomWithin count + (limit - count) := by
      unfold Parser.roomWithin at hCount ⊢
      omega
    refine ⟨_, hCalls.roomier hHigher, ?_⟩
    rw [List.length_map, hLength, hCount]
  · rintro length ⟨calls, hActive, rfl⟩
    have hHigher :
        Parser.roomWithin limit =
          Parser.roomWithin (count + 1) +
            (limit - (count + 1)) := by
      unfold Parser.roomWithin
      omega
    rcases hActive.exists_narrow hHigher hFits with
      ⟨narrow, hNarrow, rfl⟩
    rw [List.length_map]
    by_contra hMore
    apply hFits
    exact
      (parseWithin_eq_tooDeep_iff_active _ _).mpr
        ⟨narrow, hNarrow, Nat.not_le.mp hMore⟩

------------------------------------------------------------
-- Outcomes under Two Limits
------------------------------------------------------------

/-
  A text is too deep under a limit exactly when as many calls
  as the limit become active under a higher one.
-/
theorem parseWithin_eq_tooDeep_iff_active_higher
    {limit higher : Nat}
    (text : String)
    (hLe : limit ≤ higher) :
    parseWithin limit text = .error .tooDeep ↔
      ∃ calls, Parser.Active higher text calls ∧
        limit ≤ calls.length := by
  have hHigher :
      Parser.roomWithin higher =
        Parser.roomWithin limit +
          (Parser.roomWithin higher -
            Parser.roomWithin limit) := by
    unfold Parser.roomWithin
    omega
  constructor
  · intro hDeep
    rcases
      (parseWithin_eq_tooDeep_iff_active limit text).mp
        hDeep with
      ⟨calls, hActive, hLimit⟩
    refine ⟨_, hActive.roomier hHigher, ?_⟩
    simpa using hLimit
  · intro hCalls
    rcases hCalls with ⟨calls, hActive, hLimit⟩
    by_contra hFits
    rcases hActive.exists_narrow hHigher hFits with
      ⟨narrow, hNarrow, hSame⟩
    apply hFits
    apply
      (parseWithin_eq_tooDeep_iff_active limit text).mpr
    refine ⟨narrow, hNarrow, ?_⟩
    simpa [hSame] using hLimit

/-
  A lower limit makes a text too deep when as many calls as
  the limit become active under the higher one, and changes
  nothing otherwise: the outcome is the same, and so is the
  state that is left behind.  So an expression is never
  replaced by another one, and what a text is rejected for
  under a limit it is rejected for under all higher ones.
-/
theorem parseWithin_conservative
    (limit higher : Nat)
    (text : String)
    (hLe : limit ≤ higher) :
    (parseWithin limit text = .error .tooDeep ∨
      parseWithin limit text = parseWithin higher text) ∧
      (parseWithin limit text = .error .tooDeep ↔
        ∃ calls, Parser.Active higher text calls ∧
          limit ≤ calls.length) ∧
      (parseWithin limit text ≠ .error .tooDeep →
        parseRun limit text = parseRun higher text) ∧
      (∀ fault, fault ≠ .tooDeep →
        parseWithin limit text = .error fault →
          ∀ larger, limit ≤ larger →
            parseWithin larger text = .error fault) := by
  have hSame (larger : Nat) (hLarger : limit ≤ larger) :
      parseWithin limit text ≠ .error .tooDeep →
        parseRun limit text = parseRun larger text :=
    fun hFits => (parseRun_of_le hLarger hFits).symm
  refine
    ⟨?_, parseWithin_eq_tooDeep_iff_active_higher text hLe,
      hSame higher hLe, ?_⟩
  · by_cases hDeep :
        parseWithin limit text = .error .tooDeep
    · exact .inl hDeep
    · right
      exact congrArg Prod.fst (hSame higher hLe hDeep)
  · intro fault hFault hRejected larger hLarger
    have hFits :
        parseWithin limit text ≠ .error .tooDeep := by
      intro hDeep
      rw [hRejected] at hDeep
      cases hDeep
      exact hFault rfl
    have hOutcome :=
      congrArg Prod.fst (hSame larger hLarger hFits)
    exact hOutcome.symm.trans hRejected

/-
  A number that is out of place inside a group is found under
  a limit of six and every higher one, and is not reached
  under a limit of five.
-/
theorem parse_fault_under_limits :
    parseWithin 5 "(1 2" = .error .tooDeep ∧
      (∃ calls, Parser.Active 980 "(1 2" calls ∧
        5 ≤ calls.length) ∧
      ∃ fault, fault ≠ .tooDeep ∧
        parseWithin 6 "(1 2" = .error fault ∧
        ∀ larger, 6 ≤ larger →
          parseWithin larger "(1 2" = .error fault := by
  have hDeep : parseWithin 5 "(1 2" = .error .tooDeep := by
    decide +kernel
  let fault : ParseError :=
    .unexpectedToken "operator" ⟨.number, "2", fun _ => rfl⟩
  have hKind : fault ≠ .tooDeep := nofun
  have hFault : parseWithin 6 "(1 2" = .error fault := by
    decide +kernel
  have hLow :=
    parseWithin_conservative 5 980 "(1 2" (by decide)
  have hHigh :=
    parseWithin_conservative 6 980 "(1 2" (by decide)
  refine
    ⟨hDeep, hLow.2.1.mp hDeep, fault, hKind, hFault, ?_⟩
  exact hHigh.2.2.2 fault hKind hFault

end ArithExpr
