import ArithExpr.Expr.Printer
import ArithExpr.Parser.Session
import ArithExpr.Proofs.Parser.Room

/-
  Reading with a higher minimum stops earlier.

  The right operand of an operator does not depend on the
  minimum of the loop that takes the operator.  So a loop does
  first what it would do with a higher minimum, and goes on
  from where that would have stopped.

  Key definitions include:
    * `Expr.leftSides`

  Main declarations:
    * `Parser.climb_resumes`
    * `Parser.expression_resumes`
    * `Parser.climb_leftSides`
    * `Parser.expression_stops_earlier`
-/

------------------------------------------------------------
-- Left Sides
------------------------------------------------------------

namespace ArithExpr

/-
  An expression, the left side of its operator, the left side
  of that one, and so on.
-/
def Expr.leftSides : Expr → List Expr
| .number token value => [.number token value]
| .signed token operator operand =>
    [.signed token operator operand]
| .binary token operator left right =>
    .binary token operator left right :: left.leftSides
| .unknown => [.unknown]

/- An expression is the first of its left sides. -/
theorem Expr.mem_leftSides_self
    (expr : Expr) :
    expr ∈ expr.leftSides := by
  cases expr <;> exact List.mem_cons_self

end ArithExpr

------------------------------------------------------------
-- Loops That Go On
------------------------------------------------------------

namespace ArithExpr

namespace Parser

section Loops

variable {operand : Int → Parser Expr}
variable {minimum higher : Int}

/-
  A loop does what it does with a higher minimum, and then
  goes on.
-/
theorem climb_resumes
    (hLe : minimum ≤ higher)
    (left : Expr) :
    climb operand minimum left =
      climb operand higher left >>=
        climb operand minimum := by
  apply Parser.ext
  intro state
  induction hRemaining : state.remaining
    using Nat.strong_induction_on
    generalizing left state with
  | h remaining ih =>
      rw [run_bind]
      by_cases hLess : higher < state.next.kind.precedence
      · -- both loops take the operator
        rw [run_climb_of_lt hLess,
          run_climb_of_lt (Int.lt_of_le_of_lt hLe hLess),
          run_bind, run_bind]
        rcases hRun : (extend operand left).run state with
          ⟨fault | node, after⟩
        · rfl
        · rw [← run_bind]
          refine ih _ ?_ node after rfl
          rw [← hRemaining]
          exact extend_remaining_lt hRun
      · rw [run_climb_of_le (Int.not_lt.mp hLess)]

/-
  Reading an expression starts with what a higher minimum
  reads of it.
-/
theorem expression_resumes
    (hLe : minimum ≤ higher)
    (room : Nat) :
    expression (room + 1) minimum =
      expression (room + 1) higher >>=
        climb (expression room) minimum := by
  rw [expression, expression, bind_assoc]
  congr 1
  funext left
  exact climb_resumes hLe left

/- One more operator has what was read so far on its left. -/
theorem extend_leftSides
    {first left : Expr}
    (hMem : first ∈ left.leftSides)
    (state : State) :
    (extend operand left).Ends state
      (fun node _ => first ∈ node.leftSides)
      (fun _ _ => True) := by
  rw [extend, ends_bind]
  refine (ends_true operator state).mono ?_ (fun _ _ h => h)
  intro token next _
  rw [ends_bind]
  refine (ends_true _ next).mono ?_ (fun _ _ h => h)
  intro right after _
  exact List.mem_cons_of_mem _ hMem

/- What a loop starts with is a left side of its answer. -/
theorem climb_leftSides
    (left : Expr)
    (state : State) :
    (climb operand minimum left).Ends state
      (fun node after =>
        left ∈ node.leftSides ∧
          after.next.kind.precedence ≤ minimum)
      (fun _ _ => True) := by
  refine climb_ends ?_ left.mem_leftSides_self
  intro node middle hMem _
  exact extend_leftSides hMem middle

/- No operator binds more tightly than that of a remainder. -/
theorem climb_of_nine_le
    (hMinimum : 9 ≤ minimum)
    (left : Expr) :
    climb operand minimum left = pure left := by
  apply Parser.ext
  intro state
  apply run_climb_of_le
  have hKind : state.next.kind.precedence ≤ 9 := by
    cases state.next.kind <;> decide
  exact Int.le_trans hKind hMinimum

/- Above all operators an expression is a single operand. -/
theorem expression_of_nine_le
    (hMinimum : 9 ≤ minimum)
    (room : Nat) :
    expression (room + 1) minimum = primary room := by
  rw [expression]
  simp only [climb_of_nine_le hMinimum, bind_pure]

/- What a higher minimum fails with, a lower one does too. -/
theorem expression_fails_alike
    {room : Nat}
    {state after : State}
    {fault : ParseError}
    (hLe : minimum ≤ higher)
    (hUpper :
      (expression room higher).run state =
        (.error fault, after)) :
    (expression room minimum).run state =
      (.error fault, after) := by
  cases room with
  | zero => exact hUpper
  | succ room =>
      rw [expression_resumes hLe, run_bind, hUpper]

/- A lower minimum has on its left what a higher one answers. -/
theorem expression_leftSides
    (hLe : minimum ≤ higher)
    (room : Nat)
    (state : State) :
    (expression room minimum).Ends state
      (fun node _ =>
        ∃ found,
          ((expression room higher).run state).1 =
              .ok found ∧
            found ∈ node.leftSides)
      (fun _ _ => True) := by
  cases room with
  | zero => trivial
  | succ room =>
      rw [expression_resumes hLe, ends_bind]
      rcases hUpper :
          (expression (room + 1) higher).run state with
        ⟨fault | found, after⟩
      · rw [ends_of_error hUpper]
        trivial
      · rw [ends_of_ok hUpper]
        refine
          (climb_leftSides found after).mono ?_
            (fun _ _ h => h)
        exact fun _ _ h => ⟨found, rfl, h.1⟩

/-
  Above all operators an expression is read as a single
  operand is in the same room, unless it is too deep.
-/
theorem expression_eq_primary
    {room : Nat}
    {state : State}
    (hMinimum : 9 ≤ minimum)
    (hFits :
      ¬ (expression room minimum).FailsWith .tooDeep state) :
    (expression room minimum).run state =
      (primary room).run state := by
  cases room with
  | zero => exact absurd rfl hFits
  | succ room =>
      rw [expression_of_nine_le hMinimum] at hFits ⊢
      have hPrimary := (procedures_approximate room 1).2.1
      rcases hPrimary.cases state with hDeep | hSame
      · exact absurd hDeep hFits
      · exact hSame.symm

end Loops

------------------------------------------------------------
-- Two Minimums
------------------------------------------------------------

/-
  From one state, where reading with a higher minimum fails,
  reading with a lower one fails with the same fault and
  leaves the same state.  Where reading with the lower one
  answers, the higher one answers a left side of the answer.
  Above all operators an expression is read as a single
  operand is.
-/
theorem expression_stops_earlier
    (room : Nat)
    (minimum higher : Int)
    (state : State)
    (hLe : minimum ≤ higher) :
    let lower := (expression room minimum).run state
    let upper := (expression room higher).run state
    (∀ fault, upper.1 = .error fault → lower = upper) ∧
      (∀ node, lower.1 = .ok node →
        ∃ found, upper.1 = .ok found ∧
          found ∈ node.leftSides) ∧
      (9 ≤ higher → upper.1 ≠ .error .tooDeep →
        upper = (primary room).run state) := by
  intro lower upper
  refine ⟨?_, ?_, ?_⟩
  · intro fault hFault
    have hUpper : upper = (.error fault, upper.2) := by
      rw [← hFault]
    have hLower := expression_fails_alike hLe hUpper
    exact hLower.trans hUpper.symm
  · intro node hNode
    have hLower : lower = (.ok node, lower.2) := by
      rw [← hNode]
    have hEnds := expression_leftSides hLe room state
    exact (ends_of_ok hLower).mp hEnds
  · intro hNine hFits
    apply expression_eq_primary hNine
    rw [failsWith_iff]
    exact hFits

/-
  Above a sum only the product in front of it is read, and
  above all operators only the first number.  A parenthesis
  that is never closed is found with any minimum.
-/
theorem expression_stops_at_sum :
    let state := (ofText "1*2+3").2
    let group := (ofText "(1+2").2
    (∃ node found,
      ((expression 9 0).run state).1 = .ok node ∧
        ((expression 9 1).run state).1 = .ok found ∧
        found ∈ node.leftSides ∧
        node.print = .ok "((1 * 2) + 3)" ∧
        found.print = .ok "(1 * 2)") ∧
      (expression 9 9).run state = (primary 9).run state ∧
      (expression 9 0).run group =
        (expression 9 1).run group := by
  intro state group
  have hNode :
      ((expression 9 0).run state).1.map Expr.print =
        .ok (.ok "((1 * 2) + 3)") := by
    decide +kernel
  have hFound :
      ((expression 9 1).run state).1.map Expr.print =
        .ok (.ok "(1 * 2)") := by
    decide +kernel
  have hFits :
      ((expression 9 9).run state).1 ≠ .error .tooDeep := by
    decide +kernel
  have hFault :
      ((expression 9 1).run group).1 =
        .error (.unmatchedParenthesis .endOfText) := by
    decide +kernel
  refine ⟨?_, ?_, ?_⟩
  · rcases hLower : ((expression 9 0).run state).1 with
      fault | node
    · rw [hLower] at hNode
      cases hNode
    · rcases
        (expression_stops_earlier 9 0 1 state
          (by decide)).2.1 node hLower with
        ⟨found, hUpper, hMem⟩
      rw [hLower] at hNode
      rw [hUpper] at hFound
      injection hNode with hNode
      injection hFound with hFound
      exact
        ⟨node, found, rfl, hUpper, hMem, hNode, hFound⟩
  · exact
      (expression_stops_earlier 9 0 9 state
        (by decide)).2.2 (by decide) hFits
  · exact
      (expression_stops_earlier 9 0 1 group
        (by decide)).1 _ hFault

end Parser

end ArithExpr
