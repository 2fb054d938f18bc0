import ArithExpr.Expr

/-
  The grammar of expressions, one level for each precedence.

  A sum is built from products, a product from quotients, a
  quotient from remainders and a remainder from operands, with
  the operators of each level grouping to the left.  An
  operand is a number, a sign before an operand, or a sum in
  parentheses.

  Key definitions include:
    * `Level`
    * `Level.tighter`
    * `Level.Takes`
    * `Level.above`
    * `Phrase`
    * `Phrase.tokens`
    * `Phrase.tree`
    * `Phrase.depth`
    * `Derives`

  Main declarations:
    * `Level.takes_iff`
    * `Level.above_precedence`
    * `Phrase.exists_loosened_of`
-/

------------------------------------------------------------
-- Levels
------------------------------------------------------------

namespace ArithExpr

/- The levels of the grammar, the loosest one first. -/
inductive Level where
| sum
| product
| quotient
| remainder
| operand
deriving DecidableEq, Repr

namespace Level

/- The level that the operands of a level belong to. -/
def tighter : Level → Level
| .sum => .product
| .product => .quotient
| .quotient => .remainder
| .remainder | .operand => .operand

/- The operators of a level. -/
def Takes : Level → Kind → Prop
| .sum, .plus | .sum, .minus | .product, .multiply
| .quotient, .divide | .remainder, .modulo => True
| _, _ => False

/-
  How tightly the operators of a level bind.  An operand binds
  as tightly as the operand of a sign.
-/
def precedence : Level → Int
| .sum => 1
| .product => 7
| .quotient => 8
| .remainder => 9
| .operand => 10

/- The loosest level that binds more tightly than a minimum. -/
def above (minimum : Int) : Level :=
  if minimum < 1 then .sum
  else if minimum < 7 then .product
  else if minimum < 8 then .quotient
  else if minimum < 9 then .remainder
  else .operand

/-
  A level takes the binary operators that bind as tightly as
  the level does.
-/
theorem takes_iff
    {level : Level}
    {kind : Kind} :
    level.Takes kind ↔
      kind.IsBinary ∧ kind.precedence = level.precedence := by
  cases level <;> cases kind <;>
    simp [Takes, Kind.IsBinary, Kind.precedence, precedence]

/- Every binary operator belongs to a level. -/
theorem exists_takes
    {kind : Kind}
    (hBinary : kind.IsBinary) :
    ∃ level : Level, level.Takes kind := by
  cases kind
  case plus => exact ⟨.sum, trivial⟩
  case minus => exact ⟨.sum, trivial⟩
  case multiply => exact ⟨.product, trivial⟩
  case divide => exact ⟨.quotient, trivial⟩
  case modulo => exact ⟨.remainder, trivial⟩
  all_goals exact absurd hBinary id

/- An operand has no operators. -/
theorem ne_operand_of_takes
    {level : Level}
    {kind : Kind}
    (hTakes : level.Takes kind) :
    level ≠ .operand := by
  rintro rfl
  cases kind <;> exact hTakes

/- No level binds more loosely than a sum. -/
theorem sum_precedence_le
    (level : Level) :
    sum.precedence ≤ level.precedence := by
  cases level <;> decide

/- No level binds more tightly than an operand. -/
theorem precedence_le_operand
    (level : Level) :
    level.precedence ≤ operand.precedence := by
  cases level <;> decide

/- The operands of a level bind more tightly. -/
theorem precedence_lt_tighter
    {level : Level}
    (hLevel : level ≠ .operand) :
    level.precedence < level.tighter.precedence := by
  cases level
  case operand => exact absurd rfl hLevel
  all_goals decide

/- No level lies between a level and its operands. -/
theorem tighter_precedence_le
    {looser level : Level}
    (hLess : looser.precedence < level.precedence) :
    looser.tighter.precedence ≤ level.precedence := by
  revert hLess
  cases looser <;> cases level <;> decide

/- Levels that bind alike are the same. -/
theorem eq_of_precedence_eq
    {left right : Level}
    (h : left.precedence = right.precedence) :
    left = right := by
  revert h
  cases left <;> cases right <;> decide

/- Above the precedence of a level are its operands. -/
theorem above_precedence
    (level : Level) :
    above level.precedence = level.tighter := by
  cases level <;> rfl

/- A level above a minimum binds more tightly than it. -/
theorem above_precedence_le
    {minimum : Int}
    {level : Level}
    (h : minimum < level.precedence) :
    (above minimum).precedence ≤ level.precedence := by
  unfold above
  repeat' split
  all_goals
    cases level <;> simp only [precedence] at h ⊢ <;> omega

/- A level with operators binds tighter than its minimum. -/
theorem lt_of_above_precedence_le
    {minimum : Int}
    {level : Level}
    (hLevel : level ≠ .operand)
    (h : (above minimum).precedence ≤ level.precedence) :
    minimum < level.precedence := by
  unfold above at h
  repeat' split at h
  all_goals
    cases level <;>
      simp only [precedence, ne_eq, not_true_eq_false,
        reduceCtorEq, not_false_eq_true] at h hLevel ⊢ <;>
      omega

end Level

/- No kind binds more tightly than an operand. -/
theorem Kind.precedence_le_operand
    (kind : Kind) :
    kind.precedence ≤ Level.operand.precedence := by
  cases kind <;> decide

/- A binary operator has a precedence of its own. -/
theorem Kind.IsBinary.precedence_nonneg
    {kind : Kind}
    (h : kind.IsBinary) :
    0 ≤ kind.precedence := by
  revert h
  cases kind <;> decide

/- Only binary operators and numbers bind at all. -/
theorem Kind.binary_or_number
    {kind : Kind}
    (hPositive : 0 < kind.precedence) :
    kind.IsBinary ∨ kind = .number := by
  revert hPositive
  cases kind <;> decide

/- Parentheses and the end of the text do not bind. -/
theorem Kind.end_or_parenthesis
    {kind : Kind}
    (hNever : kind.precedence ≤ 0) :
    kind = .endOfText ∨ kind = .leftParen ∨
      kind = .rightParen := by
  revert hNever
  cases kind <;> decide

end ArithExpr

------------------------------------------------------------
-- Phrases
------------------------------------------------------------

namespace ArithExpr

/- A derivation of some tokens from a level of the grammar. -/
inductive Phrase : Level → Type where
| number
    (token : Token)
    (hKind : token.kind = .number) : Phrase .operand
| signed
    (token : Token)
    (hSign : token.kind.IsSign)
    (inner : Phrase .operand) : Phrase .operand
| group
    (opening closing : Token)
    (hOpening : opening.kind = .leftParen)
    (hClosing : closing.kind = .rightParen)
    (inner : Phrase .sum) : Phrase .operand
| single
    {level : Level}
    (hLevel : level ≠ .operand)
    (inner : Phrase level.tighter) : Phrase level
| binary
    {level : Level}
    (token : Token)
    (hTakes : level.Takes token.kind)
    (left : Phrase level)
    (right : Phrase level.tighter) : Phrase level

namespace Phrase

/- The tokens that are derived, in order. -/
def tokens {level : Level} : Phrase level → List Token
| .number token _ => [token]
| .signed token _ inner => token :: inner.tokens
| .group opening closing _ _ inner =>
    opening :: (inner.tokens ++ [closing])
| .single _ inner => inner.tokens
| .binary token _ left right =>
    left.tokens ++ token :: right.tokens

/-
  The expression that is derived.  Parentheses leave no trace
  in it.
-/
def tree {level : Level} : Phrase level → Expr
| .number token hKind => .number token (token.value hKind)
| .signed token _ inner => .ofSign token inner.tree
| .group _ _ _ _ inner => inner.tree
| .single _ inner => inner.tree
| .binary token _ left right =>
    .ofOperator token left.tree right.tree

/-
  The number of calls that are active at once while a phrase
  is read as an expression.  One call reads all operators of a
  phrase outside groups; only a right operand takes another.
-/
def depth {level : Level} : Phrase level → Nat
| .number _ _ => 2
| .signed _ _ inner => 2 + inner.depth
| .group _ _ _ _ inner => 3 + inner.depth
| .single _ inner => inner.depth
| .binary _ _ left right => max left.depth (1 + right.depth)

/- A phrase starts with some token. -/
theorem tokens_ne_nil
    {level : Level}
    (phrase : Phrase level) :
    phrase.tokens ≠ [] := by
  induction phrase with
  | number token hKind => exact List.cons_ne_nil _ _
  | signed token hSign inner ih =>
      exact List.cons_ne_nil _ _
  | group opening closing hOpening hClosing inner ih =>
      exact List.cons_ne_nil _ _
  | single hLevel inner ih => exact ih
  | binary token hTakes left right ihLeft ihRight =>
      exact List.append_ne_nil_of_left_ne_nil ihLeft _

/- The end of the text stands in no phrase. -/
theorem kind_ne_endOfText
    {level : Level}
    (phrase : Phrase level) :
    ∀ token ∈ phrase.tokens, token.kind ≠ .endOfText := by
  induction phrase with
  | number token hKind =>
      simp [tokens, hKind]
  | signed token hSign inner ih =>
      have hToken : token.kind ≠ .endOfText := hSign.ne id
      simpa [tokens, hToken] using ih
  | group opening closing hOpening hClosing inner ih =>
      intro token hMem
      simp only [tokens, List.mem_cons, List.mem_append,
        List.not_mem_nil, or_false] at hMem
      rcases hMem with rfl | hMem | rfl
      · simp [hOpening]
      · exact ih token hMem
      · simp [hClosing]
  | single hLevel inner ih => exact ih
  | binary token hTakes left right ihLeft ihRight =>
      have hToken : token.kind ≠ .endOfText :=
        (Level.takes_iff.mp hTakes).1.ne id
      intro other hMem
      rcases List.mem_append.mp hMem with hMem | hMem
      · exact ihLeft other hMem
      · rcases List.mem_cons.mp hMem with rfl | hMem
        · exact hToken
        · exact ihRight other hMem

/- Every phrase needs two calls. -/
theorem two_le_depth
    {level : Level}
    (phrase : Phrase level) :
    2 ≤ phrase.depth := by
  induction phrase with
  | number token hKind => exact Nat.le_refl 2
  | signed token hSign inner ih => exact Nat.le_add_right 2 _
  | group opening closing hOpening hClosing inner ih =>
      exact Nat.le_trans ih (Nat.le_add_left _ 3)
  | single hLevel inner ih => exact ih
  | binary token hTakes left right ihLeft ihRight =>
      exact Nat.le_trans ihLeft (Nat.le_max_left _ _)

/-
  What holds of a phrase holds of one of every looser level
  too, if going to a looser level keeps it.
-/
theorem exists_loosened_of
    {looser level : Level}
    (keeps : ∀ {level : Level}, Phrase level → Prop)
    (phrase : Phrase level)
    (hLooser : looser.precedence ≤ level.precedence)
    (hSingle :
      ∀ {level : Level} (hLevel : level ≠ .operand)
        (inner : Phrase level.tighter),
        keeps inner → keeps (.single hLevel inner))
    (hPhrase : keeps phrase) :
    ∃ loosened : Phrase looser, keeps loosened := by
  by_cases hSame : looser = level
  · subst hSame
    exact ⟨phrase, hPhrase⟩
  · have hNe : looser.precedence ≠ level.precedence :=
      fun hEq => hSame (Level.eq_of_precedence_eq hEq)
    have hLess : looser.precedence < level.precedence := by
      omega
    have hLevel : looser ≠ .operand := by
      rintro rfl
      have hLe := level.precedence_le_operand
      omega
    have hTighter := Level.precedence_lt_tighter hLevel
    have hInner :
        looser.tighter.precedence ≤ level.precedence :=
      Level.tighter_precedence_le hLess
    rcases exists_loosened_of keeps phrase hInner hSingle
        hPhrase with
      ⟨inner, hKeeps⟩
    exact ⟨.single hLevel inner, hSingle hLevel inner hKeeps⟩
termination_by (10 - looser.precedence).toNat
decreasing_by
  have hBound := looser.tighter.precedence_le_operand
  have hOperand : Level.operand.precedence = 10 := rfl
  omega

/- A phrase belongs to every looser level too. -/
theorem exists_loosened
    {looser level : Level}
    (phrase : Phrase level)
    (hLooser : looser.precedence ≤ level.precedence) :
    ∃ loosened : Phrase looser,
      loosened.tokens = phrase.tokens ∧
        loosened.tree = phrase.tree ∧
        loosened.depth = phrase.depth :=
  exists_loosened_of
    (fun other =>
      other.tokens = phrase.tokens ∧
        other.tree = phrase.tree ∧
        other.depth = phrase.depth)
    phrase hLooser (fun _ _ hInner => hInner) ⟨rfl, rfl, rfl⟩

end Phrase

/- The tokens derive the expression from the loosest level. -/
def Derives
    (tokens : List Token)
    (expr : Expr) : Prop :=
  ∃ phrase : Phrase .sum,
    phrase.tokens = tokens ∧ phrase.tree = expr

end ArithExpr
