import ArithExpr.Error

/-
  Expression trees, how they are built from tokens, when two
  of them are the same, and their nodes in reading order.

  Key definitions include:
    * `Expr`
    * `Expr.ofNumber`
    * `Expr.ofSign`
    * `Expr.ofOperator`
    * `Expr.sameWithin`
    * `Expr.sameLimit`
    * `Expr.same`
    * `Expr.firstOccurrences`
    * `Expr.Node`
    * `Expr.nodes`
-/

namespace ArithExpr

------------------------------------------------------------
-- Expressions
------------------------------------------------------------

/-
  An expression is a number, a sign before an operand, or an
  operator between two operands.  Each node keeps the token
  it was read from, and the text that is printed for it.
  Nothing checks the operands that a node is built on: an
  unknown node is an operand that is no expression at all.
-/
inductive Expr where
| number (token : Token) (value : Binary64)
| signed
    (token : Token)
    (operator : String)
    (operand : Expr)
| binary
    (token : Token)
    (operator : String)
    (left right : Expr)
| unknown
deriving DecidableEq

namespace Expr

------------------------------------------------------------
-- Building
------------------------------------------------------------

/- The number that a token spells, if it is a number token. -/
def ofNumber (token : Token) : Except ParseError Expr :=
  if h : token.kind = .number then
    .ok (.number token (token.value h))
  else
    .error (.unexpectedToken Kind.number.name token)

/- A number token spells a number. -/
theorem ofNumber_eq
    {token : Token}
    (h : token.kind = .number) :
    ofNumber token =
      .ok (.number token (token.value h)) :=
  dif_pos h

/- A sign, printed as it was read, before its operand. -/
def ofSign
    (token : Token)
    (operand : Expr) : Expr :=
  .signed token token.literal operand

/- An operator, printed as it was read, between operands. -/
def ofOperator
    (token : Token)
    (left right : Expr) : Expr :=
  .binary token token.literal left right

------------------------------------------------------------
-- Sameness
------------------------------------------------------------

/-
  Two expressions are the same when they agree in everything
  but the values of their numbers.  They are compared node by
  node, left operands before right ones, up to the first
  difference, with one active call for each node on the path
  down from the top.  There is no answer when the calls need
  more than the given room.  The two share no nodes but the
  unknown ones, for which no call is made.
-/
def sameWithin : Nat → Expr → Expr → Option Bool
| _, .unknown, .unknown => some true
| 0, _, _ => none
| _ + 1, .number token _, .number token' _ =>
    some (token = token')
| room + 1, .signed token operator operand,
    .signed token' operator' operand' =>
    if token = token' ∧ operator = operator' then
      sameWithin room operand operand'
    else
      some false
| room + 1, .binary token operator left right,
    .binary token' operator' left' right' =>
    if token = token' ∧ operator = operator' then do
      if ← sameWithin room left left' then
        sameWithin room right right'
      else
        return false
    else
      some false
| _ + 1, _, _ => some false

/-
  The number of active calls at which the stack is exhausted
  while expressions are compared.  A call of the comparison
  takes more of the stack than one of the parser.
-/
def sameLimit : Nat :=
  332

/- Whether two expressions are the same, if that is found. -/
def same (expr other : Expr) : Option Bool :=
  sameWithin (sameLimit - 1) expr other

/-
  The index of the first expression that another one is the
  same as, or the number of expressions if there is none.
-/
def indexOfSame (expr : Expr) : List Expr → Option Nat
| [] => some 0
| earlier :: others => do
    if ← earlier.same expr then
      return 0
    else
      return (← expr.indexOfSame others) + 1

/-
  For each expression of a list, the index of the first one
  that is the same.  An expression is compared with those in
  front of it only.
-/
def firstOccurrences (exprs : List Expr) : Option (List Nat) :=
  exprs.zipIdx.mapM fun (expr, index) =>
    expr.indexOfSame (exprs.take index)

/- The number of different expressions in a list. -/
def distinctCount (exprs : List Expr) : Option Nat :=
  (firstOccurrences exprs).map fun indices =>
    indices.eraseDups.length

------------------------------------------------------------
-- Nodes
------------------------------------------------------------

/- A node of an expression without what hangs below it. -/
inductive Node where
| number (token : Token) (value : Binary64)
| signed (token : Token) (operator : String)
| binary (token : Token) (operator : String)
| unknown
deriving DecidableEq

/-
  The nodes of an expression in front of those that come
  after it.
-/
def nodesOnto : Expr → List Node → List Node
| .number token value, after =>
    .number token value :: after
| .signed token operator operand, after =>
    operand.nodesOnto (.signed token operator :: after)
| .binary token operator left right, after =>
    left.nodesOnto
      (right.nodesOnto (.binary token operator :: after))
| .unknown, after => .unknown :: after

/-
  The nodes of an expression, operands before the node that
  they belong to, and left operands before right ones.
-/
def nodes (expr : Expr) : List Node :=
  expr.nodesOnto []

/- What comes after an expression is left as it is. -/
theorem nodesOnto_eq
    (expr : Expr)
    (after : List Node) :
    expr.nodesOnto after = expr.nodes ++ after := by
  unfold nodes
  induction expr generalizing after with
  | number token value => rfl
  | signed token operator operand ih =>
      rw [nodesOnto, nodesOnto, ih, ih [_]]
      simp
  | binary token operator left right ihLeft ihRight =>
      rw [nodesOnto, nodesOnto, ihLeft, ihRight,
        ihLeft (right.nodesOnto [_]), ihRight [_]]
      simp
  | unknown => rfl

/- A number is its only node. -/
@[simp] theorem nodes_number
    (token : Token)
    (value : Binary64) :
    (number token value).nodes = [.number token value] :=
  rfl

/- A sign comes after its operand. -/
@[simp] theorem nodes_signed
    (token : Token)
    (operator : String)
    (operand : Expr) :
    (signed token operator operand).nodes =
      operand.nodes ++ [.signed token operator] := by
  rw [nodes, nodesOnto, nodesOnto_eq]

/- An operator comes after its operands. -/
@[simp] theorem nodes_binary
    (token : Token)
    (operator : String)
    (left right : Expr) :
    (binary token operator left right).nodes =
      left.nodes ++ right.nodes ++
        [.binary token operator] := by
  rw [nodes, nodesOnto, nodesOnto_eq, nodesOnto_eq,
    List.append_assoc]

/- An unknown node is its only node. -/
@[simp] theorem nodes_unknown :
    unknown.nodes = [.unknown] :=
  rfl

end Expr

end ArithExpr
