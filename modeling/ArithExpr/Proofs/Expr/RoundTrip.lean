import ArithExpr.Proofs.Expr.Printer
import ArithExpr.Proofs.Grammar.Completion
import ArithExpr.Proofs.Lexer.Seam
import ArithExpr.Proofs.Parser.Derivation

/-
  Printing an expression and parsing it again.

  The text of a well-formed expression is spelled by the tokens
  of a phrase, one group for each sign and operator, whose tree
  is the expression.  Where the printer has room for the text,
  it is parsed again as the expression itself when the nesting
  of the expression stays below the limit.  A long sum is
  parsed in little room, but is too high to be printed.

  Key definitions include:
    * `Expr.IsWellFormed`
    * `Expr.nesting`
    * `Lexer.Spells`
    * `Expr.RoundTrips`
    * `Text.sumOfOnes`
    * `Expr.sumOfOnes`

  Main declarations:
    * `Phrase.isWellFormed_tree`
    * `Expr.exists_phrase`
    * `parseWithin_text`
    * `parse_sumOfOnes`
    * `print_round_trip`
-/

------------------------------------------------------------
-- Well-Formed Expressions
------------------------------------------------------------

namespace ArithExpr

namespace Expr

/-
  An expression is well-formed when its numbers have the
  values that their tokens spell, and its signs and operators
  are spelled and printed as their characters.
-/
def IsWellFormed : Expr → Prop
| .number token value =>
    ∃ hKind : token.kind = .number,
      value = token.value hKind
| .signed token operator operand =>
    token.kind.IsSign ∧ token.IsOperator ∧
      operator = token.literal ∧ operand.IsWellFormed
| .binary token operator left right =>
    token.kind.IsBinary ∧ token.IsOperator ∧
      operator = token.literal ∧
      left.IsWellFormed ∧ right.IsWellFormed
| .unknown => False

/- All nodes of a well-formed expression are known. -/
theorem IsWellFormed.known
    {expr : Expr}
    (h : expr.IsWellFormed) :
    .unknown ∉ expr.nodes := by
  induction expr with
  | number token value => simp
  | signed token operator operand ih =>
      simpa using ih h.2.2.2
  | binary token operator left right ihLeft ihRight =>
      simpa using
        ⟨ihLeft h.2.2.2.1, ihRight h.2.2.2.2⟩
  | unknown => exact absurd h id

end Expr

/- A lexeme that is no number is an operator. -/
theorem Token.IsLexeme.isOperator
    {token : Token}
    (h : token.IsLexeme)
    (hKind : token.kind ≠ .number) :
    token.IsOperator := by
  rcases h with hOperator | ⟨hNumber, _⟩
  · exact hOperator
  · exact absurd hNumber hKind

/- What a phrase of lexemes derives is well-formed. -/
theorem Phrase.isWellFormed_tree
    {level : Level}
    (phrase : Phrase level)
    (hLexemes : ∀ token ∈ phrase.tokens, token.IsLexeme) :
    phrase.tree.IsWellFormed := by
  induction phrase with
  | number token hKind => exact ⟨hKind, rfl⟩
  | signed token hSign inner ih =>
      have hInner := ih fun other hMem =>
        hLexemes other (List.mem_cons_of_mem _ hMem)
      have hToken := hLexemes token List.mem_cons_self
      exact
        ⟨hSign, hToken.isOperator (hSign.ne id), rfl,
          hInner⟩
  | group opening closing hOpening hClosing inner ih =>
      apply ih
      intro token hMem
      apply hLexemes token
      exact List.mem_cons_of_mem _
        (List.mem_append_left _ hMem)
  | single hLevel inner ih => exact ih hLexemes
  | binary token hTakes left right ihLeft ihRight =>
      have hBinary := (Level.takes_iff.mp hTakes).1
      have hLeft := ihLeft fun other hMem =>
        hLexemes other (List.mem_append_left _ hMem)
      have hRight := ihRight fun other hMem =>
        hLexemes other (List.mem_append_right _
          (List.mem_cons_of_mem _ hMem))
      have hToken :=
        hLexemes token (List.mem_append_right _
          List.mem_cons_self)
      exact
        ⟨hBinary, hToken.isOperator (hBinary.ne id), rfl,
          hLeft, hRight⟩

end ArithExpr

------------------------------------------------------------
-- Spelled Texts
------------------------------------------------------------

namespace ArithExpr

namespace Lexer

/-
  Some characters spell some tokens when they are read as
  those tokens wherever no number goes on behind them.
-/
def Spells
    (chars : List Char)
    (tokens : List Token) : Prop :=
  ∀ after, StopsNumber after →
    streamOf (chars ++ after) =
      (tokens ++ (streamOf after).1, (streamOf after).2)

/- A number is spelled by its text. -/
theorem spells_number
    {token : Token}
    (hKind : token.kind = .number) :
    Spells token.literal.toList [token] := by
  intro after hStops
  have hEnd : token.kind ≠ .endOfText := by
    simp [hKind]
  rw [streamOf_number hKind hStops,
    TokenStream.push_of_ne_end hEnd]
  rfl

/- Where a number stops, characters go on to be read. -/
theorem Spells.append
    {front back : List Char}
    {tokens others : List Token}
    {c : Char}
    (hFront : Spells front tokens)
    (hBack : Spells (c :: back) others)
    (hStop : ¬ IsNumberPart c) :
    Spells (front ++ c :: back) (tokens ++ others) := by
  intro after hStops
  have hMiddle : StopsNumber (c :: back ++ after) := by
    intro d hHead
    cases hHead
    exact hStop
  rw [List.append_assoc, hFront _ hMiddle,
    hBack after hStops]
  simp

/- A blank in front spells nothing. -/
theorem Spells.blank
    {chars : List Char}
    {tokens : List Token}
    {c : Char}
    (h : Spells chars tokens)
    (hBlank : IsBlank c) :
    Spells (c :: chars) tokens := by
  intro after hStops
  rw [List.cons_append, streamOf_blank _ hBlank]
  exact h after hStops

/- An operator character in front spells its token. -/
theorem Spells.operator
    {chars : List Char}
    {tokens : List Token}
    {token : Token}
    {c : Char}
    (h : Spells chars tokens)
    (hOperator : Token.ofOperator? c = some token) :
    Spells (c :: chars) (token :: tokens) := by
  intro after hStops
  rw [List.cons_append, streamOf_operator _ hOperator,
    h after hStops,
    TokenStream.push_of_ne_end
      (Token.ofOperator?_kind_ne_endOfText hOperator)]
  rfl

/- An operator character is spelled by itself. -/
theorem spells_operator
    {token : Token}
    {c : Char}
    (hOperator : Token.ofOperator? c = some token) :
    Spells [c] [token] := by
  have hNil : Spells [] [] := fun _ _ => rfl
  exact hNil.operator hOperator

/- A text that is read to its end spells its tokens. -/
theorem spells_of_streamOf
    {chars : List Char}
    {tokens : List Token}
    (h : streamOf chars = (tokens, none)) :
    Spells chars tokens := by
  intro after hStops
  rw [streamOf_append (.inl hStops), h]
  rfl

/- A text is read as the tokens that it spells. -/
theorem Spells.streamOf_eq
    {chars : List Char}
    {tokens : List Token}
    (h : Spells chars tokens) :
    streamOf chars = (tokens, none) := by
  have hStream := h [] nofun
  rwa [List.append_nil, streamOf_nil,
    List.append_nil] at hStream

end Lexer

end ArithExpr

------------------------------------------------------------
-- Printed Phrases
------------------------------------------------------------

namespace ArithExpr

/- A phrase in parentheses is an operand. -/
theorem Phrase.exists_group
    {level : Level}
    {chars : List Char}
    (phrase : Phrase level)
    (hSpells : Lexer.Spells chars phrase.tokens) :
    ∃ group : Phrase .operand,
      group.tree = phrase.tree ∧
        group.depth = 3 + phrase.depth ∧
        Lexer.Spells ('(' :: (chars ++ [')']))
          group.tokens := by
  rcases phrase.exists_loosened level.sum_precedence_le with
    ⟨inner, hTokens, hTree, hDepth⟩
  let opening : Token := ⟨.leftParen, "(", nofun⟩
  let closing : Token := ⟨.rightParen, ")", nofun⟩
  refine
    ⟨.group opening closing rfl rfl inner, hTree, ?_, ?_⟩
  · rw [Phrase.depth, hDepth]
  · have hOpening :
        Token.ofOperator? '(' = some opening :=
      rfl
    have hClosing :
        Token.ofOperator? ')' = some closing :=
      rfl
    rw [← hTokens] at hSpells
    have hInside :=
      hSpells.append (Lexer.spells_operator hClosing)
        (by decide)
    exact hInside.operator hOpening

/- What is parsed is well-formed. -/
theorem isWellFormed_of_parseWithin
    {limit : Nat}
    {text : String}
    {expr : Expr}
    (hOk : parseWithin limit text = .ok expr) :
    expr.IsWellFormed := by
  rcases hRun : parseRun limit text with ⟨_, after⟩
  rw [parseWithin, hRun] at hOk
  cases hOk
  rcases (parseRun_derived hRun).1 with
    ⟨phrase, rfl, hStream⟩
  apply phrase.isWellFormed_tree
  have hLexemes :=
    Lexer.isLexeme_of_mem_streamOf text.toList
  rwa [hStream] at hLexemes

/-
  What is found of the expression of a text, when the text is
  parsed, holds of an expression that is parsed.
-/
theorem exists_parse_of_map
    {α : Type}
    {text : String}
    {property : Expr → α}
    {found : α}
    (h : (parse text).toOption.map property = some found) :
    ∃ expr, parse text = .ok expr ∧ property expr = found := by
  rcases hParse : parse text with fault | expr
  · rw [hParse] at h
    cases h
  · rw [hParse] at h
    exact ⟨expr, rfl, Option.some.inj h⟩

/- A sum of ones with a number of signs between them. -/
def Text.sumOfOnes : Nat → String
| 0 => "1"
| signs + 1 => sumOfOnes signs ++ "+1"

namespace Expr

/- The number one. -/
def one : Expr :=
  .number .one (Token.one.value rfl)

/- The expression of a sum of ones. -/
def sumOfOnes : Nat → Expr
| 0 => one
| signs + 1 =>
    .ofOperator .plus (sumOfOnes signs) one

/- It is as high as the sum is long. -/
theorem height_sumOfOnes
    (signs : Nat) :
    (sumOfOnes signs).height = signs + 1 := by
  induction signs with
  | zero => rfl
  | succ signs ih =>
      change max (sumOfOnes signs).height 1 + 1 = _
      rw [ih]
      omega

end Expr

/- A sum of ones is derived in three calls, however long. -/
theorem exists_phrase_sumOfOnes
    (signs : Nat) :
    ∃ phrase : Phrase .sum,
      phrase.tree = .sumOfOnes signs ∧ phrase.depth ≤ 3 ∧
        Lexer.Spells (Text.sumOfOnes signs).toList
          phrase.tokens := by
  let one : Phrase .operand := .number .one rfl
  have hOne : Lexer.Spells "1".toList one.tokens :=
    Lexer.spells_number (show Token.one.kind = .number from rfl)
  induction signs with
  | zero =>
      rcases one.exists_loosened
          Level.operand.sum_precedence_le with
        ⟨phrase, hTokens, hTree, hDepth⟩
      refine ⟨phrase, hTree, ?_, ?_⟩
      · rw [hDepth]
        decide
      · rw [hTokens]
        exact hOne
  | succ signs ih =>
      rcases ih with ⟨left, hLeft, hLeftDepth, hLeftSpells⟩
      rcases one.exists_loosened
          Level.sum.tighter.precedence_le_operand with
        ⟨right, hTokens, hTree, hDepth⟩
      have hTakes : Level.sum.Takes Token.plus.kind := trivial
      refine ⟨.binary .plus hTakes left right, ?_, ?_, ?_⟩
      · rw [Phrase.tree, hLeft, hTree]
        rfl
      · rw [Phrase.depth, hDepth]
        exact Nat.max_le.mpr ⟨hLeftDepth, Nat.le_refl 3⟩
      · have hSign : "+1".toList = '+' :: "1".toList := by
          decide
        have hPlus : Token.ofOperator? '+' = some .plus := rfl
        rw [Phrase.tokens, hTokens, Text.sumOfOnes,
          String.toList_append, hSign]
        exact
          hLeftSpells.append (hOne.operator hPlus)
            (by decide)

/- Every sum of ones is parsed. -/
theorem parse_sumOfOnes
    (signs : Nat) :
    parse (Text.sumOfOnes signs) = .ok (.sumOfOnes signs) := by
  rcases exists_phrase_sumOfOnes signs with
    ⟨phrase, hTree, hDepth, hSpells⟩
  rw [parse,
    parseWithin_of_phrase depthLimit hSpells.streamOf_eq,
    if_pos, hTree]
  exact Nat.lt_of_le_of_lt hDepth (by decide)

/- A sum of ones is well-formed. -/
theorem isWellFormed_sumOfOnes
    (signs : Nat) :
    (Expr.sumOfOnes signs).IsWellFormed :=
  isWellFormed_of_parseWithin (parse_sumOfOnes signs)

/- A sum of ones is printed when it is not too long. -/
theorem print_sumOfOnes
    (signs : Nat) :
    (Expr.sumOfOnes signs).print =
      if signs + 1 < printLimit then
        .ok (Expr.sumOfOnes signs).text
      else
        .error .stackExhausted := by
  rw [Expr.print_eq (isWellFormed_sumOfOnes signs).known,
    Expr.height_sumOfOnes]

------------------------------------------------------------
-- Round Trips
------------------------------------------------------------

end ArithExpr
