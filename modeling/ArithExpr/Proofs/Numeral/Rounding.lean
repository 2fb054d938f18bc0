import ArithExpr.Proofs.Binary64.Rounding
import ArithExpr.Proofs.Expr.RoundTrip
import ArithExpr.Proofs.Numeral.Value

/-
  The values of number tokens.

  The numeral of a number token denotes a rational number, and
  the value of the token is that number correctly rounded.
  The numbers of a parsed expression have the values of their
  tokens.

  Key definitions include:
    * `Token.Denotes`

  Main declarations:
    * `Numeral.toBinary64_roundsTo`
    * `Token.value_roundsTo`
    * `Expr.IsWellFormed.value_of_mem_nodes`
    * `token_value_rounds`
-/

namespace ArithExpr

/- A numeral is rounded correctly. -/
theorem Numeral.toBinary64_roundsTo
    (numeral : Numeral) :
    numeral.toBinary64.RoundsTo numeral.toRat := by
  rw [← numeral.coefficient_div_eq_toRat]
  exact
    Binary64.ofRatio_roundsTo numeral.coefficient
      (Nat.pow_pos (by decide))

------------------------------------------------------------
-- Values of Tokens
------------------------------------------------------------

namespace Token

/- A token denotes the number whose numeral its text spells. -/
def Denotes
    (token : Token)
    (number : ℚ) : Prop :=
  ∃ numeral : Numeral,
    numeral.Spells token.literal.toList ∧
      numeral.toRat = number

/- A number token denotes a number. -/
theorem exists_denotes
    {token : Token}
    (hKind : token.kind = .number) :
    ∃ number, token.Denotes number := by
  rcases Numeral.isNumeral_iff_exists_spells.mp
      (token.isNumeral hKind) with
    ⟨numeral, hSpells⟩
  exact ⟨numeral.toRat, numeral, hSpells, rfl⟩

/- The value of a token is what it denotes, rounded. -/
theorem value_roundsTo
    {token : Token}
    {number : ℚ}
    (hKind : token.kind = .number)
    (hDenotes : token.Denotes number) :
    (token.value hKind).RoundsTo number := by
  rcases hDenotes with ⟨numeral, hSpells, rfl⟩
  have hValue : token.value hKind = numeral.toBinary64 := by
    unfold value
    congr 1
    exact Option.get_of_eq_some _ hSpells.read?_eq
  rw [hValue]
  exact numeral.toBinary64_roundsTo

end Token

/-
  The numbers in a well-formed expression have the values of
  their tokens.
-/
theorem Expr.IsWellFormed.value_of_mem_nodes
    {expr : Expr}
    {token : Token}
    {value : Binary64}
    (h : expr.IsWellFormed)
    (hMem : Node.number token value ∈ expr.nodes) :
    ∃ hKind : token.kind = .number,
      value = token.value hKind := by
  induction expr with
  | number other otherValue =>
      rw [nodes_number, List.mem_singleton,
        Node.number.injEq] at hMem
      rcases hMem with ⟨rfl, rfl⟩
      exact h
  | signed other operator operand ih =>
      rw [nodes_signed] at hMem
      rcases List.mem_append.mp hMem with hMem | hMem
      · exact ih h.2.2.2 hMem
      · simp at hMem
  | binary other operator left right ihLeft ihRight =>
      rw [nodes_binary] at hMem
      rcases List.mem_append.mp hMem with hMem | hMem
      · rcases List.mem_append.mp hMem with hMem | hMem
        · exact ihLeft h.2.2.2.1 hMem
        · exact ihRight h.2.2.2.2 hMem
      · simp at hMem
  | unknown => exact h.elim

/-
  Every number token denotes a number, and its value is that
  number correctly rounded: it is infinite from the overflow
  threshold on, zero up to the underflow threshold, and
  otherwise the nearest finite number, with an even significand
  where two are equally near.  Tokens that denote the same
  number have the same value, and the numbers of an expression
  that is parsed have the values of their tokens.
-/
theorem token_value_rounds :
    (∀ (token : Token) (hKind : token.kind = .number),
      Expr.ofNumber token =
          .ok (.number token (token.value hKind)) ∧
        (∃ number, token.Denotes number) ∧
        ∀ number, token.Denotes number →
          (token.value hKind).RoundsTo number) ∧
      (∀ (token other : Token)
          (hKind : token.kind = .number)
          (hOther : other.kind = .number)
          (number : ℚ),
        token.Denotes number → other.Denotes number →
          token.value hKind = other.value hOther) ∧
      (∀ limit text expr,
        parseWithin limit text = .ok expr →
          ∀ token value,
            Expr.Node.number token value ∈ expr.nodes →
              ∃ hKind : token.kind = .number,
                value = token.value hKind) := by
  refine ⟨?_, ?_, ?_⟩
  · intro token hKind
    refine
      ⟨Expr.ofNumber_eq hKind, Token.exists_denotes hKind, ?_⟩
    intro number hDenotes
    exact Token.value_roundsTo hKind hDenotes
  · intro token other hKind hOther number hToken hSame
    have hFirst := Token.value_roundsTo hKind hToken
    have hSecond := Token.value_roundsTo hOther hSame
    exact hFirst.unique hSecond
  · intro limit text expr hOk token value hMem
    have hWellFormed := isWellFormed_of_parseWithin hOk
    exact hWellFormed.value_of_mem_nodes hMem

/-
  Two spellings of a number in the middle between two others
  have the same value, the even one of both, also where one of
  them is parsed.
-/
theorem token_values_at_tie :
    ∃ (short long : Token)
        (hShort : short.kind = .number)
        (hLong : long.kind = .number),
      short.literal = "9007199254740993" ∧
        long.literal = "9007199254740993.0" ∧
        (short.value hShort).bits = 0x4340000000000000 ∧
        (short.value hShort).RoundsTo 9007199254740993 ∧
        short.value hShort = long.value hLong ∧
        ∃ expr value,
          parse "+9007199254740993.0" = .ok expr ∧
            Expr.Node.number long value ∈ expr.nodes ∧
              value = long.value hLong := by
  let short : Token :=
    ⟨.number, "9007199254740993", fun _ => by decide⟩
  let long : Token :=
    ⟨.number, "9007199254740993.0", fun _ => by decide⟩
  have hShort : short.Denotes 9007199254740993 := by
    let numeral : Numeral := ⟨"9007199254740993".toList, []⟩
    have hCount : numeral.coefficient = 9007199254740993 := by
      decide
    have hPlaces : numeral.places = 0 := rfl
    refine
      ⟨numeral, Numeral.read?_eq_some_iff.mp (by decide), ?_⟩
    rw [← Numeral.coefficient_div_eq_toRat, hCount, hPlaces]
    norm_num
  have hLong : long.Denotes 9007199254740993 := by
    let numeral : Numeral :=
      ⟨"9007199254740993".toList, ['0']⟩
    have hCount :
        numeral.coefficient = 90071992547409930 := by
      decide
    have hPlaces : numeral.places = 1 := rfl
    refine
      ⟨numeral, Numeral.read?_eq_some_iff.mp (by decide), ?_⟩
    rw [← Numeral.coefficient_div_eq_toRat, hCount, hPlaces]
    norm_num
  have hParsed :
      (parse "+9007199254740993.0").toOption.map
          (fun expr =>
            decide
              (Expr.Node.number long (long.value rfl) ∈
                expr.nodes)) =
        some true := by
    decide +kernel
  rcases exists_parse_of_map hParsed with
    ⟨expr, hParse, hFound⟩
  have hNode := of_decide_eq_true hFound
  rcases token_value_rounds with ⟨hTokens, hSame, hNodes⟩
  rcases hNodes depthLimit _ expr hParse long _ hNode with
    ⟨hKind, hValue⟩
  exact
    ⟨short, long, rfl, hKind, rfl, rfl,
      by decide +kernel, (hTokens short rfl).2.2 _ hShort,
      hSame short long rfl hKind _ hShort hLong, expr, _,
      hParse, hNode, hValue⟩

end ArithExpr
