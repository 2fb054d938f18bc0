import ArithExpr.Proofs.Expr.RoundTrip
import ArithExpr.Proofs.Parser.Room

/-
  How deep the calls go for a text that is derived.

  One call of `Parser.expression` reads a first operand and
  then, in its loop, one operator after the other.  So a chain
  of operators is as deep as its deepest operand, however many
  there are, and only signs, groups and right operands put one
  call on top of another.  The calls counted for a phrase are
  the most that are active while its text is parsed.

  Key definitions include:
    * `Phrase.calls`
    * `Phrase.primaryCalls`
    * `Phrase.Link`
    * `Phrase.chain`
    * `Text.inGroups`

  Main declarations:
    * `Phrase.calls_eq_depth`
    * `Phrase.calls_chain_lt_iff`
    * `parseWithin_parenthesized`
    * `parseWithin_inGroups`
    * `parseWithin_of_derived`
-/

------------------------------------------------------------
-- Calls for a Phrase
------------------------------------------------------------

namespace ArithExpr

namespace Phrase

mutual

/-
  The calls that are active at once while `Parser.expression`
  reads a phrase.  It reads the left side of an operator
  itself and calls itself for the right side.
-/
def calls {level : Level} : Phrase level → Nat
| .number token hKind =>
    1 + primaryCalls (.number token hKind)
| .signed token hSign inner =>
    1 + primaryCalls (.signed token hSign inner)
| .group opening closing hOpening hClosing inner =>
    1 + primaryCalls
      (.group opening closing hOpening hClosing inner)
| .single _ inner => inner.calls
| .binary _ _ left right => max left.calls (1 + right.calls)
termination_by phrase => (sizeOf phrase, 1)

/-
  The calls that are active at once while `Parser.primary`
  reads an operand.  A sign takes a call of
  `Parser.expression` that reads one operand only, and a group
  one of `Parser.group`.
-/
def primaryCalls : Phrase .operand → Nat
| .number _ _ => 1
| .signed _ _ inner => 2 + inner.primaryCalls
| .group _ _ _ _ inner => 2 + inner.calls
| .single hLevel _ => absurd rfl hLevel
| .binary _ hTakes _ _ =>
    absurd rfl (Level.ne_operand_of_takes hTakes)
termination_by phrase => (sizeOf phrase, 0)

end

/- An operand takes one call more as an expression. -/
theorem calls_operand
    (operand : Phrase .operand) :
    operand.calls = 1 + operand.primaryCalls := by
  cases operand with
  | number token hKind => rw [calls]
  | signed token hSign inner => rw [calls]
  | group opening closing hOpening hClosing inner =>
      rw [calls]
  | single hLevel inner => exact absurd rfl hLevel
  | binary token hTakes left right =>
      exact absurd rfl (Level.ne_operand_of_takes hTakes)

/- The calls for a phrase are its depth. -/
theorem calls_eq_depth
    {level : Level}
    (phrase : Phrase level) :
    phrase.calls = phrase.depth := by
  induction phrase with
  | number token hKind => rw [calls, primaryCalls, depth]
  | signed token hSign inner ih =>
      rw [calls_operand] at ih
      rw [calls, primaryCalls, depth, ← ih]
      omega
  | group opening closing hOpening hClosing inner ih =>
      rw [calls, primaryCalls, depth, ← ih]
      omega
  | single hLevel inner ih => rw [calls, depth, ih]
  | binary token hTakes left right ihLeft ihRight =>
      rw [calls, depth, ihLeft, ihRight]

------------------------------------------------------------
-- Chains of Operators
------------------------------------------------------------

/- An operator of a level and its right side. -/
structure Link (level : Level) where
  token : Token
  takes : level.Takes token.kind
  right : Phrase level.tighter

/- A phrase that goes on with some operators of its level. -/
def chain
    {level : Level}
    (left : Phrase level)
    (links : List (Link level)) : Phrase level :=
  links.foldl
    (fun left link => .binary link.token link.takes left
      link.right)
    left

/-
  A chain stays below a limit when each of its operands does,
  whatever its length.
-/
theorem calls_chain_lt_iff
    {level : Level}
    (left : Phrase level)
    (links : List (Link level))
    (limit : Nat) :
    (left.chain links).calls < limit ↔
      left.calls < limit ∧
        ∀ link ∈ links, 1 + link.right.calls < limit := by
  induction links generalizing left with
  | nil => simp [chain]
  | cons link links ih =>
      have hStep :
          left.chain (link :: links) =
            (binary link.token link.takes left
              link.right).chain links :=
        rfl
      rw [hStep, ih, calls, Nat.max_lt,
        List.forall_mem_cons, and_assoc]

end Phrase

end ArithExpr

------------------------------------------------------------
-- Texts That Are Derived
------------------------------------------------------------

namespace ArithExpr

/- A text that is derived is derived in parentheses too. -/
theorem exists_parenthesized
    {text : String}
    {phrase : Phrase .sum}
    (hText :
      Lexer.streamOf text.toList = (phrase.tokens, none)) :
    ∃ whole : Phrase .sum,
      Lexer.streamOf ("(" ++ text ++ ")").toList =
          (whole.tokens, none) ∧
        whole.tree = phrase.tree ∧
        whole.depth = 3 + phrase.depth := by
  rcases
    phrase.exists_group (Lexer.spells_of_streamOf hText) with
    ⟨group, hTree, hDepth, hSpells⟩
  rcases group.exists_loosened
      Level.operand.sum_precedence_le with
    ⟨whole, hTokens, hSameTree, hSameDepth⟩
  refine
    ⟨whole, ?_, hSameTree.trans hTree,
      hSameDepth.trans hDepth⟩
  rw [hTokens, ← hSpells.streamOf_eq]
  simp

/- Parentheses around a whole text are three calls deep. -/
theorem parseWithin_parenthesized
    (limit : Nat)
    {text : String}
    {phrase : Phrase .sum}
    (hText :
      Lexer.streamOf text.toList = (phrase.tokens, none)) :
    parseWithin (limit + 3) ("(" ++ text ++ ")") =
      parseWithin limit text := by
  rcases exists_parenthesized hText with
    ⟨whole, hWhole, hTree, hDepth⟩
  rw [parseWithin_of_phrase _ hWhole,
    parseWithin_of_phrase _ hText, hTree, hDepth]
  have hShift :
      3 + phrase.depth < limit + 3 ↔ phrase.depth < limit := by
    omega
  simp only [hShift]

/- A text with a number of parentheses around it. -/
def Text.inGroups : Nat → String → String
| 0, text => text
| count + 1, text => inGroups count ("(" ++ text ++ ")")

/- Every one of them is three calls deep. -/
theorem parseWithin_inGroups
    (limit count : Nat)
    {text : String}
    {phrase : Phrase .sum}
    (hText :
      Lexer.streamOf text.toList = (phrase.tokens, none)) :
    parseWithin (limit + 3 * count)
        (Text.inGroups count text) =
      parseWithin limit text := by
  induction count generalizing limit text phrase with
  | zero => rfl
  | succ count ih =>
      rcases exists_parenthesized hText with
        ⟨whole, hWhole, _⟩
      have hLimit :
          limit + 3 * (count + 1) = limit + 3 + 3 * count := by
        omega
      rw [Text.inGroups, hLimit, ih _ hWhole,
        parseWithin_parenthesized limit hText]

/-
  A text whose tokens are those of a phrase is parsed as the
  tree of the phrase when the calls for it stay below the
  limit, and is nested too deeply otherwise, when as many
  calls as the limit are active.  Below the limit the calls
  for the phrase are the most that are active.  Parentheses
  around the text are three calls deep, and a chain of
  operators is as deep as its operands are.
-/
theorem parseWithin_of_derived
    (limit : Nat)
    (text : String)
    (phrase : Phrase .sum)
    (hTokenize :
      tokenize text =
        .ok (phrase.tokens ++ [.endOfText])) :
    (parseWithin limit text =
      if phrase.calls < limit then .ok phrase.tree
      else .error .tooDeep) ∧
      ((∃ calls, Parser.Active limit text calls ∧
        limit ≤ calls.length) ↔ limit ≤ phrase.calls) ∧
      (phrase.calls < limit →
        IsGreatest
          {length | ∃ calls,
            Parser.Active limit text calls ∧
              calls.length = length}
          phrase.calls) ∧
      parseWithin (limit + 3) ("(" ++ text ++ ")") =
        parseWithin limit text ∧
      (∀ level (left : Phrase level) links,
        (left.chain links).tokens = phrase.tokens →
          ((∃ expr, parseWithin limit text = .ok expr) ↔
            left.calls < limit ∧
              ∀ link ∈ links,
                1 + link.right.calls < limit)) := by
  rcases tokenize_eq_ok_iff_streamOf.mp hTokenize with
    ⟨tokens, hStream, hSame⟩
  rw [← List.append_cancel_right hSame] at hStream
  have hParse (limit : Nat) :
      parseWithin limit text =
        if phrase.calls < limit then .ok phrase.tree
        else .error .tooDeep := by
    rw [parseWithin_of_phrase limit hStream,
      phrase.calls_eq_depth]
  have hDeep (limit : Nat) :
      parseWithin limit text = .error .tooDeep ↔
        limit ≤ phrase.calls := by
    rw [hParse limit]
    split
    · next hFits => exact ⟨nofun, fun h => by omega⟩
    · next hFull =>
        exact ⟨fun _ => Nat.not_lt.mp hFull, fun _ => rfl⟩
  refine
    ⟨hParse limit, ?_, ?_,
      parseWithin_parenthesized limit hStream, ?_⟩
  · rw [← parseWithin_eq_tooDeep_iff_active, hDeep]
  · intro hLimit
    apply isGreatest_active_length
    · exact (hDeep _).mpr (Nat.le_refl _)
    · rw [Ne, hDeep]
      exact Nat.not_succ_le_self _
    · exact hLimit
  · intro level left links hLinks
    rcases
      (left.chain links).exists_loosened
        level.sum_precedence_le with
      ⟨loosened, hLoosened, _, hDepth⟩
    have hPhrase : loosened = phrase :=
      loosened.eq_of_tokens_eq phrase
        (hLoosened.trans hLinks)
    have hCalls :
        (left.chain links).calls = phrase.calls := by
      rw [(left.chain links).calls_eq_depth, ← hPhrase,
        loosened.calls_eq_depth, hDepth]
    rw [← left.calls_chain_lt_iff, hCalls, hParse]
    split
    · next hFits =>
        exact ⟨fun _ => hFits, fun _ => ⟨_, rfl⟩⟩
    · next hFull =>
        refine ⟨?_, fun hFits => absurd hFits hFull⟩
        rintro ⟨_, hOk⟩
        cases hOk

/- One less a number with a sign, less another number. -/
def Phrase.differences : Phrase .sum :=
  let one : Phrase .operand :=
    .number ⟨.number, "1", fun _ => by decide⟩ rfl
  let minus : Token := ⟨.minus, "-", nofun⟩
  let single (operand : Phrase .operand) : Phrase .product :=
    .single nofun (.single nofun (.single nofun operand))
  chain (.single nofun (single one))
    [⟨minus, trivial, single (.signed minus trivial one)⟩,
      ⟨minus, trivial, single one⟩]

/-
  A chain of differences is five calls deep because of its
  signed number, and eight in parentheses.
-/
theorem parse_differences :
    tokenize "1--1-1" =
        .ok (Phrase.differences.tokens ++ [.endOfText]) ∧
      Phrase.differences.calls = 5 ∧
      parseWithin 5 "1--1-1" = .error .tooDeep ∧
      parseWithin 6 "1--1-1" = .ok Phrase.differences.tree ∧
      IsGreatest
        {length | ∃ calls,
          Parser.Active 6 "1--1-1" calls ∧
            calls.length = length}
        5 ∧
      parseWithin 9 "(1--1-1)" =
        .ok Phrase.differences.tree := by
  have hTokenize :
      tokenize "1--1-1" =
        .ok (Phrase.differences.tokens ++ [.endOfText]) := by
    decide +kernel
  have hCalls : Phrase.differences.calls = 5 := by
    rw [Phrase.calls_eq_depth]
    rfl
  rcases parseWithin_of_derived 5 _ _ hTokenize with
    ⟨hDeep, _⟩
  rcases parseWithin_of_derived 6 _ _ hTokenize with
    ⟨hOk, _, hGreatest, hGroup, _⟩
  rw [hCalls] at hDeep hOk hGreatest
  exact
    ⟨hTokenize, hCalls, hDeep, hOk, hGreatest (by decide),
      hGroup.trans hOk⟩

end ArithExpr
