import ArithExpr.Proofs.Lexer.Stream

/-
  Calls of a lexer, one after the other, faults included.

  A call finds nothing but blanks and answers the end of the
  text, or it skips a gap of blanks and cuts out the lexeme
  behind the gap, which is a token or a fault.  So the calls
  cut a text into gaps and lexemes, and nothing of it is lost
  or read twice, whatever is misspelt in it.

  Key definitions include:
    * `Lexer.literalOf`
    * `Misspelt`
    * `Lexer.Ends`
    * `Lexer.Cuts`
    * `Lexer.after`
    * `Lexer.outcome`
    * `slice`

  Main declarations:
    * `Lexer.ends_or_cuts`
    * `Lexer.next_inside`
    * `Lexer.exists_calls`
    * `Lexer.outcome_of_ends`
    * `calls_tile_text`
-/

------------------------------------------------------------
-- Lexemes of Calls
------------------------------------------------------------

namespace ArithExpr

/-
  A lexeme that is no numeral, in front of what lies behind
  it: a character that is neither a blank nor an operator, and
  all number characters that follow it.
-/
structure Misspelt
    (lexeme behind : List Char) : Prop where
  starts :
    ∃ c run, lexeme = c :: run ∧ ¬ IsBlank c ∧
      Kind.ofOperator? c = none ∧
      ∀ d ∈ run, IsNumberPart d
  stops : StopsNumber behind
  not_isNumeral : ¬ IsNumeral lexeme

/- A character without an operator token is no operator. -/
theorem Kind.ofOperator?_eq_none
    {c : Char}
    (h : Token.ofOperator? c = none) :
    Kind.ofOperator? c = none := by
  unfold Token.ofOperator? at h
  split at h
  · cases h
  · next hNone => exact hNone

namespace Lexer

/- The characters that an outcome is about. -/
def literalOf : Except ParseError Token → List Char
| .ok token => token.literal.toList
| .error fault => fault.literal.toList

/-
  A call ends when only blanks are left: it skips them all and
  answers the end of the text.
-/
structure Ends (lexer : Lexer) : Prop where
  isBlank : ∀ c ∈ lexer.rest, IsBlank c
  next_eq :
    lexer.next =
      (.ok .endOfText, lexer.advance lexer.rest.length)

/-
  A call cuts the characters that are left into a gap, a
  lexeme and what lies behind it: it moves over the gap and
  the lexeme, and answers a token or a fault that is spelled
  by the lexeme.
-/
structure Cuts
    (lexer : Lexer)
    (gap lexeme behind : List Char) : Prop where
  rest_eq : lexer.rest = gap ++ (lexeme ++ behind)
  isBlank : ∀ c ∈ gap, IsBlank c
  lexeme_ne_nil : lexeme ≠ []
  not_isBlank : ∀ c ∈ lexeme, ¬ IsBlank c
  after_eq :
    lexer.next.2 =
      lexer.advance (gap.length + lexeme.length)
  literal_eq : literalOf lexer.next.1 = lexeme
  kind_ne_endOfText :
    ∀ token, lexer.next.1 = .ok token →
      token.kind ≠ .endOfText
  misspelt :
    ∀ fault, lexer.next.1 = .error fault →
      fault = .invalidNumber (String.ofList lexeme) .number ∧
        Misspelt lexeme behind

/- Where no characters are left a call ends. -/
theorem ends_of_nil
    {lexer : Lexer}
    (h : lexer.rest = []) :
    lexer.Ends where
  isBlank := by simp [h]
  next_eq := by
    rw [next_of_nil h, h]
    rfl

/- A blank in front of nothing but blanks is skipped too. -/
theorem Ends.of_blank
    {lexer : Lexer}
    {c : Char}
    {others : List Char}
    (hRest : lexer.rest = c :: others)
    (hBlank : IsBlank c)
    (h : (lexer.advance 1).Ends) :
    lexer.Ends := by
  have hOthers : (lexer.advance 1).rest = others := by
    simp [advance, hRest]
  have hBlanks := h.isBlank
  have hNext := h.next_eq
  rw [hOthers] at hBlanks hNext
  refine ⟨?_, ?_⟩
  · rw [hRest]
    exact List.forall_mem_cons.mpr ⟨hBlank, hBlanks⟩
  · rw [next_of_blank hRest hBlank, hNext,
      advance_advance, hRest, List.length_cons,
      Nat.add_comm]

/- A blank in front of a gap belongs to the gap. -/
theorem Cuts.of_blank
    {lexer : Lexer}
    {c : Char}
    {others gap lexeme behind : List Char}
    (hRest : lexer.rest = c :: others)
    (hBlank : IsBlank c)
    (h : (lexer.advance 1).Cuts gap lexeme behind) :
    lexer.Cuts (c :: gap) lexeme behind := by
  have hOthers : (lexer.advance 1).rest = others := by
    simp [advance, hRest]
  have hNext := next_of_blank hRest hBlank
  refine
    { rest_eq := ?_
      isBlank := List.forall_mem_cons.mpr ⟨hBlank, h.isBlank⟩
      lexeme_ne_nil := h.lexeme_ne_nil
      not_isBlank := h.not_isBlank
      after_eq := ?_
      literal_eq := ?_
      kind_ne_endOfText := ?_
      misspelt := ?_ }
  · rw [hRest, ← hOthers, h.rest_eq]
    rfl
  · rw [hNext, h.after_eq, advance_advance,
      List.length_cons]
    congr 1
    omega
  · rw [hNext]
    exact h.literal_eq
  · rw [hNext]
    exact h.kind_ne_endOfText
  · rw [hNext]
    exact h.misspelt

/- An operator character is a lexeme by itself. -/
theorem cuts_of_operator
    {lexer : Lexer}
    {c : Char}
    {others : List Char}
    {token : Token}
    (hRest : lexer.rest = c :: others)
    (hOperator : Token.ofOperator? c = some token) :
    lexer.Cuts [] [c] others := by
  have hNext := next_of_operator hRest hOperator
  have hSpelled := Token.ofOperator?_eq_some_iff.mp hOperator
  refine
    { rest_eq := hRest
      isBlank := List.forall_mem_nil _
      lexeme_ne_nil := List.cons_ne_nil _ _
      not_isBlank := ?_
      after_eq := ?_
      literal_eq := ?_
      kind_ne_endOfText := ?_
      misspelt := ?_ }
  · intro d hMem
    rw [List.mem_singleton.mp hMem]
    exact not_isBlank_of_operator hOperator
  · rw [hNext]
    rfl
  · rw [hNext]
    change token.literal.toList = [c]
    rw [hSpelled.2, String.toList_singleton]
  · rw [hNext]
    rintro _ ⟨⟩
    exact Token.ofOperator?_kind_ne_endOfText hOperator
  · rw [hNext]
    rintro _ ⟨⟩

/-
  Any other character is a lexeme together with the number
  characters that follow it.
-/
theorem cuts_of_run
    {lexer : Lexer}
    {c : Char}
    {others : List Char}
    (hRest : lexer.rest = c :: others)
    (hBlank : ¬ IsBlank c)
    (hOperator : Token.ofOperator? c = none) :
    lexer.Cuts []
      (c :: others.takeWhile fun c => IsNumberPart c)
      (others.dropWhile fun c => IsNumberPart c) := by
  have hNext := next_of_run hRest hBlank hOperator
  have hRun :
      ∀ d ∈ others.takeWhile fun c => IsNumberPart c,
        IsNumberPart d :=
    fun _ => isNumberPart_of_mem_takeWhile
  refine
    { rest_eq := ?_
      isBlank := List.forall_mem_nil _
      lexeme_ne_nil := List.cons_ne_nil _ _
      not_isBlank := ?_
      after_eq := ?_
      literal_eq := ?_
      kind_ne_endOfText := ?_
      misspelt := ?_ }
  · rw [hRest, List.nil_append, List.cons_append,
      List.takeWhile_append_dropWhile]
  · intro d hMem
    rcases List.mem_cons.mp hMem with rfl | hMem
    · exact hBlank
    · exact not_isBlank_of_isNumberPart (hRun d hMem)
  · rw [hNext, List.length_nil, List.length_cons,
      Nat.zero_add, Nat.add_comm]
  · rw [hNext]
    dsimp only
    rcases hChecked : Token.checked _ _ with fault | token
    · have hFault :=
        (Token.checked_eq_error_iff.mp hChecked).2.2
      rw [hFault]
      exact String.toList_ofList
    · have hLiteral :=
        (Token.checked_eq_ok_iff.mp hChecked).2
      change token.literal.toList = _
      rw [hLiteral, String.toList_ofList]
  · rw [hNext]
    intro token hChecked
    rw [(Token.checked_eq_ok_iff.mp hChecked).1]
    rintro ⟨⟩
  · rw [hNext]
    intro fault hChecked
    rcases Token.checked_eq_error_iff.mp hChecked with
      ⟨_, hNumeral, rfl⟩
    rw [String.toList_ofList] at hNumeral
    exact
      ⟨rfl,
        { starts :=
            ⟨c, _, rfl, hBlank,
              Kind.ofOperator?_eq_none hOperator, hRun⟩
          stops := stopsNumber_dropWhile others
          not_isNumeral := hNumeral }⟩

/- Every call ends, or cuts out a lexeme. -/
theorem ends_or_cuts
    (lexer : Lexer) :
    lexer.Ends ∨
      ∃ gap lexeme behind, lexer.Cuts gap lexeme behind := by
  induction hRest : lexer.rest using text_induction
    generalizing lexer with
  | nil => exact .inl (ends_of_nil hRest)
  | blank c others hBlank ih =>
      have hOthers : (lexer.advance 1).rest = others := by
        simp [advance, hRest]
      rcases ih (lexer.advance 1) hOthers with
        hEnds | ⟨gap, lexeme, behind, hCuts⟩
      · exact .inl (hEnds.of_blank hRest hBlank)
      · exact
          .inr ⟨c :: gap, lexeme, behind,
            hCuts.of_blank hRest hBlank⟩
  | operator c others token hOperator ih =>
      exact
        .inr ⟨[], [c], others,
          cuts_of_operator hRest hOperator⟩
  | run c others hBlank hOperator ih =>
      exact .inr ⟨[], _, _, cuts_of_run hRest hBlank hOperator⟩

/- What lies behind a lexeme is left after the call. -/
theorem Cuts.rest_after
    {lexer : Lexer}
    {gap lexeme behind : List Char}
    (h : lexer.Cuts gap lexeme behind) :
    lexer.next.2.rest = behind := by
  have hRest := h.rest_eq
  rw [← List.append_assoc] at hRest
  rw [h.after_eq, ← List.length_append]
  exact advance_rest_of_append hRest

/- Nothing is left after a call that ends. -/
theorem Ends.rest_after
    {lexer : Lexer}
    (h : lexer.Ends) :
    lexer.next.2.rest = [] := by
  rw [h.next_eq]
  exact List.drop_length

/- The end of the text is one token, with nothing behind it. -/
theorem next_end
    {lexer after : Lexer}
    {token : Token}
    (h : lexer.next = (.ok token, after))
    (hEnd : token.kind = .endOfText) :
    token = .endOfText ∧ after.rest = [] := by
  rcases lexer.ends_or_cuts with hEnds | ⟨_, _, _, hCuts⟩
  · have hRest := hEnds.rest_after
    have hNext := hEnds.next_eq
    rw [h] at hRest hNext
    cases hNext
    exact ⟨rfl, hRest⟩
  · have hKind := hCuts.kind_ne_endOfText token
    rw [h] at hKind
    exact absurd hEnd (hKind rfl)

/- A call of the lexer fails with a number that is misspelt. -/
theorem next_fault
    {lexer after : Lexer}
    {fault : ParseError}
    (h : lexer.next = (.error fault, after)) :
    fault = .invalidNumber fault.literal .number := by
  rcases lexer.ends_or_cuts with hEnds | ⟨_, _, _, hCuts⟩
  · have hNext := hEnds.next_eq
    rw [h] at hNext
    cases hNext
  · have hFault := hCuts.misspelt fault
    rw [h] at hFault
    rcases hFault rfl with ⟨rfl, _⟩
    rfl

------------------------------------------------------------
-- Inside a Text
------------------------------------------------------------

/- Moving on over characters that are left stays inside. -/
theorem advance_inside
    {lexer : Lexer}
    {count : Nat}
    (hInside : lexer.index ≤ lexer.text.length)
    (hCount : count ≤ lexer.rest.length) :
    (lexer.advance count).index ≤ lexer.text.length := by
  rw [lexer.rest_eq, List.length_drop] at hCount
  change lexer.index + count ≤ lexer.text.length
  omega

/- A call moves on over characters that are left. -/
theorem exists_next_eq_advance
    (lexer : Lexer) :
    ∃ count ≤ lexer.rest.length,
      lexer.next.2 = lexer.advance count := by
  rcases lexer.ends_or_cuts with hEnds |
    ⟨gap, lexeme, behind, hCuts⟩
  · exact
      ⟨_, Nat.le_refl _, congrArg Prod.snd hEnds.next_eq⟩
  · refine ⟨_, ?_, hCuts.after_eq⟩
    rw [hCuts.rest_eq, List.length_append,
      List.length_append]
    omega

/- Reading the next token stays inside the text. -/
theorem next_inside
    {lexer : Lexer}
    (hInside : lexer.index ≤ lexer.text.length) :
    lexer.next.2.text = lexer.text ∧
      lexer.next.2.index ≤ lexer.text.length := by
  rcases lexer.exists_next_eq_advance with
    ⟨count, hCount, hNext⟩
  rw [hNext]
  exact ⟨rfl, advance_inside hInside hCount⟩

end Lexer

end ArithExpr

------------------------------------------------------------
-- Calls in Order
------------------------------------------------------------

namespace ArithExpr

namespace Lexer

/-
  The lexer after a number of calls, whatever these answered.
-/
def after (lexer : Lexer) : Nat → Lexer
| 0 => lexer
| calls + 1 => (lexer.after calls).next.2

/- What the call after a number of others answers. -/
def outcome
    (lexer : Lexer)
    (calls : Nat) : Except ParseError Token :=
  (lexer.after calls).next.1

/- The first call comes before the others. -/
theorem after_succ
    (lexer : Lexer)
    (calls : Nat) :
    lexer.after (calls + 1) = lexer.next.2.after calls := by
  induction calls with
  | zero => rfl
  | succ calls ih =>
      rw [after, ih]
      rfl

/- Calls stay inside the text. -/
theorem after_inside
    {lexer : Lexer}
    (hInside : lexer.index ≤ lexer.text.length)
    (calls : Nat) :
    (lexer.after calls).text = lexer.text ∧
      (lexer.after calls).index ≤ lexer.text.length := by
  induction calls with
  | zero => exact ⟨rfl, hInside⟩
  | succ calls ih =>
      have hNext :=
        @next_inside (lexer.after calls) (by
          rw [ih.1]
          exact ih.2)
      rw [ih.1] at hNext
      exact hNext

/-
  After at most as many calls as there are characters left, a
  call ends.  The calls before it cut out lexemes, which are
  the characters that are left without the blanks.
-/
theorem exists_calls
    (lexer : Lexer) :
    ∃ count ≤ lexer.rest.length,
      (∀ call < count, ∃ gap lexeme behind,
        (lexer.after call).Cuts gap lexeme behind) ∧
      (lexer.after count).Ends ∧
      ((List.range count).flatMap fun call =>
          literalOf (lexer.outcome call)) =
        lexer.rest.filter fun c => ¬ IsBlank c := by
  induction hLength : lexer.rest.length
    using Nat.strong_induction_on generalizing lexer with
  | h length ih =>
      rcases lexer.ends_or_cuts with hEnds |
        ⟨gap, lexeme, behind, hCuts⟩
      · refine ⟨0, Nat.zero_le _, nofun, hEnds, ?_⟩
        symm
        apply List.filter_eq_nil_iff.mpr
        intro c hMem
        simpa using hEnds.isBlank c hMem
      · have hRest := hCuts.rest_after
        have hPositive : 0 < lexeme.length :=
          List.length_pos_iff.mpr hCuts.lexeme_ne_nil
        have hLess : behind.length < length := by
          rw [← hLength, hCuts.rest_eq, List.length_append,
            List.length_append]
          omega
        rcases ih behind.length hLess lexer.next.2
            (congrArg List.length hRest) with
          ⟨count, hCount, hCalls, hEnds, hLiterals⟩
        refine ⟨count + 1, by omega, ?_, ?_, ?_⟩
        · intro call hCall
          cases call with
          | zero => exact ⟨gap, lexeme, behind, hCuts⟩
          | succ call =>
              rw [after_succ]
              exact hCalls call (Nat.lt_of_succ_lt_succ hCall)
        · rw [after_succ]
          exact hEnds
        · have hGap :
              gap.filter (fun c => ¬ IsBlank c) = [] := by
            apply List.filter_eq_nil_iff.mpr
            intro c hMem
            simpa using hCuts.isBlank c hMem
          have hLexeme :
              lexeme.filter (fun c => ¬ IsBlank c) =
                lexeme := by
            apply List.filter_eq_self.mpr
            intro c hMem
            simpa using hCuts.not_isBlank c hMem
          have hFirst :
              literalOf (lexer.outcome 0) = lexeme :=
            hCuts.literal_eq
          have hOthers :
              ∀ call, lexer.outcome (call + 1) =
                lexer.next.2.outcome call := by
            intro call
            unfold outcome
            rw [after_succ]
          rw [hRest] at hLiterals
          rw [List.range_succ_eq_map, List.flatMap_cons,
            List.flatMap_map, hFirst, hCuts.rest_eq,
            List.filter_append, List.filter_append, hGap,
            hLexeme, ← hLiterals]
          simp only [hOthers, List.nil_append]

/- A call after one that ends finds nothing left. -/
theorem Ends.next
    {lexer : Lexer}
    (h : lexer.Ends) :
    lexer.next.2.Ends :=
  ends_of_nil h.rest_after

/-
  Every call from one that ends on answers the end of the text
  and stands there.
-/
theorem outcome_of_ends
    {lexer : Lexer}
    {count : Nat}
    (hInside : lexer.index ≤ lexer.text.length)
    (hEnds : (lexer.after count).Ends)
    {call : Nat}
    (hCall : count ≤ call) :
    lexer.outcome call = .ok .endOfText ∧
      (lexer.after (call + 1)).index =
        lexer.text.length := by
  have hAlways : (lexer.after call).Ends := by
    induction hCall with
    | refl => exact hEnds
    | step _ ih => exact ih.next
  have hAfter := after_inside hInside (call + 1)
  have hRest : (lexer.after (call + 1)).rest = [] :=
    hAlways.rest_after
  rw [(lexer.after (call + 1)).rest_eq, hAfter.1,
    List.drop_eq_nil_iff] at hRest
  exact
    ⟨congrArg Prod.fst hAlways.next_eq,
      Nat.le_antisymm hAfter.2 hRest⟩

end Lexer

end ArithExpr

------------------------------------------------------------
-- Intervals of a Text
------------------------------------------------------------

namespace ArithExpr

/- The characters from one position up to another one. -/
def slice
    (text : List Char)
    (first last : Nat) : List Char :=
  (text.drop first).take (last - first)

namespace Lexer

/-
  A call cuts a lexeme out of the text: the interval from
  `first` up to where the lexer stands after the call, behind
  a gap of blanks.  A fault quotes the lexeme, which is
  misspelt.
-/
structure CutsAt
    (lexer : Lexer)
    (call first : Nat) : Prop where
  index_le : (lexer.after call).index ≤ first
  first_lt : first < (lexer.after (call + 1)).index
  isBlank :
    ∀ c ∈ slice lexer.text (lexer.after call).index first,
      IsBlank c
  literal_eq :
    literalOf (lexer.outcome call) =
      slice lexer.text first
        (lexer.after (call + 1)).index
  kind_ne_endOfText :
    ∀ token, lexer.outcome call = .ok token →
      token.kind ≠ .endOfText
  misspelt :
    ∀ fault, lexer.outcome call = .error fault →
      fault = .invalidNumber fault.literal .number ∧
        Misspelt fault.literal.toList
          (lexer.text.drop (lexer.after (call + 1)).index)

/- A lexeme that is cut out is an interval of the text. -/
theorem Cuts.cutsAt
    {lexer : Lexer}
    {call : Nat}
    {gap lexeme behind : List Char}
    (hText : (lexer.after call).text = lexer.text)
    (h : (lexer.after call).Cuts gap lexeme behind) :
    lexer.CutsAt call
      ((lexer.after call).index + gap.length) := by
  have hLast :
      (lexer.after (call + 1)).index =
        (lexer.after call).index +
          (gap.length + lexeme.length) :=
    congrArg Lexer.index h.after_eq
  have hPositive : 0 < lexeme.length :=
    List.length_pos_iff.mpr h.lexeme_ne_nil
  have hGapRest :
      lexer.text.drop (lexer.after call).index =
        gap ++ (lexeme ++ behind) := by
    rw [← hText, ← (lexer.after call).rest_eq]
    exact h.rest_eq
  have hLexemeRest :
      lexer.text.drop
          ((lexer.after call).index + gap.length) =
        lexeme ++ behind := by
    rw [← List.drop_drop, hGapRest, List.drop_left]
  have hBehind :
      lexer.text.drop (lexer.after (call + 1)).index =
        behind := by
    rw [hLast, ← Nat.add_assoc, ← List.drop_drop,
      hLexemeRest, List.drop_left]
  have hGap :
      slice lexer.text (lexer.after call).index
          ((lexer.after call).index + gap.length) =
        gap := by
    rw [slice, hGapRest, Nat.add_sub_cancel_left,
      List.take_left]
  have hLexeme :
      slice lexer.text
          ((lexer.after call).index + gap.length)
          (lexer.after (call + 1)).index =
        lexeme := by
    rw [slice, hLexemeRest, hLast, ← Nat.add_assoc,
      Nat.add_sub_cancel_left, List.take_left]
  refine
    { index_le := Nat.le_add_right _ _
      first_lt := by omega
      isBlank := ?_
      literal_eq := h.literal_eq.trans hLexeme.symm
      kind_ne_endOfText := h.kind_ne_endOfText
      misspelt := ?_ }
  · rw [hGap]
    exact h.isBlank
  · intro fault hFault
    rcases h.misspelt fault hFault with ⟨rfl, hMisspelt⟩
    refine ⟨?_, ?_⟩
    · rfl
    · rw [hBehind]
      change Misspelt (String.ofList lexeme).toList behind
      rwa [String.toList_ofList]

end Lexer

/-
  The calls of a lexer on a text cut the text into lexemes
  with blanks between them, until after at most as many calls
  as there are characters the end of the text is answered, and
  from then on always.  The lexemes are the text without its
  blanks.
-/
theorem calls_tile_text
    (text : String) :
    ∃ count ≤ text.length,
      (∀ call < count, ∃ first,
        (Lexer.ofText text).CutsAt call first) ∧
      (∀ c ∈ text.toList.drop
          ((Lexer.ofText text).after count).index,
        IsBlank c) ∧
      ((List.range count).flatMap fun call =>
          Lexer.literalOf
            ((Lexer.ofText text).outcome call)) =
        text.toList.filter (fun c => ¬ IsBlank c) ∧
      (∀ calls,
        ((Lexer.ofText text).after calls).index ≤
          text.length) ∧
      (∀ call, count ≤ call →
        (Lexer.ofText text).outcome call =
            .ok .endOfText ∧
          ((Lexer.ofText text).after (call + 1)).index =
            text.length) := by
  have hInside :
      (Lexer.ofText text).index ≤
        (Lexer.ofText text).text.length :=
    Nat.zero_le _
  have hLength :
      (Lexer.ofText text).text.length = text.length :=
    String.length_toList
  rcases (Lexer.ofText text).exists_calls with
    ⟨count, hCount, hCalls, hEnds, hLiterals⟩
  have hAfter := Lexer.after_inside hInside
  refine
    ⟨count, hCount.trans_eq hLength, ?_, ?_, hLiterals,
      ?_, ?_⟩
  · intro call hCall
    rcases hCalls call hCall with
      ⟨gap, lexeme, behind, hCuts⟩
    exact ⟨_, hCuts.cutsAt (hAfter call).1⟩
  · have hBlanks := hEnds.isBlank
    rw [((Lexer.ofText text).after count).rest_eq,
      (hAfter count).1] at hBlanks
    exact hBlanks
  · intro calls
    rw [← hLength]
    exact (hAfter calls).2
  · intro call hCall
    rw [← hLength]
    exact Lexer.outcome_of_ends hInside hEnds hCall

/-
  A call goes on behind a fault, here a point by itself, and
  cuts out the next one, which takes the digit behind a
  letter.
-/
theorem calls_over_faults :
    (Lexer.ofText " .é5").outcome 0 =
        .error (.invalidNumber "." .number) ∧
      ∃ first, (Lexer.ofText " .é5").CutsAt 1 first ∧
        slice " .é5".toList first 4 = ['é', '5'] ∧
        Misspelt ['é', '5'] [] := by
  have hFirst :
      (Lexer.ofText " .é5").outcome 0 =
        .error (.invalidNumber "." .number) := by
    decide +kernel
  have hSecond :
      (Lexer.ofText " .é5").outcome 1 =
        .error (.invalidNumber "é5" .number) := by
    decide +kernel
  have hIndex :
      ((Lexer.ofText " .é5").after 2).index = 4 := by
    decide +kernel
  rcases calls_tile_text " .é5" with
    ⟨count, _, hCuts, _, _, _, hEnds⟩
  have hCall : 1 < count := by
    by_contra hNot
    have hEnd := (hEnds 1 (Nat.le_of_not_lt hNot)).1
    rw [hSecond] at hEnd
    cases hEnd
  rcases hCuts 1 hCall with ⟨first, hFirstCut⟩
  have hLiteral := hFirstCut.literal_eq
  have hMisspelt := (hFirstCut.misspelt _ hSecond).2
  rw [hSecond, hIndex] at hLiteral
  rw [hIndex] at hMisspelt
  exact ⟨hFirst, first, hFirstCut, hLiteral.symm, hMisspelt⟩

end ArithExpr
