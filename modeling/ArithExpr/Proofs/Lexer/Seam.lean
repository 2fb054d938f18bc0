import ArithExpr.Proofs.Lexer.Stream

/-
  The stream of two texts that are put together.

  Where no run of number characters goes on from one text into
  the other, the stream of both is that of the first one
  followed by that of the second one.  So blanks that stand at
  such a seam add nothing.

  Key definitions include:
    * `TokenStream.append`
    * `EndsToken`
    * `IsSeam`
    * `insertAt`
    * `BetweenTokens`

  Main declarations:
    * `Lexer.streamOf_append`
    * `Lexer.streamOf_insert_blanks`
    * `IsSeam.of_betweenTokens`
    * `tokenize_append`
-/

------------------------------------------------------------
-- Streams One after the Other
------------------------------------------------------------

namespace ArithExpr

/-
  One stream behind another one.  Nothing is read behind a
  fault.
-/
def TokenStream.append
    (front back : TokenStream) : TokenStream :=
  match front.2 with
  | none => (front.1 ++ back.1, back.2)
  | some fault => (front.1, some fault)

/- Nothing stands in front of a stream. -/
@[simp] theorem TokenStream.nil_append
    (back : TokenStream) :
    TokenStream.append ([], none) back = back := by
  simp [append]

/- A token in front of both streams is in front of the first. -/
theorem TokenStream.push_append
    (front back : TokenStream)
    {token : Token}
    (hKind : token.kind ≠ .endOfText) :
    (front.push token).append back =
      (front.append back).push token := by
  rcases front with ⟨tokens, _ | fault⟩
  · rw [push_of_ne_end hKind, push_of_ne_end hKind]
    simp [append]
  · rw [push_of_ne_end hKind, push_of_ne_end hKind]
    simp [append]

------------------------------------------------------------
-- Seams
------------------------------------------------------------

/- No token goes on behind a blank or an operator character. -/
def EndsToken (c : Char) : Prop :=
  IsBlank c ∨ (Kind.ofOperator? c).isSome

instance (c : Char) : Decidable (EndsToken c) := by
  unfold EndsToken
  infer_instance

/- What ends a token is not part of a number. -/
theorem EndsToken.not_isNumberPart
    {c : Char}
    (h : EndsToken c) :
    ¬ IsNumberPart c := by
  intro hPart
  rcases h with hBlank | hOperator
  · exact not_isBlank_of_isNumberPart hPart hBlank
  · rcases Option.isSome_iff_exists.mp hOperator with
      ⟨kind, hKind⟩
    exact
      (Kind.operators_apart _
        (Kind.mem_operators hKind)).2 hPart

/-
  Two texts meet at a seam when no run of number characters
  goes on from the first into the second.
-/
def IsSeam (front back : List Char) : Prop :=
  StopsNumber back ∨ ∀ c ∈ front.getLast?, EndsToken c

/- A seam is still one without what comes before it. -/
theorem IsSeam.of_append
    {front middle back : List Char}
    (h : IsSeam (front ++ middle) back) :
    IsSeam middle back := by
  rcases h with hStops | hEnds
  · exact .inl hStops
  · right
    intro c hMem
    apply hEnds
    rw [List.getLast?_append, Option.mem_def.mp hMem]
    rfl

/- A character that starts a run ends no token. -/
theorem not_endsToken_of_run
    {c : Char}
    (hBlank : ¬ IsBlank c)
    (hOperator : Token.ofOperator? c = none) :
    ¬ EndsToken c := by
  rintro (hEnds | hEnds)
  · exact hBlank hEnds
  · rcases Option.isSome_iff_exists.mp hEnds with
      ⟨kind, hKind⟩
    have hToken :
        Token.ofOperator? c =
          some ⟨kind, String.singleton c, fun hNumber =>
            absurd hNumber
              (Kind.ofOperator?_ne_number hKind)⟩ :=
      Token.ofOperator?_eq_some_iff.mpr ⟨hKind, rfl⟩
    rw [hOperator] at hToken
    cases hToken

/-
  A run that the first text starts with does not go on into
  the second one.
-/
theorem IsSeam.stops_behind_run
    {c : Char}
    {others back : List Char}
    (hSeam : IsSeam (c :: others) back)
    (hBlank : ¬ IsBlank c)
    (hOperator : Token.ofOperator? c = none) :
    StopsNumber
      ((others.dropWhile fun c => IsNumberPart c) ++
        back) := by
  cases hDrop : others.dropWhile fun c => IsNumberPart c with
  | cons d tail =>
      have hStops := stopsNumber_dropWhile others
      rw [hDrop] at hStops
      exact hStops
  | nil =>
      -- the run reaches to the end of the first text, whose
      -- last character is then one of the run
      rcases hSeam with hStops | hEnds
      · exact hStops
      · exfalso
        have hParts : ∀ d ∈ others, IsNumberPart d := by
          rw [List.dropWhile_eq_nil_iff] at hDrop
          intro d hMem
          exact of_decide_eq_true (hDrop d hMem)
        have hNil := List.cons_ne_nil c others
        have hLast := hEnds _ (List.getLast_mem_getLast? hNil)
        rcases List.mem_cons.mp (List.getLast_mem hNil) with
          hFirst | hMem
        · rw [hFirst] at hLast
          exact not_endsToken_of_run hBlank hOperator hLast
        · exact hLast.not_isNumberPart (hParts _ hMem)

namespace Lexer

/-
  The stream of two texts that meet at a seam.  A run that the
  first text ends with stops there, whatever the second text
  starts with.
-/
theorem streamOf_append
    {front back : List Char}
    (hSeam : IsSeam front back) :
    streamOf (front ++ back) =
      (streamOf front).append (streamOf back) := by
  induction front using text_induction with
  | nil => simp
  | blank c others hBlank ih =>
      have hRest : IsSeam others back :=
        @IsSeam.of_append [c] others back hSeam
      rw [List.cons_append, streamOf_blank _ hBlank,
        streamOf_blank _ hBlank, ih hRest]
  | operator c others token hOperator ih =>
      have hKind :=
        Token.ofOperator?_kind_ne_endOfText hOperator
      have hRest : IsSeam others back :=
        @IsSeam.of_append [c] others back hSeam
      rw [List.cons_append, streamOf_operator _ hOperator,
        streamOf_operator _ hOperator, ih hRest,
        TokenStream.push_append _ _ hKind]
  | run c others hBlank hOperator ih =>
      have hRest :
          IsSeam (others.dropWhile fun c => IsNumberPart c)
            back := by
        rw [← List.takeWhile_append_dropWhile
          (p := fun c => decide (IsNumberPart c))
          (l := others), ← List.cons_append] at hSeam
        exact hSeam.of_append
      have hRun :
          ∀ d ∈ others.takeWhile fun c => IsNumberPart c,
            IsNumberPart d :=
        fun _ => isNumberPart_of_mem_takeWhile
      have hCut :=
        takeWhile_append_of_stops hRun
          (hSeam.stops_behind_run hBlank hOperator)
      rw [← List.append_assoc,
        List.takeWhile_append_dropWhile] at hCut
      rw [List.cons_append, streamOf_run _ hBlank hOperator,
        streamOf_run _ hBlank hOperator, hCut.1, hCut.2,
        ih hRest]
      split
      · rfl
      · next token hChecked =>
          have hKind : token.kind ≠ .endOfText := by
            intro hEnd
            rw [Token.kind_of_checked hChecked] at hEnd
            cases hEnd
          rw [TokenStream.push_append _ _ hKind]

/- Blanks at a seam add nothing to a stream. -/
theorem streamOf_insert_blanks
    {front blanks back : List Char}
    (hBlanks : ∀ c ∈ blanks, IsBlank c)
    (hSeam : IsSeam front back) :
    streamOf (front ++ blanks ++ back) =
      streamOf (front ++ back) := by
  have hBehind : IsSeam front (blanks ++ back) := by
    cases blanks with
    | nil => exact hSeam
    | cons blank blanks =>
        have hBlank := hBlanks blank List.mem_cons_self
        have hEnds : EndsToken blank := .inl hBlank
        left
        intro c hHead
        cases hHead
        exact hEnds.not_isNumberPart
  rw [List.append_assoc, streamOf_append hBehind,
    streamOf_append hSeam, streamOf_blanks back hBlanks]

end Lexer

------------------------------------------------------------
-- Positions between Tokens
------------------------------------------------------------

/- Characters put into a text at a position. -/
def insertAt
    (text : String)
    (position : Nat)
    (chars : List Char) : String :=
  String.ofList
    (text.toList.take position ++ chars ++
      text.toList.drop position)

/-
  A position at either end of a text, or in front of a
  character that is not part of a number, or behind one that
  ends a token.
-/
def BetweenTokens
    (text : List Char)
    (position : Nat) : Prop :=
  position = 0 ∨ position = text.length ∨
    (∃ c, text[position]? = some c ∧ ¬ IsNumberPart c) ∨
    (∃ c, text[position - 1]? = some c ∧ EndsToken c)

/- A text has a seam at every position between tokens. -/
theorem IsSeam.of_betweenTokens
    {text : List Char}
    {position : Nat}
    (h : BetweenTokens text position) :
    IsSeam (text.take position) (text.drop position) := by
  have hFirst : IsSeam (text.take 0) (text.drop 0) := by
    right
    intro c hLast
    cases hLast
  rcases h with rfl | rfl | ⟨c, hAt, hPart⟩ | ⟨c, hAt, hEnds⟩
  · exact hFirst
  · left
    rw [List.drop_length]
    intro c hHead
    cases hHead
  · left
    intro d hHead
    rw [List.head?_drop, hAt] at hHead
    cases hHead
    exact hPart
  · by_cases hZero : position = 0
    · rw [hZero]
      exact hFirst
    · right
      intro d hLast
      rw [List.getLast?_take, if_neg hZero, hAt] at hLast
      cases hLast
      exact hEnds

/- Blanks between the tokens of a text add nothing to it. -/
theorem streamOf_insertAt
    {text : String}
    {position : Nat}
    {blanks : List Char}
    (hBlanks : ∀ c ∈ blanks, IsBlank c)
    (hBetween : BetweenTokens text.toList position) :
    Lexer.streamOf (insertAt text position blanks).toList =
      Lexer.streamOf text.toList := by
  have hSeam := IsSeam.of_betweenTokens hBetween
  rw [insertAt, String.toList_ofList,
    Lexer.streamOf_insert_blanks hBlanks hSeam,
    List.take_append_drop]

------------------------------------------------------------
-- Tokens of Two Texts
------------------------------------------------------------

/-
  Two texts meet at a seam when one of them is empty, the
  first one ends in what ends a token, or the second one does
  not start with a part of a number.
-/
theorem IsSeam.of_boundary
    {front back : String}
    (h :
      front = "" ∨
        (∃ c, front.toList.getLast? = some c ∧
          EndsToken c) ∨
        back = "" ∨
        ∃ c, back.toList.head? = some c ∧
          ¬ IsNumberPart c) :
    IsSeam front.toList back.toList := by
  rcases h with rfl | ⟨c, hLast, hEnds⟩ | rfl |
    ⟨c, hHead, hPart⟩
  · right
    intro c hLast
    cases hLast
  · right
    intro d hMem
    rw [hLast] at hMem
    cases hMem
    exact hEnds
  · left
    intro c hHead
    cases hHead
  · left
    intro d hMem
    rw [hHead] at hMem
    cases hMem
    exact hPart

/-
  Where no token goes on from one text into another, the
  tokens of both are those of the first one, without the end
  of the text, and then those of the second one.  A fault of
  the first one comes before all that the second one holds,
  and a fault of the second one is found behind the first.
-/
theorem tokenize_append
    (front back : String)
    (hBoundary :
      front = "" ∨
        (∃ c, front.toList.getLast? = some c ∧
          EndsToken c) ∨
        back = "" ∨
        ∃ c, back.toList.head? = some c ∧
          ¬ IsNumberPart c) :
    (∀ fault, tokenize front = .error fault →
      tokenize (front ++ back) = .error fault) ∧
      (∀ all fault, tokenize front = .ok all →
        tokenize back = .error fault →
          tokenize (front ++ back) = .error fault) ∧
      (∀ all others, tokenize front = .ok all →
        tokenize back = .ok others →
          ∃ tokens, all = tokens ++ [.endOfText] ∧
            tokenize (front ++ back) =
              .ok (tokens ++ others)) := by
  have hStream :=
    Lexer.streamOf_append (IsSeam.of_boundary hBoundary)
  rw [← String.toList_append] at hStream
  refine ⟨?_, ?_, ?_⟩
  · intro fault hFront
    rw [tokenize_eq_error_iff_streamOf] at hFront ⊢
    rw [hStream, TokenStream.append, hFront]
  · intro all fault hFront hBack
    rcases tokenize_eq_ok_iff_streamOf.mp hFront with
      ⟨tokens, hTokens, _⟩
    rw [tokenize_eq_error_iff_streamOf] at hBack ⊢
    rw [hStream, hTokens, TokenStream.append, hBack]
  · intro all others hFront hBack
    rcases tokenize_eq_ok_iff_streamOf.mp hFront with
      ⟨tokens, hTokens, hAll⟩
    rcases tokenize_eq_ok_iff_streamOf.mp hBack with
      ⟨behind, hBehind, rfl⟩
    refine ⟨tokens, hAll, ?_⟩
    rw [tokenize_eq_ok_iff_streamOf]
    refine ⟨tokens ++ behind, ?_, ?_⟩
    · rw [hStream, hTokens, hBehind, TokenStream.append]
    · rw [List.append_assoc]

/-
  A number ends at a seam whatever follows it, a fault behind
  a seam is found there, and of two faults the first one.
-/
theorem tokenize_across_seams :
    let one : Token := ⟨.number, "1.", fun _ => rfl⟩
    let plus : Token := ⟨.plus, "+", nofun⟩
    let half : Token := ⟨.number, ".5", fun _ => rfl⟩
    tokenize ("1." ++ "+.5") =
        .ok [one, plus, half, .endOfText] ∧
      tokenize ("(" ++ "1.5.") =
        .error (.invalidNumber "1.5." .number) ∧
      tokenize ("2 $1" ++ "-.") =
        .error (.invalidNumber "$1" .number) := by
  intro one plus half
  have hSum :=
    tokenize_append "1." "+.5"
      (.inr (.inr (.inr ⟨'+', rfl, by decide⟩)))
  have hGroup :=
    tokenize_append "(" "1.5."
      (.inr (.inl ⟨'(', rfl, by decide⟩))
  have hFaults :=
    tokenize_append "2 $1" "-."
      (.inr (.inr (.inr ⟨'-', rfl, by decide⟩)))
  refine ⟨?_, ?_, ?_⟩
  · rcases
      hSum.2.2 [one, .endOfText] [plus, half, .endOfText]
        (by decide +kernel) (by decide +kernel) with
      ⟨tokens, hTokens, hBoth⟩
    have hOne : [one] = tokens :=
      List.append_cancel_right hTokens
    rw [hBoth, ← hOne]
    rfl
  · exact
      hGroup.2.1 [⟨.leftParen, "(", nofun⟩, .endOfText] _
        (by decide +kernel) (by decide +kernel)
  · exact hFaults.1 _ (by decide +kernel)

end ArithExpr
