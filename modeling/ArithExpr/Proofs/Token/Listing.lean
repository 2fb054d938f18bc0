import ArithExpr.Proofs.Lexer.Stream
import ArithExpr.Token.Listing

/-
  A listing of tokens is read back.

  The tokens of a text are spelled without blanks of any kind,
  and only the end of the text is spelled by nothing.  So a
  line of a listing loses no part of a token, no token takes
  more than one line, and a listing that is cut at its line
  feeds holds one line for each token.

  Key definitions include:
    * `Text.cutLines`
    * `Token.ofLine?`
    * `Token.IsListed`
    * `Token.AreListed`

  Main declarations:
    * `Token.IsLexeme.line_eq`
    * `Token.IsListed.ofLine?_line`
    * `Token.AreListed.cutLines_listing`
    * `Token.AreListed.eq_of_listing_eq`
    * `Token.areListed_of_tokenize`
-/

------------------------------------------------------------
-- Reading Lines
------------------------------------------------------------

namespace ArithExpr

/-
  The parts of a text between its line feeds.  The last part
  is what stands behind the last line feed.
-/
def Text.cutLines (text : String) : List String :=
  (text.toList.splitOn '\n').map String.ofList

/-
  The token that a line stands for: the name of its kind and,
  if there is more, one space and then its text.
-/
def Token.ofLine? (line : String) : Option Token :=
  let isName := fun c : Char => decide (c ≠ ' ')
  let name := String.ofList (line.toList.takeWhile isName)
  let literal :=
    String.ofList ((line.toList.dropWhile isName).drop 1)
  (Kind.ofName? name).bind fun kind =>
    Token.ofParts? kind literal

end ArithExpr

------------------------------------------------------------
-- Names of Kinds
------------------------------------------------------------

namespace ArithExpr

namespace Kind

/- A kind is known by its name. -/
theorem ofName?_name
    (kind : Kind) :
    ofName? kind.name = some kind := by
  cases kind <;> decide

/- No name of a kind holds a blank of any sort. -/
theorem not_isWhite_of_mem_name
    (kind : Kind) :
    ∀ c ∈ kind.name.toList, ¬ Text.IsWhite c := by
  have hAll :
      kind.name.toList.all
        (fun c => decide (¬ Text.IsWhite c)) = true := by
    cases kind <;> decide
  intro c hMem
  exact of_decide_eq_true (List.all_eq_true.mp hAll c hMem)

end Kind

end ArithExpr

------------------------------------------------------------
-- Blanks of Any Sort
------------------------------------------------------------

namespace ArithExpr

/- A text that does not end in a blank stays as it is. -/
theorem Text.trimRight_eq_self
    {text : String}
    (h : ∀ c ∈ text.toList.getLast?, ¬ IsWhite c) :
    trimRight text = text := by
  unfold trimRight
  rw [List.getLast?_eq_head?_reverse] at h
  cases hReverse : text.toList.reverse with
  | nil =>
      rw [List.reverse_eq_nil_iff] at hReverse
      rw [← String.ofList_toList (s := text), hReverse]
      rfl
  | cons c others =>
      rw [hReverse] at h
      rw [List.dropWhile_cons_of_neg (by
          simpa using h c rfl),
        ← hReverse, List.reverse_reverse,
        String.ofList_toList]

/- No character of a number is a blank of any sort. -/
theorem IsNumberPart.not_isWhite
    {c : Char}
    (h : IsNumberPart c) :
    ¬ Text.IsWhite c := by
  rcases h with hDigit | rfl
  · have hRange : 48 ≤ c.toNat ∧ c.toNat ≤ 57 := by
      simpa [Char.isDigit, UInt32.le_iff_toNat_le] using hDigit
    have hApart :
        ∀ range ∈ Text.blanks,
          range.2 < 48 ∨ 57 < range.1 := by
      decide
    rintro ⟨range, hMem, hLow, hHigh⟩
    have hOutside := hApart range hMem
    omega
  · decide

/- No operator character is a blank of any sort. -/
theorem Kind.operators_not_isWhite :
    ∀ entry ∈ Kind.operators, ¬ Text.IsWhite entry.1 := by
  decide

namespace Token

/- No lexeme holds a blank of any sort. -/
theorem IsLexeme.not_isWhite
    {token : Token}
    (h : token.IsLexeme) :
    ∀ c ∈ token.literal.toList, ¬ Text.IsWhite c := by
  rcases h with ⟨c, hKind, hLiteral⟩ | ⟨_, hNumeral⟩
  · rw [hLiteral, String.toList_singleton]
    intro d hMem
    rw [List.mem_singleton.mp hMem]
    exact
      Kind.operators_not_isWhite _
        (Kind.mem_operators hKind)
  · intro c hMem
    exact (hNumeral.isNumberPart c hMem).not_isWhite

/- Every lexeme is spelled by something. -/
theorem IsLexeme.literal_ne_nil
    {token : Token}
    (h : token.IsLexeme) :
    token.literal.toList ≠ [] := by
  rcases h with ⟨c, _, hLiteral⟩ | ⟨_, hNumeral⟩
  · simp [hLiteral]
  · exact hNumeral.ne_nil

------------------------------------------------------------
-- Lines of Single Tokens
------------------------------------------------------------

/- The tokens of a text are lexemes, and its end. -/
def IsListed (token : Token) : Prop :=
  token.IsLexeme ∨ token = endOfText

/- The line of a lexeme holds all of its text. -/
theorem IsLexeme.line_eq
    {token : Token}
    (h : token.IsLexeme) :
    token.line =
      token.kind.name ++ " " ++ token.literal := by
  apply Text.trimRight_eq_self
  intro c hLast
  rw [String.toList_append, List.getLast?_append,
    List.getLast?_eq_some_getLast h.literal_ne_nil,
    Option.some_or] at hLast
  cases hLast
  exact h.not_isWhite _ (List.getLast_mem _)

/- A line is read back as the token that it lists. -/
theorem IsListed.ofLine?_line
    {token : Token}
    (h : token.IsListed) :
    ofLine? token.line = some token := by
  rcases h with hLexeme | rfl
  · have hName :
        ∀ c ∈ token.kind.name.toList,
          decide (c ≠ ' ') = true := by
      intro c hMem
      have hWhite := token.kind.not_isWhite_of_mem_name c hMem
      apply decide_eq_true
      rintro rfl
      exact hWhite (by decide)
    have hChars :
        token.line.toList =
          token.kind.name.toList ++
            ' ' :: token.literal.toList := by
      rw [hLexeme.line_eq]
      simp
    unfold ofLine?
    dsimp only
    rw [hChars, List.takeWhile_append_of_pos hName,
      List.dropWhile_append_of_pos hName]
    rw [List.takeWhile_cons_of_neg (by decide),
      List.dropWhile_cons_of_neg (by decide),
      List.append_nil, String.ofList_toList,
      List.drop_one, List.tail_cons, String.ofList_toList,
      Kind.ofName?_name]
    exact dif_pos token.isNumeral
  · decide

/- A token takes no more than one line. -/
theorem IsListed.not_mem_line
    {token : Token}
    (h : token.IsListed) :
    '\n' ∉ token.line.toList := by
  rcases h with hLexeme | rfl
  · rw [hLexeme.line_eq]
    simp only [String.toList_append, List.mem_append, not_or]
    refine ⟨⟨fun hMem => ?_, by decide⟩, fun hMem => ?_⟩
    · exact
        token.kind.not_isWhite_of_mem_name _ hMem (by decide)
    · exact hLexeme.not_isWhite _ hMem (by decide)
  · decide

------------------------------------------------------------
-- Whole Listings
------------------------------------------------------------

/- A listing of at least one token, each of which is listed. -/
structure AreListed (tokens : List Token) : Prop where
  ne_nil : tokens ≠ []
  isListed : ∀ token ∈ tokens, token.IsListed

/-
  A listing that is ended by a line feed has one line for each
  token, and nothing behind the last one.
-/
theorem AreListed.cutLines_listing
    {tokens : List Token}
    (h : AreListed tokens) :
    Text.cutLines (listing tokens ++ "\n") =
      tokens.map line ++ [""] := by
  have hLines :
      ∀ chars ∈ (tokens.map line).map String.toList,
        '\n' ∉ chars := by
    intro chars hMem
    rw [List.map_map] at hMem
    rcases List.mem_map.mp hMem with ⟨token, hToken, rfl⟩
    exact (h.isListed token hToken).not_mem_line
  have hNil : (tokens.map line).map String.toList ≠ [] := by
    simpa using h.ne_nil
  have hSplit :
      (listing tokens).toList.splitOn '\n' =
        (tokens.map line).map String.toList := by
    rw [listing, String.toList_intercalate]
    exact List.splitOn_intercalate '\n' hLines hNil
  have hEnded :
      (listing tokens ++ "\n").toList =
        (listing tokens).toList ++ '\n' :: [] := by
    rw [String.toList_append]
    rfl
  unfold Text.cutLines
  rw [hEnded, List.splitOn_append_cons_self, hSplit]
  simp

/- The lines of a listing are read back as its tokens. -/
theorem AreListed.map_ofLine?_line
    {tokens : List Token}
    (h : AreListed tokens) :
    (tokens.map line).map ofLine? = tokens.map some := by
  rw [List.map_map]
  apply List.map_congr_left
  intro token hToken
  rw [Function.comp_apply]
  exact (h.isListed token hToken).ofLine?_line

/- Listings that are the same list the same tokens. -/
theorem AreListed.eq_of_listing_eq
    {left right : List Token}
    (hLeft : AreListed left)
    (hRight : AreListed right)
    (h : listing left ++ "\n" = listing right ++ "\n") :
    left = right := by
  have hLines :
      left.map line ++ [""] = right.map line ++ [""] := by
    rw [← hLeft.cutLines_listing, ← hRight.cutLines_listing,
      h]
  apply (List.map_inj_right fun _ _ => Option.some.inj).mp
  rw [← hLeft.map_ofLine?_line, ← hRight.map_ofLine?_line,
    List.append_cancel_right hLines]

------------------------------------------------------------
-- The Tokens of a Text
------------------------------------------------------------

/- The tokens of a text are lexemes, and then its end. -/
theorem exists_lexemes_of_tokenize
    {text : String}
    {tokens : List Token}
    (h : tokenize text = .ok tokens) :
    ∃ lexemes,
      tokens = lexemes ++ [endOfText] ∧
        ∀ token ∈ lexemes, token.IsLexeme := by
  rcases tokenize_eq_ok_iff_streamOf.mp h with
    ⟨lexemes, hStream, rfl⟩
  refine ⟨lexemes, rfl, ?_⟩
  have hLexemes :=
    Lexer.isLexeme_of_mem_streamOf text.toList
  rwa [hStream] at hLexemes

/- The tokens of every text are listed. -/
theorem areListed_of_tokenize
    {text : String}
    {tokens : List Token}
    (h : tokenize text = .ok tokens) :
    AreListed tokens := by
  rcases exists_lexemes_of_tokenize h with
    ⟨lexemes, rfl, hLexemes⟩
  constructor
  · simp
  · intro token hMem
    rcases List.mem_append.mp hMem with hLexeme | hEnd
    · exact .inl (hLexemes token hLexeme)
    · exact .inr (List.mem_singleton.mp hEnd)

end Token

end ArithExpr
