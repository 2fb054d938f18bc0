import ArithExpr.Proofs.Grammar.Scanner

/-
  Unique reading: tokens derive at most one expression.

  A scanner leaves a phrase with as many open groups as it
  entered it with, and never has fewer in between.  So it
  tells the operators of a phrase from those in its groups,
  and none of the former binds less tightly than the phrase.
  The last operator of a level is thus found from the tokens
  alone.

  Main declarations:
    * `Phrase.run_tokens`
    * `Phrase.opened_le`
    * `Phrase.precedence_le_of_operator`
    * `Phrase.last_operator_eq`
    * `Phrase.eq_of_tokens_eq`
    * `Derives.unique`
-/

------------------------------------------------------------
-- Scanning Phrases
------------------------------------------------------------

namespace ArithExpr

namespace Phrase

/- A phrase fills the place of an operand. -/
theorem run_tokens
    {level : Level}
    (phrase : Phrase level)
    (opened : Nat) :
    Scanner.run ⟨.operand, opened⟩ phrase.tokens =
      some ⟨.operator, opened⟩ := by
  induction phrase generalizing opened with
  | number token hKind =>
      exact Scanner.run_cons_of_goOn []
        (Scanner.verdict_of_number opened hKind)
  | signed token hSign inner ih =>
      rw [tokens, Scanner.run_cons_of_goOn _
        (Scanner.verdict_of_sign opened hSign)]
      exact ih opened
  | group opening closing hOpening hClosing inner ih =>
      rw [tokens, Scanner.run_cons_of_goOn _
        (Scanner.verdict_of_opening opened hOpening),
        Scanner.run_append, ih]
      exact Scanner.run_cons_of_goOn []
        (Scanner.verdict_of_closing opened hClosing)
  | single hLevel inner ih => exact ih opened
  | binary token hTakes left right ihLeft ihRight =>
      have hBinary := (Level.takes_iff.mp hTakes).1
      rw [tokens, Scanner.run_append, ihLeft,
        Option.bind_some,
        Scanner.run_cons_of_goOn _
          (Scanner.verdict_of_binary opened hBinary)]
      exact ihRight opened

/- Inside a phrase no group is closed that was open before. -/
theorem opened_le
    {level : Level}
    (phrase : Phrase level)
    {opened : Nat}
    {front back : List Token}
    {scanner : Scanner}
    (hTokens : phrase.tokens = front ++ back)
    (hRun :
      Scanner.run ⟨.operand, opened⟩ front =
        some scanner) :
    opened ≤ scanner.opened := by
  induction phrase generalizing opened front back scanner with
  | number token hKind =>
      rcases List.cons_eq_append_iff.mp hTokens with
        ⟨rfl, _⟩ | ⟨others, rfl, hOthers⟩
      · cases hRun
        exact Nat.le_refl _
      · rw [Scanner.run_cons_of_goOn _
          (Scanner.verdict_of_number opened hKind),
          (List.append_eq_nil_iff.mp hOthers.symm).1] at hRun
        cases hRun
        exact Nat.le_refl _
  | signed token hSign inner ih =>
      rcases List.cons_eq_append_iff.mp hTokens with
        ⟨rfl, _⟩ | ⟨others, rfl, hOthers⟩
      · cases hRun
        exact Nat.le_refl _
      · rw [Scanner.run_cons_of_goOn _
          (Scanner.verdict_of_sign opened hSign)] at hRun
        exact ih hOthers hRun
  | group opening closing hOpening hClosing inner ih =>
      rcases List.cons_eq_append_iff.mp hTokens with
        ⟨rfl, _⟩ | ⟨others, rfl, hOthers⟩
      · cases hRun
        exact Nat.le_refl _
      · rw [Scanner.run_cons_of_goOn _
          (Scanner.verdict_of_opening opened
            hOpening)] at hRun
        rcases List.append_eq_append_iff.mp hOthers with
          ⟨beyond, rfl, hBeyond⟩ | ⟨behind, hBehind, _⟩
        · rw [Scanner.run_append, inner.run_tokens,
            Option.bind_some] at hRun
          rcases List.cons_eq_append_iff.mp hBeyond with
            ⟨rfl, _⟩ | ⟨last, rfl, hLast⟩
          · cases hRun
            exact Nat.le_succ _
          · rw [Scanner.run_cons_of_goOn _
              (Scanner.verdict_of_closing opened hClosing),
              (List.append_eq_nil_iff.mp hLast.symm).1]
              at hRun
            cases hRun
            exact Nat.le_refl _
        · have hLe := ih hBehind hRun
          omega
  | single hLevel inner ih => exact ih hTokens hRun
  | binary token hTakes left right ihLeft ihRight =>
      have hBinary := (Level.takes_iff.mp hTakes).1
      rcases List.append_eq_append_iff.mp hTokens with
        ⟨beyond, rfl, hBeyond⟩ | ⟨behind, hBehind, _⟩
      · rw [Scanner.run_append, left.run_tokens,
          Option.bind_some] at hRun
        rcases List.cons_eq_append_iff.mp hBeyond with
          ⟨rfl, _⟩ | ⟨others, rfl, hOthers⟩
        · cases hRun
          exact Nat.le_refl _
        · rw [Scanner.run_cons_of_goOn _
            (Scanner.verdict_of_binary opened
              hBinary)] at hRun
          exact ihRight hOthers hRun
      · exact ihLeft hBehind hRun

------------------------------------------------------------
-- Operators Outside Groups
------------------------------------------------------------

/-
  An operator of a phrase outside its groups, which a scanner
  meets with no group opened, binds no looser than the phrase.
-/
theorem precedence_le_of_operator
    {level : Level}
    (phrase : Phrase level)
    {opened : Nat}
    {front back : List Token}
    {token : Token}
    (hTokens : phrase.tokens = front ++ token :: back)
    (hRun :
      Scanner.run ⟨.operand, opened⟩ front =
        some ⟨.operator, opened⟩) :
    level.precedence ≤ token.kind.precedence := by
  induction phrase generalizing opened front back token with
  | number other hKind =>
      rcases List.cons_eq_append_iff.mp hTokens with
        ⟨rfl, _⟩ | ⟨others, _, hOthers⟩
      · cases hRun
      · cases (List.append_eq_nil_iff.mp hOthers.symm).2
  | signed other hSign inner ih =>
      rcases List.cons_eq_append_iff.mp hTokens with
        ⟨rfl, _⟩ | ⟨others, rfl, hOthers⟩
      · cases hRun
      · rw [Scanner.run_cons_of_goOn _
          (Scanner.verdict_of_sign opened hSign)] at hRun
        exact ih hOthers hRun
  | group opening closing hOpening hClosing inner ih =>
      exfalso
      rcases List.cons_eq_append_iff.mp hTokens with
        ⟨rfl, _⟩ | ⟨others, rfl, hOthers⟩
      · cases hRun
      · rw [Scanner.run_cons_of_goOn _
          (Scanner.verdict_of_opening opened
            hOpening)] at hRun
        -- the group is still open wherever a token follows
        have hInner :
            ∃ behind, inner.tokens = others ++ behind := by
          rcases List.append_eq_append_iff.mp hOthers with
            ⟨beyond, rfl, hBeyond⟩ | ⟨behind, hBehind, _⟩
          · rcases List.cons_eq_append_iff.mp hBeyond with
              ⟨rfl, _⟩ | ⟨_, _, hNil⟩
            · exact ⟨[], by simp⟩
            · cases (List.append_eq_nil_iff.mp hNil.symm).2
          · exact ⟨behind, hBehind⟩
        rcases hInner with ⟨behind, hBehind⟩
        have hLe := inner.opened_le hBehind hRun
        exact Nat.not_succ_le_self _ hLe
  | @single level hLevel inner ih =>
      have hTighter := Level.precedence_lt_tighter hLevel
      have hLe := ih hTokens hRun
      omega
  | @binary level other hTakes left right ihLeft ihRight =>
      have hKind := Level.takes_iff.mp hTakes
      rcases List.append_eq_append_iff.mp hTokens with
        ⟨beyond, rfl, hBeyond⟩ | ⟨behind, hBehind, hOther⟩
      · rw [Scanner.run_append, left.run_tokens,
          Option.bind_some] at hRun
        rcases List.cons_eq_append_iff.mp hBeyond with
          ⟨rfl, hHead⟩ | ⟨others, rfl, hOthers⟩
        · cases hHead
          exact Int.le_of_eq hKind.2.symm
        · rw [Scanner.run_cons_of_goOn _
            (Scanner.verdict_of_binary opened
              hKind.1)] at hRun
          have hTighter :=
            Level.precedence_lt_tighter
              (Level.ne_operand_of_takes hTakes)
          have hLe := ihRight hOthers hRun
          omega
      · cases behind with
        | nil =>
            cases hOther
            exact Int.le_of_eq hKind.2.symm
        | cons first behind =>
            rw [List.cons_append] at hOther
            cases hOther
            exact ihLeft hBehind hRun

/-
  A phrase of a tighter level is not an operator of the level
  between two others.
-/
theorem tokens_ne_binary
    {level : Level}
    {token : Token}
    (hTakes : level.Takes token.kind)
    (phrase : Phrase level.tighter)
    (left : Phrase level)
    (back : List Token) :
    phrase.tokens ≠ left.tokens ++ token :: back := by
  intro hTokens
  have hLe :=
    phrase.precedence_le_of_operator hTokens
      (left.run_tokens 0)
  have hTighter :=
    Level.precedence_lt_tighter
      (Level.ne_operand_of_takes hTakes)
  rw [(Level.takes_iff.mp hTakes).2] at hLe
  omega

/-
  The left operand of the last operator is as long in every
  reading: if it were longer in one, the right operand of the
  other would hold an operator of the level.
-/
theorem left_not_longer
    {level : Level}
    {token other : Token}
    (hTakes : level.Takes token.kind)
    (hOther : level.Takes other.kind)
    {left left' : Phrase level}
    {right right' : Phrase level.tighter}
    {beyond : List Token}
    (hLeft : left'.tokens = left.tokens ++ beyond)
    (hRight :
      token :: right.tokens =
        beyond ++ other :: right'.tokens) :
    beyond = [] := by
  rcases List.cons_eq_append_iff.mp hRight with
    ⟨hNil, _⟩ | ⟨front, rfl, hFront⟩
  · exact hNil
  · exfalso
    have hRun := left'.run_tokens 0
    rw [hLeft, Scanner.run_append, left.run_tokens,
      Option.bind_some,
      Scanner.run_cons_of_goOn _
        (Scanner.verdict_of_binary 0
          (Level.takes_iff.mp hTakes).1)] at hRun
    have hLe := right.precedence_le_of_operator hFront hRun
    have hTighter :=
      Level.precedence_lt_tighter
        (Level.ne_operand_of_takes hTakes)
    rw [(Level.takes_iff.mp hOther).2] at hLe
    omega

/- The last operator of a level is the same in every reading. -/
theorem last_operator_eq
    {level : Level}
    {token other : Token}
    (hTakes : level.Takes token.kind)
    (hOther : level.Takes other.kind)
    {left left' : Phrase level}
    {right right' : Phrase level.tighter}
    (h :
      left.tokens ++ token :: right.tokens =
        left'.tokens ++ other :: right'.tokens) :
    left.tokens = left'.tokens ∧ token = other ∧
      right.tokens = right'.tokens := by
  rcases List.append_eq_append_iff.mp h with
    ⟨beyond, hLeft, hRight⟩ | ⟨beyond, hLeft, hRight⟩
  · have hNil :=
      left_not_longer hTakes hOther hLeft hRight
    subst hNil
    exact ⟨by simpa using hLeft.symm, List.cons.inj hRight⟩
  · have hNil :=
      left_not_longer hOther hTakes hLeft hRight
    subst hNil
    exact
      ⟨by simpa using hLeft, List.cons.inj hRight.symm⟩

------------------------------------------------------------
-- Unique Reading
------------------------------------------------------------

/- A phrase is known by its level and its tokens. -/
theorem eq_of_tokens_eq
    {level : Level}
    (left right : Phrase level)
    (h : left.tokens = right.tokens) :
    left = right := by
  induction left with
  | number token hKind =>
      cases right with
      | number token' hKind' =>
          cases h
          rfl
      | signed token' hSign' inner' =>
          exact absurd (List.cons.inj h).2.symm
            inner'.tokens_ne_nil
      | group opening' closing' hOpening' hClosing' inner' =>
          cases List.append_eq_nil_iff.mp
            (List.cons.inj h).2.symm with
          | intro _ hClosing => cases hClosing
      | single hLevel' inner' => exact absurd rfl hLevel'
      | binary token' hTakes' left' right' =>
          exact absurd rfl
            (Level.ne_operand_of_takes hTakes')
  | signed token hSign inner ih =>
      cases right with
      | number token' hKind' =>
          exact absurd (List.cons.inj h).2
            inner.tokens_ne_nil
      | signed token' hSign' inner' =>
          rcases List.cons.inj h with ⟨rfl, hInner⟩
          rw [ih inner' hInner]
      | group opening' closing' hOpening' hClosing' inner' =>
          rcases List.cons.inj h with ⟨rfl, _⟩
          rw [hOpening'] at hSign
          exact absurd hSign id
      | single hLevel' inner' => exact absurd rfl hLevel'
      | binary token' hTakes' left' right' =>
          exact absurd rfl
            (Level.ne_operand_of_takes hTakes')
  | group opening closing hOpening hClosing inner ih =>
      cases right with
      | number token' hKind' =>
          cases List.append_eq_nil_iff.mp
            (List.cons.inj h).2 with
          | intro _ hClosing => cases hClosing
      | signed token' hSign' inner' =>
          rcases List.cons.inj h with ⟨rfl, _⟩
          rw [hOpening] at hSign'
          exact absurd hSign' id
      | group opening' closing' hOpening' hClosing' inner' =>
          rcases List.cons.inj h with ⟨rfl, hRest⟩
          rcases List.append_inj' hRest rfl with
            ⟨hInner, hLast⟩
          cases hLast
          rw [ih inner' hInner]
      | single hLevel' inner' => exact absurd rfl hLevel'
      | binary token' hTakes' left' right' =>
          exact absurd rfl
            (Level.ne_operand_of_takes hTakes')
  | single hLevel inner ih =>
      cases right with
      | single hLevel' inner' => rw [ih inner' h]
      | binary token' hTakes' left' right' =>
          exact absurd h
            (tokens_ne_binary hTakes' inner left' _)
      | number token' hKind' => exact absurd rfl hLevel
      | signed token' hSign' inner' =>
          exact absurd rfl hLevel
      | group opening' closing' hOpening' hClosing' inner' =>
          exact absurd rfl hLevel
  | binary token hTakes left right ihLeft ihRight =>
      have hLevel := Level.ne_operand_of_takes hTakes
      cases right with
      | single hLevel' inner' =>
          exact absurd h.symm
            (tokens_ne_binary hTakes inner' left _)
      | binary token' hTakes' left' right' =>
          rcases last_operator_eq hTakes hTakes' h with
            ⟨hLeft, rfl, hRight⟩
          rw [ihLeft left' hLeft, ihRight right' hRight]
      | number token' hKind' => exact absurd rfl hLevel
      | signed token' hSign' inner' =>
          exact absurd rfl hLevel
      | group opening' closing' hOpening' hClosing' inner' =>
          exact absurd rfl hLevel

end Phrase

/- Tokens derive at most one expression. -/
theorem Derives.unique
    {tokens : List Token}
    {left right : Expr}
    (hLeft : Derives tokens left)
    (hRight : Derives tokens right) :
    left = right := by
  rcases hLeft with ⟨phrase, rfl, rfl⟩
  rcases hRight with ⟨phrase', hTokens, rfl⟩
  rw [phrase.eq_of_tokens_eq phrase' hTokens.symm]

end ArithExpr
