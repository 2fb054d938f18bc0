import Mathlib.Data.List.Infix
import Mathlib.Data.List.TakeWhile
import ArithExpr.Proofs.CommandLine.Items

/-
  What one option of a command line does.

  It is a misuse, or it is read as some items whatever the
  settings are.  An option that gives a value to the output
  comes apart into that value, which it carries or waits for,
  and arguments that say the rest.

  Key definitions include:
    * `Settings.outputUse?`
    * `Settings.OptionReading`

  Main declarations:
    * `Settings.readLetters_flags`
    * `Settings.optionReading`
-/

namespace ArithExpr

namespace Settings

------------------------------------------------------------
-- Taking Out a Value for the Output
------------------------------------------------------------

/- No option with the letter takes a value. -/
def isFlag (letter : Char) : Bool :=
  (Switch.ofLetter? letter).all fun switch =>
    ¬ switch.TakesValue

/- Some letters as an argument, if there are any. -/
def flagArguments (letters : List Char) : List String :=
  if letters = [] then [] else [String.ofList ('-' :: letters)]

/- The name that an option begins with. -/
def optionName (option : String) : String :=
  String.ofList
    (option.toList.takeWhile fun c => decide (c ≠ '='))

/- The value that an option carries after its name. -/
def carriedValue? (option : String) : Option String :=
  (option.toList.dropWhile
    fun c => decide (c ≠ '=')).tail?.map String.ofList

/-
  The letter of the output behind some flags gives its value
  to the output, or the argument that follows if it is last.
-/
def letterUse?
    (flags : List Char) :
    List Char → Option (List String × Option String)
| ['o'] => some (flagArguments flags, none)
| 'o' :: value =>
    some (flagArguments flags, some (String.ofList value))
| _ => none

/-
  For an option that gives a value to the output: the
  arguments that say the rest of what it says, and the value
  if the option carries it.
-/
def outputUse?
    (option : String) :
    Option (List String × Option String) :=
  match Switch.ofLongName? (optionName option) with
  | some switch =>
      if switch = .output then
        some ([], carriedValue? option)
      else
        none
  | none =>
      if option.toList.take 2 = ['-', '-'] then
        none
      else
        letterUse?
          ((option.toList.drop 1).takeWhile isFlag)
          ((option.toList.drop 1).dropWhile isFlag)

------------------------------------------------------------
-- What an Option Does
------------------------------------------------------------

/- A long name begins with two dashes. -/
theorem ofLongName?_eq_none
    {name : String}
    (h : name.toList.take 2 ≠ ['-', '-']) :
    Switch.ofLongName? name = none := by
  rw [Switch.ofLongName?, List.find?_eq_none]
  intro switch _ hName
  have hLong : switch.longName = name := by
    simpa using hName
  apply h
  rw [← hLong]
  cases switch <;> decide

/- Without two dashes an option has no long name. -/
theorem ofLongName?_optionName
    {option : String}
    (h : option.toList.take 2 ≠ ['-', '-']) :
    Switch.ofLongName? (optionName option) = none := by
  apply ofLongName?_eq_none
  rw [optionName, String.toList_ofList]
  intro hTake
  apply h
  have hPrefix :
      ['-', '-'] <+: option.toList := by
    rw [← hTake]
    exact
      (List.take_prefix _ _).trans (List.takeWhile_prefix _)
  exact (List.prefix_iff_eq_take.mp hPrefix).symm

/- Without two dashes an option is letters. -/
theorem readOption_letters
    {option : String}
    (settings : Settings)
    (h : option.toList.take 2 ≠ ['-', '-']) :
    settings.readOption option =
      settings.readLetters (option.toList.drop 1) := by
  have hName := ofLongName?_optionName h
  rw [optionName] at hName
  unfold readOption
  simp only [hName, if_neg h]

/-
  Letters that take no value are a misuse, or turn switches on
  and leave the letters behind them to be read.
-/
theorem readLetters_flags
    (flags : List Char)
    (hFlags : ∀ letter ∈ flags, isFlag letter = true) :
    (∃ fault,
      ∀ (settings : Settings) (letters : List Char),
        settings.readLetters (flags ++ letters) =
          .error fault) ∨
    ∃ items : List Item,
      (∀ item ∈ items, item.output? = none) ∧
      (∀ letter ∈ flags, letter ≠ '-') ∧
      ∀ (settings : Settings) (letters : List Char),
        settings.readLetters (flags ++ letters) =
          (settings.takeUp items).readLetters letters := by
  induction flags with
  | nil =>
      exact
        .inr
          ⟨[], List.forall_mem_nil _, List.forall_mem_nil _,
            fun _ _ => rfl⟩
  | cons letter flags ih =>
      have hFlag := hFlags letter List.mem_cons_self
      cases hLetter : Switch.ofLetter? letter with
      | none =>
          refine
            .inl
              ⟨.unknownOption (String.ofList ['-', letter])
                  [],
                fun settings letters => ?_⟩
          rw [List.cons_append, readLetters, hLetter]
      | some switch =>
          have hSwitch : ¬ switch.TakesValue := by
            rw [isFlag, hLetter] at hFlag
            simpa using hFlag
          have hStep :
              ∀ (settings : Settings) (letters : List Char),
                settings.readLetters
                    (letter :: flags ++ letters) =
                  (settings.turnOn switch).readLetters
                    (flags ++ letters) := by
            intro settings letters
            rw [List.cons_append, readLetters, hLetter]
            exact if_neg hSwitch
          have hDash : letter ≠ '-' := by
            rintro rfl
            cases hLetter
          rcases ih fun other hMem =>
              hFlags other (List.mem_cons_of_mem _ hMem) with
            ⟨fault, hFault⟩ |
            ⟨items, hItems, hNoDash, hRead⟩
          · refine .inl ⟨fault, fun settings letters => ?_⟩
            rw [hStep, hFault]
          · refine
              .inr ⟨.turnOn switch :: items, ?_, ?_, ?_⟩
            · exact List.forall_mem_cons.mpr ⟨rfl, hItems⟩
            · exact
                List.forall_mem_cons.mpr ⟨hDash, hNoDash⟩
            · intro settings letters
              rw [hStep, hRead]
              rfl

/- Letters that were taken out of an option read as before. -/
theorem reads_flagArguments
    {flags : List Char}
    {items others : List Item}
    {arguments : List String}
    (hDash : ∀ letter ∈ flags, letter ≠ '-')
    (hRead :
      ∀ settings : Settings,
        settings.readLetters flags =
          .ok (settings.takeUp items, none))
    (h : Reads arguments others) :
    Reads (flagArguments flags ++ arguments)
      (items ++ others) := by
  cases flags with
  | nil =>
      intro settings
      have hSame :
          settings.takeUp items = settings := by
        have hEmpty := hRead settings
        rw [readLetters] at hEmpty
        injection hEmpty with hEmpty
        exact (congrArg Prod.fst hEmpty).symm
      change settings.scanFrom arguments = _
      rw [h, takeUp_append, hSame]
  | cons letter flags =>
      have hLetter := hDash letter List.mem_cons_self
      have hChars :
          (String.ofList ('-' :: letter :: flags)).toList =
            '-' :: letter :: flags :=
        String.toList_ofList
      have hTake :
          (String.ofList ('-' :: letter :: flags)).toList.take
              2 ≠ ['-', '-'] := by
        rw [hChars]
        intro hTake
        exact hLetter (by simpa using hTake)
      apply reads_option
      · intro hEnd
        apply hTake
        rw [hEnd]
        rfl
      · constructor
        · rw [hChars]
          rfl
        · rw [hChars]
          simp
      · intro settings
        rw [readOption_letters settings hTake, hChars]
        exact hRead settings
      · exact h

/-
  What an option does: it is a misuse, gives nothing to the
  output, or gives it a value that it carries or waits for.
  What is left of it then says the rest.
-/
inductive OptionReading (option : String) : Prop
| misuse
    (fault : UsageFault)
    (hMisuse : OptionMisuses option fault)
| plain
    (items : List Item)
    (hItems : ∀ item ∈ items, item.output? = none)
    (hRead : OptionReads option items none)
    (hUse : outputUse? option = none)
| waits
    (items : List Item)
    (hItems : ∀ item ∈ items, item.output? = none)
    (name : String)
    (hRead : OptionReads option items (some (.file, name)))
    (hUse : outputUse? option = none)
| carries
    (items : List Item)
    (hItems : ∀ item ∈ items, item.output? = none)
    (value : String)
    (hRead :
      OptionReads option
        (items ++ [.give .output value]) none)
    (kept : List String)
    (hUse : outputUse? option = some (kept, some value))
    (hKept :
      ∀ arguments others, Reads arguments others →
        Reads (kept ++ arguments) (items ++ others))
| awaits
    (items : List Item)
    (hItems : ∀ item ∈ items, item.output? = none)
    (name : String)
    (hRead : OptionReads option items (some (.output, name)))
    (kept : List String)
    (hUse : outputUse? option = some (kept, none))
    (hKept :
      ∀ arguments others, Reads arguments others →
        Reads (kept ++ arguments) (items ++ others))

/- An option that is called by its long name. -/
theorem optionReading_of_longName
    {option : String}
    {switch : Switch}
    (h :
      Switch.ofLongName? (optionName option) =
        some switch) :
    OptionReading option := by
  have hRead :
      ∀ settings : Settings,
        settings.readOption option =
          settings.readLong switch
            (carriedValue? option) := by
    intro settings
    rw [optionName] at h
    unfold readOption
    simp only [h]
    rfl
  have hUse :
      outputUse? option =
        if switch = .output then
          some ([], carriedValue? option)
        else
          none := by
    unfold outputUse?
    simp only [h]
  generalize carriedValue? option = value? at hRead hUse
  by_cases hSwitch : switch.TakesValue
  · cases value? with
    | none =>
        have hWaits :
            OptionReads option []
              (some (switch, switch.longName)) := by
          intro settings
          rw [hRead, readLong, if_pos hSwitch]
          rfl
        cases switch with
        | file => exact .waits [] (by simp) _ hWaits hUse
        | output =>
            exact
              .awaits [] (by simp) _ hWaits [] hUse
                fun _ _ hRest => hRest
        | tokens | verbose | help => cases hSwitch
    | some value =>
        have hGives :
            OptionReads option [.give switch value] none := by
          intro settings
          rw [hRead, readLong, if_pos hSwitch]
          rfl
        cases switch with
        | file =>
            exact
              .plain _ (List.forall_mem_singleton.mpr rfl)
                hGives hUse
        | output =>
            exact
              .carries [] (by simp) value hGives [] hUse
                fun _ _ hRest => hRest
        | tokens | verbose | help => cases hSwitch
  · cases value? with
    | none =>
        have hTurns :
            OptionReads option [.turnOn switch] none := by
          intro settings
          rw [hRead, readLong, if_neg hSwitch]
          rfl
        refine
          .plain _ (List.forall_mem_singleton.mpr rfl)
            hTurns ?_
        rw [hUse, if_neg]
        rintro rfl
        exact hSwitch trivial
    | some value =>
        refine
          .misuse (.unwantedValue switch.longName)
            fun settings => ?_
        rw [hRead, readLong, if_neg hSwitch]

/- Letters from the first one that takes a value. -/
theorem readLetters_value
    {letter : Char}
    (value : List Char)
    (h : isFlag letter = false) :
    ∃ switch : Switch,
      switch.TakesValue ∧
      switch.letter? = some letter ∧
      ∀ settings : Settings,
        settings.readLetters (letter :: value) =
          if value = [] then
            .ok (settings,
              some (switch, String.ofList ['-', letter]))
          else
            .ok (settings.give (String.ofList value) switch,
              none) := by
  cases hLetter : Switch.ofLetter? letter with
  | none =>
      rw [isFlag, hLetter] at h
      cases h
  | some switch =>
      have hSwitch : switch.TakesValue := by
        rw [isFlag, hLetter] at h
        simpa using h
      have hName : switch.letter? = some letter := by
        simpa using List.find?_some hLetter
      refine ⟨switch, hSwitch, hName, fun settings => ?_⟩
      rw [readLetters, hLetter]
      exact if_pos hSwitch

/- An option that is letters after one dash. -/
theorem optionReading_of_letters
    {option : String}
    (h : option.toList.take 2 ≠ ['-', '-']) :
    OptionReading option := by
  have hUse :
      outputUse? option =
        letterUse?
          ((option.toList.drop 1).takeWhile isFlag)
          ((option.toList.drop 1).dropWhile isFlag) := by
    unfold outputUse?
    simp only [ofLongName?_optionName h, if_neg h]
  have hRead :
      ∀ settings : Settings,
        settings.readOption option =
          settings.readLetters
            ((option.toList.drop 1).takeWhile isFlag ++
              (option.toList.drop 1).dropWhile isFlag) := by
    intro settings
    rw [readOption_letters settings h,
      List.takeWhile_append_dropWhile]
  have hFlags :
      ∀ letter ∈ (option.toList.drop 1).takeWhile isFlag,
        isFlag letter = true :=
    fun letter hMem => List.mem_takeWhile_imp hMem
  have hFirst :=
    List.head?_dropWhile_not isFlag (option.toList.drop 1)
  generalize (option.toList.drop 1).takeWhile isFlag = flags
    at hUse hRead hFlags
  generalize (option.toList.drop 1).dropWhile isFlag = letters
    at hUse hRead hFirst
  rcases readLetters_flags flags hFlags with
    ⟨fault, hFault⟩ | ⟨items, hItems, hDash, hTurns⟩
  · refine .misuse fault fun settings => ?_
    rw [hRead, hFault]
  have hKept :
      ∀ arguments others, Reads arguments others →
        Reads (flagArguments flags ++ arguments)
          (items ++ others) := by
    intro arguments others hOthers
    refine reads_flagArguments hDash ?_ hOthers
    intro settings
    have hAlone := hTurns settings []
    rw [List.append_nil, readLetters] at hAlone
    exact hAlone
  cases letters with
  | nil =>
      refine .plain items hItems ?_ hUse
      intro settings
      rw [hRead, hTurns, readLetters]
  | cons letter value =>
      rcases readLetters_value value hFirst with
        ⟨switch, hSwitch, hLetter, hValue⟩
      cases value with
      | nil =>
          have hWaits :
              OptionReads option items
                (some
                  (switch, String.ofList ['-', letter])) := by
            intro settings
            rw [hRead, hTurns, hValue, if_pos rfl]
          cases switch with
          | file =>
              cases hLetter
              exact .waits items hItems _ hWaits hUse
          | output =>
              cases hLetter
              exact
                .awaits items hItems _ hWaits _ hUse hKept
          | tokens | verbose | help => cases hSwitch
      | cons c value =>
          have hGives :
              OptionReads option
                (items ++
                  [.give switch
                    (String.ofList (c :: value))])
                none := by
            intro settings
            rw [hRead, hTurns, hValue,
              if_neg (List.cons_ne_nil c value),
              takeUp_append]
            rfl
          cases switch with
          | file =>
              cases hLetter
              refine .plain _ ?_ hGives hUse
              exact
                List.forall_mem_append.mpr
                  ⟨hItems,
                    List.forall_mem_singleton.mpr rfl⟩
          | output =>
              cases hLetter
              exact
                .carries items hItems _ hGives _ hUse hKept
          | tokens | verbose | help => cases hSwitch

/- What any option does. -/
theorem optionReading (option : String) :
    OptionReading option := by
  by_cases hDashes : option.toList.take 2 = ['-', '-']
  · cases hName :
      Switch.ofLongName? (optionName option) with
    | none =>
        rw [optionName] at hName
        refine
          .misuse
            (.unknownOption (optionName option)
              (Text.closest (optionName option)
                (Switch.all.map Switch.longName)))
            fun settings => ?_
        unfold readOption
        simp only [hName, if_pos hDashes]
        rfl
    | some switch => exact optionReading_of_longName hName
  · exact optionReading_of_letters hDashes

end Settings

end ArithExpr
