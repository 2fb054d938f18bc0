import ArithExpr.Proofs.CommandLine.OutputOption

/-
  The arguments of a command line without the options that
  give a value to the output.

  Key definitions include:
    * `Settings.splitOutputs`
    * `Settings.SplitReads`
    * `Settings.printing`

  Main declarations:
    * `Settings.misuses_or_reads`
    * `Settings.scan_splitOutputs`
    * `Settings.scan_verbose`
-/

------------------------------------------------------------
-- Taking Out the Values for the Output
------------------------------------------------------------

namespace ArithExpr

namespace Settings

/- An option whose value is the argument that follows it. -/
def awaitsValue (option : String) : Bool :=
  match ({} : Settings).readOption option with
  | .ok (_, some _) => true
  | .ok (_, none) | .error _ => false

/-
  The arguments without the options that give a value to the
  output, and those values in order.
-/
def splitOutputs : List String → List String × List String
| [] => ([], [])
| argument :: arguments =>
    if argument = "--" then
      (argument :: arguments, [])
    else if IsOption argument then
      match outputUse? argument with
      | some (kept, some value) =>
          let split := splitOutputs arguments
          (kept ++ split.1, value :: split.2)
      | some (kept, none) =>
          match arguments with
          | [] => (kept, [])
          | value :: others =>
              let split := splitOutputs others
              (kept ++ split.1, value :: split.2)
      | none =>
          if awaitsValue argument then
            match arguments with
            | [] => ([argument], [])
            | value :: others =>
                let split := splitOutputs others
                (argument :: value :: split.1, split.2)
          else
            let split := splitOutputs arguments
            (argument :: split.1, split.2)
    else
      let split := splitOutputs arguments
      (argument :: split.1, split.2)

------------------------------------------------------------
-- What Arguments Do
------------------------------------------------------------

/-
  Arguments are read as some items; without the options that
  give a value to the output, they are read as the others.
-/
structure SplitReads
    (arguments : List String)
    (items : List Item) : Prop where
  reads : Reads arguments items
  rest :
    Reads (splitOutputs arguments).1
      (items.filter fun item => item.output?.isNone)
  outputs :
    (splitOutputs arguments).2 =
      items.filterMap Item.output?

/- Whether an option awaits a value shows at any settings. -/
theorem OptionReads.awaitsValue
    {option : String}
    {items : List Item}
    {waiting? : Option (Switch × String)}
    (h : OptionReads option items waiting?) :
    awaitsValue option = waiting?.isSome := by
  rw [Settings.awaitsValue, h]
  cases waiting? <;> rfl

section Split

variable
  {argument option : String}
  {arguments : List String}
  {items others : List Item}

/- What follows the end of the options stays. -/
theorem splitReads_end :
    SplitReads ("--" :: arguments)
      (arguments.map Item.keep) := by
  have hSplit :
      splitOutputs ("--" :: arguments) =
        ("--" :: arguments, []) := by
    rw [splitOutputs.eq_def]
    exact if_pos rfl
  have hKept :
      ∀ item ∈ arguments.map Item.keep,
        item.output? = none :=
    List.forall_mem_map.mpr fun _ _ => rfl
  have hFilter := filter_withoutOutputs hKept []
  have hValues := filterMap_output hKept []
  rw [List.append_nil] at hFilter hValues
  refine ⟨reads_end, ?_, ?_⟩
  · rw [hSplit, hFilter, List.filter_nil, List.append_nil]
    exact reads_end
  · rw [hSplit, hValues, List.filterMap_nil]

/- What does not look like an option stays. -/
theorem SplitReads.keeps
    (h : SplitReads arguments others)
    (hEnd : argument ≠ "--")
    (hOption : ¬ IsOption argument) :
    SplitReads (argument :: arguments)
      (.keep argument :: others) := by
  have hSplit :
      splitOutputs (argument :: arguments) =
        (argument :: (splitOutputs arguments).1,
          (splitOutputs arguments).2) := by
    rw [splitOutputs.eq_def]
    simp only [if_neg hEnd, if_neg hOption]
  refine ⟨reads_argument hEnd hOption h.reads, ?_, ?_⟩
  · rw [hSplit]
    exact reads_argument hEnd hOption h.rest
  · rw [hSplit]
    exact h.outputs

/- An option that gives nothing to the output stays. -/
theorem SplitReads.plain
    (h : SplitReads arguments others)
    (hEnd : option ≠ "--")
    (hOption : IsOption option)
    (hItems : ∀ item ∈ items, item.output? = none)
    (hRead : OptionReads option items none)
    (hUse : outputUse? option = none) :
    SplitReads (option :: arguments) (items ++ others) := by
  have hSplit :
      splitOutputs (option :: arguments) =
        (option :: (splitOutputs arguments).1,
          (splitOutputs arguments).2) := by
    rw [splitOutputs.eq_def]
    simp [hEnd, hOption, hUse, hRead.awaitsValue]
  refine ⟨reads_option hEnd hOption hRead h.reads, ?_, ?_⟩
  · rw [hSplit, filter_withoutOutputs hItems]
    exact reads_option hEnd hOption hRead h.rest
  · rw [hSplit, filterMap_output hItems]
    exact h.outputs

/- An option that gives a value to the file stays. -/
theorem SplitReads.waits
    {name : String}
    (h : SplitReads arguments others)
    (value : String)
    (hEnd : option ≠ "--")
    (hOption : IsOption option)
    (hItems : ∀ item ∈ items, item.output? = none)
    (hRead : OptionReads option items (some (.file, name)))
    (hUse : outputUse? option = none) :
    SplitReads (option :: value :: arguments)
      (items ++ .give .file value :: others) := by
  have hSplit :
      splitOutputs (option :: value :: arguments) =
        (option :: value :: (splitOutputs arguments).1,
          (splitOutputs arguments).2) := by
    rw [splitOutputs.eq_def]
    simp [hEnd, hOption, hUse, hRead.awaitsValue]
  refine
    ⟨reads_option_value value hEnd hOption hRead h.reads,
      ?_, ?_⟩
  · rw [hSplit, filter_withoutOutputs hItems]
    exact reads_option_value value hEnd hOption hRead h.rest
  · rw [hSplit, filterMap_output hItems]
    exact h.outputs

/- An option that carries a value for the output. -/
theorem SplitReads.carries
    {value : String}
    {kept : List String}
    (h : SplitReads arguments others)
    (hEnd : option ≠ "--")
    (hOption : IsOption option)
    (hItems : ∀ item ∈ items, item.output? = none)
    (hRead :
      OptionReads option
        (items ++ [.give .output value]) none)
    (hUse : outputUse? option = some (kept, some value))
    (hKept :
      ∀ arguments others, Reads arguments others →
        Reads (kept ++ arguments) (items ++ others)) :
    SplitReads (option :: arguments)
      (items ++ .give .output value :: others) := by
  have hSplit :
      splitOutputs (option :: arguments) =
        (kept ++ (splitOutputs arguments).1,
          value :: (splitOutputs arguments).2) := by
    rw [splitOutputs.eq_def]
    simp [hEnd, hOption, hUse]
  refine ⟨?_, ?_, ?_⟩
  · have hReads :=
      reads_option hEnd hOption hRead h.reads
    rw [List.append_assoc] at hReads
    exact hReads
  · rw [hSplit, filter_withoutOutputs hItems]
    exact hKept _ _ h.rest
  · rw [hSplit, filterMap_output hItems, h.outputs]
    rfl

/- An option that awaits a value for the output. -/
theorem SplitReads.awaits
    {name : String}
    {kept : List String}
    (h : SplitReads arguments others)
    (value : String)
    (hEnd : option ≠ "--")
    (hOption : IsOption option)
    (hItems : ∀ item ∈ items, item.output? = none)
    (hRead : OptionReads option items (some (.output, name)))
    (hUse : outputUse? option = some (kept, none))
    (hKept :
      ∀ arguments others, Reads arguments others →
        Reads (kept ++ arguments) (items ++ others)) :
    SplitReads (option :: value :: arguments)
      (items ++ .give .output value :: others) := by
  have hSplit :
      splitOutputs (option :: value :: arguments) =
        (kept ++ (splitOutputs arguments).1,
          value :: (splitOutputs arguments).2) := by
    rw [splitOutputs.eq_def]
    simp [hEnd, hOption, hUse]
  refine
    ⟨reads_option_value value hEnd hOption hRead h.reads,
      ?_, ?_⟩
  · rw [hSplit, filter_withoutOutputs hItems]
    exact hKept _ _ h.rest
  · rw [hSplit, filterMap_output hItems, h.outputs]
    rfl

/-
  An option that waits for a value takes the first of the
  arguments behind it, if there is one.
-/
theorem waiting_misuses_or_reads
    {switch : Switch}
    {name : String}
    (hEnd : option ≠ "--")
    (hOption : IsOption option)
    (hRead : OptionReads option items (some (switch, name)))
    (hTail :
      (∃ fault, Misuses arguments.tail fault) ∨
      ∃ others, SplitReads arguments.tail others)
    (hSplit :
      ∀ {value others arguments},
        SplitReads arguments others →
          SplitReads (option :: value :: arguments)
            (items ++ .give switch value :: others)) :
    (∃ fault, Misuses (option :: arguments) fault) ∨
    ∃ read, SplitReads (option :: arguments) read := by
  cases arguments with
  | nil => exact .inl ⟨_, misuses_missing hEnd hOption hRead⟩
  | cons value arguments =>
      refine hTail.imp ?_ ?_
      · rintro ⟨fault, hFault⟩
        exact
          ⟨fault,
            misuses_after_value value hEnd hOption hRead
              hFault⟩
      · rintro ⟨others, hOthers⟩
        exact ⟨_, hSplit hOthers⟩

/-
  An option in front of other arguments.  It may take the
  first of them for its value, so that those behind that one
  matter too.
-/
theorem option_misuses_or_reads
    (hEnd : option ≠ "--")
    (hOption : IsOption option)
    (hRest :
      (∃ fault, Misuses arguments fault) ∨
      ∃ others, SplitReads arguments others)
    (hTail :
      (∃ fault, Misuses arguments.tail fault) ∨
      ∃ others, SplitReads arguments.tail others) :
    (∃ fault, Misuses (option :: arguments) fault) ∨
    ∃ items, SplitReads (option :: arguments) items := by
  have hAfter :
      ∀ {read : List Item},
        OptionReads option read none →
        (∃ fault, Misuses arguments fault) →
        ∃ fault, Misuses (option :: arguments) fault :=
    fun hRead ⟨fault, hFault⟩ =>
      ⟨fault,
        misuses_after_option hEnd hOption hRead hFault⟩
  cases optionReading option with
  | misuse fault hMisuse =>
      exact
        .inl ⟨fault, misuses_option hEnd hOption hMisuse⟩
  | plain items hItems hRead hUse =>
      exact
        hRest.imp (hAfter hRead) fun ⟨_, hSplit⟩ =>
          ⟨_, hSplit.plain hEnd hOption hItems hRead hUse⟩
  | waits items hItems name hRead hUse =>
      refine
        waiting_misuses_or_reads hEnd hOption hRead hTail ?_
      intro value others arguments hSplit
      exact
        hSplit.waits value hEnd hOption hItems hRead hUse
  | carries items hItems value hRead kept hUse hKept =>
      exact
        hRest.imp (hAfter hRead) fun ⟨_, hSplit⟩ =>
          ⟨_, hSplit.carries hEnd hOption hItems hRead hUse
            hKept⟩
  | awaits items hItems name hRead kept hUse hKept =>
      refine
        waiting_misuses_or_reads hEnd hOption hRead hTail ?_
      intro value others arguments hSplit
      exact
        hSplit.awaits value hEnd hOption hItems hRead hUse
          hKept

end Split

/-
  Any arguments are a misuse, or are read as items that stay
  without the options that give a value to the output.
-/
theorem misuses_or_reads
    (arguments : List String) :
    (∃ fault, Misuses arguments fault) ∨
    ∃ items, SplitReads arguments items := by
  induction hLength : arguments.length using
    Nat.strong_induction_on generalizing arguments with
  | _ length ih =>
    have hShorter :
        ∀ others : List String,
          others.length < arguments.length →
          (∃ fault, Misuses others fault) ∨
          ∃ items, SplitReads others items :=
      fun others hLess => ih _ (hLength ▸ hLess) others rfl
    cases arguments with
    | nil => exact .inr ⟨[], reads_nil, reads_nil, rfl⟩
    | cons argument arguments =>
        have hRest := hShorter arguments (Nat.lt_succ_self _)
        by_cases hEnd : argument = "--"
        · rw [hEnd]
          exact .inr ⟨_, splitReads_end⟩
        by_cases hOption : IsOption argument
        · refine
            option_misuses_or_reads hEnd hOption hRest
              (hShorter _ ?_)
          rw [List.length_tail, List.length_cons]
          omega
        · refine hRest.imp ?_ ?_
          · rintro ⟨fault, hFault⟩
            exact
              ⟨fault, misuses_argument hEnd hOption hFault⟩
          · rintro ⟨items, hSplit⟩
            exact ⟨_, hSplit.keeps hEnd hOption⟩

/- The same settings, for the standard output. -/
def printing (settings : Settings) : Settings :=
  { settings with output := standardStream }

/-
  Arguments that are read give the output its last value.
  Without these options they lead to the same settings for the
  standard output.
-/
theorem scan_splitOutputs
    {arguments : List String}
    {settings : Settings}
    (h : scan arguments = .ok settings) :
    settings.output =
        (splitOutputs arguments).2.getLast?.getD
          standardStream ∧
      scan (splitOutputs arguments).1 =
        .ok settings.printing := by
  rcases misuses_or_reads arguments with
    ⟨fault, hFault⟩ | ⟨items, hSplit⟩
  · rw [scan, hFault] at h
    cases h
  · rw [scan, hSplit.reads] at h
    cases h
    constructor
    · rw [hSplit.outputs]
      exact takeUp_output {} items
    · rw [scan, hSplit.rest]
      exact
        congrArg Except.ok
          (takeUp_withoutOutputs {} items standardStream)

/-
  Values are carried or awaited, and an option that is itself
  a value, or stands behind the end of the options, is none.
-/
example :
    splitOutputs
        ["-voa", "1", "--output=b", "-f", "-o", "-o", "c",
          "--", "-o"] =
      (["-v", "1", "-f", "-o", "--", "-o"],
        ["a", "b", "c"]) := by
  decide +kernel

/- The verbose switch in front of other arguments is on. -/
theorem scan_verbose
    (arguments : List String) :
    scan ("-v" :: arguments) =
      (scan arguments).map fun settings =>
        settings.turnOn .verbose := by
  have hSwitch :
      OptionReads "-v" [.turnOn .verbose] none :=
    fun _ => rfl
  have hFirst :
      scan ("-v" :: arguments) =
        (({} : Settings).turnOn .verbose).scanFrom
          arguments :=
    scanFrom_option (by decide) (by decide) hSwitch {}
      arguments
  rw [hFirst]
  rcases misuses_or_reads arguments with
    ⟨fault, hFault⟩ | ⟨items, hSplit⟩
  · rw [scan, hFault, hFault]
    rfl
  · rw [scan, hSplit.reads, hSplit.reads,
      takeUp_turnOn_verbose]
    rfl

end Settings

end ArithExpr
