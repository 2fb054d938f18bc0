import ArithExpr.CommandLine.Options

/-
  What the arguments of a command line ask for, item by item.

  Arguments that are read turn switches on, give values and
  keep arguments, in order, and what they do does not depend
  on the settings they start from.

  Key definitions include:
    * `Item`
    * `Settings.takeUp`
    * `Settings.Reads`
    * `Settings.Misuses`
    * `Settings.OptionReads`
    * `Settings.OptionMisuses`

  Main declarations:
    * `Settings.takeUp_turnOn_verbose`
    * `Settings.takeUp_output`
    * `Settings.takeUp_withoutOutputs`
    * `Settings.scanFrom_option`
-/

------------------------------------------------------------
-- Items
------------------------------------------------------------

namespace ArithExpr

/-
  One thing that arguments ask for: a switch is turned on or
  given a value, or an argument is kept.
-/
inductive Item where
| turnOn (switch : Switch)
| give (switch : Switch) (value : String)
| keep (argument : String)
deriving DecidableEq

namespace Item

/- The settings after one more item. -/
def apply (settings : Settings) : Item → Settings
| .turnOn switch => settings.turnOn switch
| .give switch value => settings.give value switch
| .keep argument => settings.keep argument

/- The value that an item gives to the output. -/
def output? : Item → Option String
| .give .output value => some value
| .give _ _ | .turnOn _ | .keep _ => none

/- An item that gives a value to the output is just that. -/
theorem eq_give_of_output
    {item : Item}
    {value : String}
    (h : item.output? = some value) :
    item = .give .output value := by
  cases item with
  | turnOn switch => cases h
  | give switch other =>
      cases switch <;> cases h
      rfl
  | keep argument => cases h

/- Any other item leaves the output alone. -/
theorem apply_withOutput
    {item : Item}
    (h : item.output? = none)
    (settings : Settings)
    (output : String) :
    item.apply { settings with output } =
      { item.apply settings with output } := by
  cases item with
  | turnOn switch => cases switch <;> rfl
  | give switch value =>
      cases switch with
      | output => cases h
      | file | tokens | verbose | help => rfl
  | keep argument => rfl

/- No item takes the verbose switch back. -/
theorem apply_turnOn_verbose
    (item : Item)
    (settings : Settings) :
    item.apply (settings.turnOn .verbose) =
      (item.apply settings).turnOn .verbose := by
  cases item with
  | turnOn switch => cases switch <;> rfl
  | give switch value => cases switch <;> rfl
  | keep argument => rfl

end Item

namespace Settings

/- The settings after some items in order. -/
def takeUp
    (settings : Settings)
    (items : List Item) : Settings :=
  items.foldl Item.apply settings

/- Items are taken up one after the other. -/
theorem takeUp_append
    (settings : Settings)
    (items others : List Item) :
    settings.takeUp (items ++ others) =
      (settings.takeUp items).takeUp others :=
  List.foldl_append

/- The verbose switch may be turned on before or behind. -/
theorem takeUp_turnOn_verbose
    (settings : Settings)
    (items : List Item) :
    (settings.turnOn .verbose).takeUp items =
      (settings.takeUp items).turnOn .verbose := by
  induction items generalizing settings with
  | nil => rfl
  | cons item items ih =>
      change
        (item.apply (settings.turnOn .verbose)).takeUp
          items = _
      rw [item.apply_turnOn_verbose, ih]
      rfl

/- The last value given to the output counts. -/
theorem takeUp_output
    (settings : Settings)
    (items : List Item) :
    (settings.takeUp items).output =
      (items.filterMap Item.output?).getLast?.getD
        settings.output := by
  induction items generalizing settings with
  | nil => rfl
  | cons item items ih =>
      change ((item.apply settings).takeUp items).output = _
      rw [ih]
      cases hOutput : item.output? with
      | none =>
          have hApply :=
            Item.apply_withOutput hOutput settings
              settings.output
          have hSame := congrArg Settings.output hApply
          change (item.apply settings).output = _ at hSame
          rw [List.filterMap_cons_none hOutput, hSame]
      | some value =>
          rw [List.filterMap_cons_some hOutput,
            Item.eq_give_of_output hOutput,
            List.getLast?_cons]
          rfl

/-
  Without the values for the output, items lead to the same
  settings but for the output, which stays what it was.
-/
theorem takeUp_withoutOutputs
    (settings : Settings)
    (items : List Item)
    (output : String) :
    { settings with output }.takeUp
        (items.filter fun item => item.output?.isNone) =
      { settings.takeUp items with output } := by
  induction items generalizing settings with
  | nil => rfl
  | cons item items ih =>
      change _ =
        { (item.apply settings).takeUp items with output }
      rw [← ih]
      cases hOutput : item.output? with
      | none =>
          rw [List.filter_cons_of_pos (by rw [hOutput]; rfl),
            ← Item.apply_withOutput hOutput]
          rfl
      | some value =>
          rw [List.filter_cons_of_neg
              (by rw [hOutput]; exact Bool.false_ne_true),
            Item.eq_give_of_output hOutput]
          rfl

/- Items that give nothing to the output all stay. -/
theorem filter_withoutOutputs
    {items : List Item}
    (h : ∀ item ∈ items, item.output? = none)
    (others : List Item) :
    ((items ++ others).filter
        fun item => item.output?.isNone) =
      items ++
        others.filter fun item => item.output?.isNone := by
  have hAll :
      (items.filter fun item => item.output?.isNone) =
        items := by
    rw [List.filter_eq_self]
    intro item hMem
    rw [h item hMem]
    rfl
  rw [List.filter_append, hAll]

/- Items that give nothing to the output add no value. -/
theorem filterMap_output
    {items : List Item}
    (h : ∀ item ∈ items, item.output? = none)
    (others : List Item) :
    (items ++ others).filterMap Item.output? =
      others.filterMap Item.output? := by
  rw [List.filterMap_append,
    List.filterMap_eq_nil_iff.mpr h, List.nil_append]

------------------------------------------------------------
-- Reading Items
------------------------------------------------------------

/- Arguments are read as some items, from all settings. -/
def Reads
    (arguments : List String)
    (items : List Item) : Prop :=
  ∀ settings : Settings,
    settings.scanFrom arguments =
      .ok (settings.takeUp items)

/- Arguments are a misuse, from all settings. -/
def Misuses
    (arguments : List String)
    (fault : UsageFault) : Prop :=
  ∀ settings : Settings,
    settings.scanFrom arguments = .error fault

/-
  An option is read as some items, from all settings, and may
  then wait for a value.
-/
def OptionReads
    (option : String)
    (items : List Item)
    (waiting? : Option (Switch × String)) : Prop :=
  ∀ settings : Settings,
    settings.readOption option =
      .ok (settings.takeUp items, waiting?)

/- An option is a misuse, from all settings. -/
def OptionMisuses
    (option : String)
    (fault : UsageFault) : Prop :=
  ∀ settings : Settings,
    settings.readOption option = .error fault

section Reading

variable
  {argument option : String}
  {arguments : List String}
  {items others : List Item}

/- What does not look like an option is kept. -/
theorem scanFrom_argument
    (hEnd : argument ≠ "--")
    (hOption : ¬ IsOption argument)
    (settings : Settings)
    (arguments : List String) :
    settings.scanFrom (argument :: arguments) =
      (settings.keep argument).scanFrom arguments := by
  rw [scanFrom, if_neg hEnd, if_neg hOption]

/- An option that needs no further value. -/
theorem scanFrom_option
    (hEnd : option ≠ "--")
    (hOption : IsOption option)
    (hRead : OptionReads option items none)
    (settings : Settings)
    (arguments : List String) :
    settings.scanFrom (option :: arguments) =
      (settings.takeUp items).scanFrom arguments := by
  rw [scanFrom, if_neg hEnd, if_pos hOption, hRead]

/- An option that takes the next argument as its value. -/
theorem scanFrom_option_value
    {switch : Switch}
    {name : String}
    (hEnd : option ≠ "--")
    (hOption : IsOption option)
    (hRead : OptionReads option items (some (switch, name)))
    (settings : Settings)
    (value : String)
    (arguments : List String) :
    settings.scanFrom (option :: value :: arguments) =
      ((settings.takeUp items).give value switch).scanFrom
        arguments := by
  rw [scanFrom, if_neg hEnd, if_pos hOption, hRead]

/- Nothing is read from no arguments. -/
theorem reads_nil :
    Reads [] [] :=
  fun _ => rfl

/- What follows the end of the options is kept. -/
theorem reads_end :
    Reads ("--" :: arguments) (arguments.map Item.keep) := by
  intro settings
  have hKept :
      ∀ (settings : Settings) (kept : List String),
        settings.takeUp (kept.map Item.keep) =
          { settings with
            arguments := settings.arguments ++ kept } := by
    intro settings kept
    induction kept generalizing settings with
    | nil =>
        rw [List.append_nil]
        rfl
    | cons next kept ih =>
        change
          (settings.keep next).takeUp
            (kept.map Item.keep) = _
        rw [ih]
        simp [keep]
  rw [hKept, scanFrom, if_pos rfl]

/- An argument in front of arguments that are read. -/
theorem reads_argument
    (hEnd : argument ≠ "--")
    (hOption : ¬ IsOption argument)
    (h : Reads arguments items) :
    Reads (argument :: arguments)
      (.keep argument :: items) := by
  intro settings
  rw [scanFrom_argument hEnd hOption, h]
  rfl

/- An option in front of arguments that are read. -/
theorem reads_option
    (hEnd : option ≠ "--")
    (hOption : IsOption option)
    (hRead : OptionReads option items none)
    (h : Reads arguments others) :
    Reads (option :: arguments) (items ++ others) := by
  intro settings
  rw [scanFrom_option hEnd hOption hRead, h, takeUp_append]

/- An option and its value in front of such arguments. -/
theorem reads_option_value
    {switch : Switch}
    {name : String}
    (value : String)
    (hEnd : option ≠ "--")
    (hOption : IsOption option)
    (hRead : OptionReads option items (some (switch, name)))
    (h : Reads arguments others) :
    Reads (option :: value :: arguments)
      (items ++ .give switch value :: others) := by
  intro settings
  rw [scanFrom_option_value hEnd hOption hRead, h,
    takeUp_append]
  rfl

/- A misuse comes first, whatever follows it. -/
theorem misuses_option
    {fault : UsageFault}
    (hEnd : option ≠ "--")
    (hOption : IsOption option)
    (h : OptionMisuses option fault) :
    Misuses (option :: arguments) fault := by
  intro settings
  rw [scanFrom, if_neg hEnd, if_pos hOption, h]

/- An option that waits in vain for its value. -/
theorem misuses_missing
    {switch : Switch}
    {name : String}
    (hEnd : option ≠ "--")
    (hOption : IsOption option)
    (hRead : OptionReads option items (some (switch, name))) :
    Misuses [option] (.missingValue name) := by
  intro settings
  rw [scanFrom, if_neg hEnd, if_pos hOption, hRead]

/- A misuse that follows arguments that are no options. -/
theorem misuses_argument
    {fault : UsageFault}
    (hEnd : argument ≠ "--")
    (hOption : ¬ IsOption argument)
    (h : Misuses arguments fault) :
    Misuses (argument :: arguments) fault := by
  intro settings
  rw [scanFrom_argument hEnd hOption, h]

/- A misuse that follows an option. -/
theorem misuses_after_option
    {fault : UsageFault}
    (hEnd : option ≠ "--")
    (hOption : IsOption option)
    (hRead : OptionReads option items none)
    (h : Misuses arguments fault) :
    Misuses (option :: arguments) fault := by
  intro settings
  rw [scanFrom_option hEnd hOption hRead, h]

/- A misuse that follows an option and its value. -/
theorem misuses_after_value
    {switch : Switch}
    {name : String}
    {fault : UsageFault}
    (value : String)
    (hEnd : option ≠ "--")
    (hOption : IsOption option)
    (hRead : OptionReads option items (some (switch, name)))
    (h : Misuses arguments fault) :
    Misuses (option :: value :: arguments) fault := by
  intro settings
  rw [scanFrom_option_value hEnd hOption hRead, h]

end Reading

end Settings

end ArithExpr
