import ArithExpr.CommandLine.Files
import ArithExpr.Text.Similarity

/-
  The options of the command line, and how a list of arguments
  is read.

  Arguments are read from left to right.  One that starts with
  a dash and is longer is an option, two dashes alone end the
  options, and all else is kept as an argument.  A long name
  may carry a value after an equals sign; letters after one
  dash are options of their own, and the last of them may
  carry a value.  A value that is not carried is the argument
  that follows, whatever it looks like.

  Key definitions include:
    * `Switch`
    * `Settings`
    * `UsageFault`
    * `Settings.readOption`
    * `Settings.scan`
-/

namespace ArithExpr

------------------------------------------------------------
-- Switches
------------------------------------------------------------

/- The options that the command line knows. -/
inductive Switch where
| file
| output
| tokens
| verbose
| help
deriving DecidableEq, Repr

namespace Switch

/- All options, in the order of the help text. -/
def all : List Switch :=
  [.file, .output, .tokens, .verbose, .help]

/- The long name of an option. -/
def longName : Switch → String
| .file => "--file"
| .output => "--output"
| .tokens => "--tokens"
| .verbose => "--verbose"
| .help => "--help"

/- The letter of an option, if it has one. -/
def letter? : Switch → Option Char
| .file => some 'f'
| .output => some 'o'
| .verbose => some 'v'
| .tokens | .help => none

/- Options that name a file take a value. -/
def TakesValue : Switch → Prop
| .file | .output => True
| .tokens | .verbose | .help => False

instance (switch : Switch) : Decidable switch.TakesValue := by
  cases switch <;> unfold TakesValue <;> infer_instance

/- The option with a long name. -/
def ofLongName? (name : String) : Option Switch :=
  all.find? fun switch => switch.longName = name

/- The option with a letter. -/
def ofLetter? (letter : Char) : Option Switch :=
  all.find? fun switch => switch.letter? = some letter

end Switch

------------------------------------------------------------
-- Settings
------------------------------------------------------------

/- What a dash stands for in place of a file name. -/
def standardStream : String :=
  "-"

/-
  What a list of arguments asks for.  Of several values for
  one option, the last one counts.
-/
structure Settings where
  file : String := standardStream
  output : String := standardStream
  tokens : Bool := false
  verbose : Bool := false
  help : Bool := false
  arguments : List String := []
deriving DecidableEq, Repr

/- The ways in which a command line can be misused. -/
inductive UsageFault where
| unknownOption (name : String) (similar : List String)
| missingValue (name : String)
| unwantedValue (name : String)
| badInput (path : String) (fault : FileFault)
| extraArguments (arguments : List String)
deriving DecidableEq

namespace Settings

/- Turn on an option that takes no value. -/
def turnOn
    (settings : Settings) : Switch → Settings
| .tokens => { settings with tokens := true }
| .verbose => { settings with verbose := true }
| .help => { settings with help := true }
| .file | .output => settings

/- Give a value to an option that takes one. -/
def give
    (settings : Settings)
    (value : String) : Switch → Settings
| .file => { settings with file := value }
| .output => { settings with output := value }
| .tokens | .verbose | .help => settings

/- Keep one more argument. -/
def keep
    (settings : Settings)
    (argument : String) : Settings :=
  { settings with
    arguments := settings.arguments ++ [argument] }

------------------------------------------------------------
-- Reading Options
------------------------------------------------------------

/-
  The settings after an option, and the option that still
  waits for its value, with the name it was called by.
-/
abbrev Progress :=
  Settings × Option (Switch × String)

/- Read the letters after one dash. -/
def readLetters
    (settings : Settings) :
    List Char → Except UsageFault Progress
| [] => .ok (settings, none)
| letter :: letters =>
    let name := String.ofList ['-', letter]
    match Switch.ofLetter? letter with
    | none => .error (.unknownOption name [])
    | some switch =>
        if switch.TakesValue then
          if letters = [] then
            .ok (settings, some (switch, name))
          else
            .ok (settings.give (String.ofList letters) switch,
              none)
        else
          (settings.turnOn switch).readLetters letters

/- Read an option that was called by its long name. -/
def readLong
    (settings : Settings)
    (switch : Switch)
    (value? : Option String) :
    Except UsageFault Progress :=
  if switch.TakesValue then
    match value? with
    | some value => .ok (settings.give value switch, none)
    | none =>
        .ok (settings, some (switch, switch.longName))
  else
    match value? with
    | some _ => .error (.unwantedValue switch.longName)
    | none => .ok (settings.turnOn switch, none)

/-
  Read one option.  A long name that is not known is an error
  that lists the known ones it is close to.
-/
def readOption
    (settings : Settings)
    (option : String) : Except UsageFault Progress :=
  let isName := fun c : Char => decide (c ≠ '=')
  let name := String.ofList (option.toList.takeWhile isName)
  let value? :=
    (option.toList.dropWhile isName).tail?.map String.ofList
  match Switch.ofLongName? name with
  | some switch => settings.readLong switch value?
  | none =>
      if option.toList.take 2 = ['-', '-'] then
        .error (.unknownOption name
          (Text.closest name (Switch.all.map Switch.longName)))
      else
        settings.readLetters (option.toList.drop 1)

------------------------------------------------------------
-- Reading Arguments
------------------------------------------------------------

/- An argument is an option if more follows a first dash. -/
def IsOption (argument : String) : Prop :=
  argument.toList.head? = some '-' ∧
    1 < argument.toList.length

instance (argument : String) :
    Decidable (IsOption argument) := by
  unfold IsOption
  infer_instance

/- Read the arguments that are left, from given settings. -/
def scanFrom
    (settings : Settings) :
    List String → Except UsageFault Settings
| [] => .ok settings
| argument :: arguments =>
    if argument = "--" then
      .ok { settings with
        arguments := settings.arguments ++ arguments }
    else if IsOption argument then
      match settings.readOption argument with
      | .error fault => .error fault
      | .ok (after, none) => after.scanFrom arguments
      | .ok (after, some (switch, name)) =>
          match arguments with
          | [] => .error (.missingValue name)
          | value :: others =>
              (after.give value switch).scanFrom others
    else
      (settings.keep argument).scanFrom arguments

/- Read a list of arguments. -/
def scan
    (arguments : List String) : Except UsageFault Settings :=
  scanFrom {} arguments

end Settings

end ArithExpr
