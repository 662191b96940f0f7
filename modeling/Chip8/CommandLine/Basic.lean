import Chip8.Keymap
import Chip8.Settings
import Chip8.Text.Quoted

/-! # The command line

The options of the command line, their spellings, and what is wrong with a command line that is
refused.
-/

namespace Chip8.CommandLine

/-- What an option on the command line does. -/
inductive Effect where
  | help
  | setFlag (name : OptionName)
  /-- Takes a number, one of the choices if there are any. -/
  | takeNumber (name : OptionName) (choices : List Int)
  /-- Takes a text, one of the choices if there are any. -/
  | takeText (name : OptionName) (choices : List String)
deriving DecidableEq, Repr

structure Switch where
  spellings : List String
  effect : Effect
deriving DecidableEq, Repr

/-- All spellings of an option, as messages name it. -/
def Switch.label (switch : Switch) : String := "/".intercalate switch.spellings

def Switch.takesValue (switch : Switch) : Bool :=
  match switch.effect with
  | .help => false
  | .setFlag _ => false
  | .takeNumber .. => true
  | .takeText .. => true

def switches : List Switch := [
  ⟨["-h", "--help"], .help⟩,
  ⟨["-c", "--clock_speed"], .takeNumber .speed []⟩,
  ⟨["-r", "--renderer"], .takeText .renderer ["pygame", "curses", "null"]⟩,
  ⟨["-s", "--scale"], .takeNumber .scale []⟩,
  ⟨["-k", "--keymap"], .takeText .keymap []⟩,
  ⟨["--shift_quirks"], .takeNumber .shifts [0, 1]⟩,
  ⟨["--key_release_quirks"], .takeNumber .keyRelease [0, 1]⟩,
  ⟨["-d", "--debug"], .setFlag .debug⟩]

/-- The options when none is given. -/
def standardOptions : Options :=
  (Options.standard.set .debug (.flag false)).set .keymap (.text Keymap.standard)

/-- Why a command line is refused. -/
inductive Refusal where
  /-- A shortened option that several options begin with. -/
  | ambiguous (word : String) (spellings : List String)
  | missingValue (switch : Switch)
  /-- A value for an option that takes none. -/
  | unwantedValue (switch : Switch) (value : String)
  | notANumber (switch : Switch) (value : String)
  /-- A value that is none of the choices, both as messages show them. -/
  | noSuchChoice (switch : Switch) (value : String) (choices : List String)
  | missingFile
  | unrecognized (words : List String)
deriving DecidableEq, Repr

def commaList (items : List String) : String := ", ".intercalate items

def argumentMessage (switch : Switch) (problem : String) : String :=
  "argument " ++ switch.label ++ ": " ++ problem

def Refusal.message : Refusal → String
  | ambiguous word spellings =>
      "ambiguous option: " ++ word ++ " could match " ++ commaList spellings
  | missingValue switch => argumentMessage switch "expected one argument"
  | unwantedValue switch value =>
      argumentMessage switch ("ignored explicit argument " ++ Quoted.quote value)
  | notANumber switch value =>
      argumentMessage switch ("invalid int value: " ++ Quoted.quote value)
  | noSuchChoice switch value choices =>
      argumentMessage switch
        ("invalid choice: " ++ value ++ " (choose from " ++ commaList choices ++ ")")
  | missingFile => "the following arguments are required: filename"
  | unrecognized words => "unrecognized arguments: " ++ " ".intercalate words

/-- The message of a refusal behind the program's name. -/
def Refusal.report (program : String) (refusal : Refusal) : String :=
  program ++ ": error: " ++ refusal.message

/-- The last line of a refusal's report. -/
def lastLine (program : String) (refusal : Refusal) : String :=
  let text := (refusal.report program).toList.reverse.dropWhile (· = '\n')
  String.ofList (text.takeWhile (· ≠ '\n')).reverse

end Chip8.CommandLine
