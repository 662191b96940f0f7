import Chip8.CommandLine.Basic

/-! # Usage

How a command line is written: each option in its first spelling, with the choices of its value or
a name for it, and then the program file.
-/

namespace Chip8.CommandLine

/-- A name for the value of an option: the last of its spellings in capitals, without dashes. -/
def Switch.valueName (switch : Switch) : String :=
  String.ofList (((switch.spellings.getLastD "").toList.dropWhile (· = '-')).map Char.toUpper)

def choiceList (choices : List String) : String := "\x7b" ++ ",".intercalate choices ++ "\x7d"

/-- What stands for the value of an option, if it takes one. -/
def Switch.placeholder? (switch : Switch) : Option String :=
  match switch.effect with
  | .help => none
  | .setFlag _ => none
  | .takeNumber _ [] => some switch.valueName
  | .takeText _ [] => some switch.valueName
  | .takeNumber _ choices => some (choiceList (choices.map toString))
  | .takeText _ choices => some (choiceList choices)

def Switch.usage (switch : Switch) : String :=
  let spelling := switch.spellings.headD ""
  match switch.placeholder? with
  | some placeholder => "[" ++ spelling ++ " " ++ placeholder ++ "]"
  | none => "[" ++ spelling ++ "]"

def usage (program : String) : String :=
  " ".intercalate (["usage:", program] ++ switches.map Switch.usage ++ ["filename"])

end Chip8.CommandLine
