import Chip8.CommandLine.Basic
import Chip8.Text.Digit

/-! # Words of a command line

A word that begins with a dash is an option, unless it is a lone dash or looks like a negative
number or holds a blank and names no option. Long options may be shortened as long as only one
option begins so, and may have a value attached after an equals sign; the rest of a word that
begins with a short option is attached to it. After a separator, which is two dashes, no word is
an option.
-/

namespace Chip8.CommandLine

inductive Word where
  | plain (text : String)
  | separator
  /-- A word that looks like an option and names none. -/
  | unknown (text : String)
  | option (switch : Switch) (spelling : String) (attached : Option String)
deriving DecidableEq, Repr

/-- The switch with a spelling. -/
def switch? (spelling : String) : Option Switch :=
  switches.find? fun switch => switch.spellings.contains spelling

/-- The text up to an equals sign, and what follows the sign. -/
def splitValue (text : List Char) : List Char × Option (List Char) :=
  match text.dropWhile (· ≠ '=') with
  | [] => (text, none)
  | _ :: value => (text.takeWhile (· ≠ '='), some value)

/-- The options that a word with an unknown name may be short for. -/
def candidates (text : List Char) : List Word :=
  match text with
  | '-' :: '-' :: _ =>
      let (name, value) := splitValue text
      switches.flatMap fun switch =>
        let spellings := switch.spellings.filter fun spelling => name.isPrefixOf spelling.toList
        spellings.map fun spelling => .option switch spelling (value.map String.ofList)
  | dash :: letter :: rest =>
      match switch? (String.ofList [dash, letter]) with
      | some switch => [.option switch (String.ofList [dash, letter]) (some (String.ofList rest))]
      | none => []
  | _ => []

def Word.spelling : Word → String
  | option _ spelling _ => spelling
  | plain text => text
  | unknown text => text
  | separator => "--"

/-- Digits, with or without a point before the last of them. -/
def isUnsignedNumber (text : List Char) : Bool :=
  match text.dropWhile Digit.isDigit with
  | [] => !text.isEmpty
  | '.' :: fraction => !fraction.isEmpty && fraction.all Digit.isDigit
  | _ => false

/-- A text without the line break that may end it. -/
def withoutLineBreak (text : List Char) : List Char :=
  if text.getLast? = some '\n' then text.dropLast else text

def isNegativeNumber (text : List Char) : Bool :=
  match text with
  | '-' :: number => isUnsignedNumber (withoutLineBreak number)
  | _ => false

/-- What a word is that is not a separator. -/
def classify (word : String) : Except Refusal Word :=
  let text := word.toList
  if text.head? ≠ some '-' then .ok (.plain word)
  else match switch? word with
    | some switch => .ok (.option switch word none)
    | none =>
      if text.length = 1 then .ok (.plain word)
      else
        let (name, value) := splitValue text
        match value, switch? (String.ofList name) with
        | some value, some switch =>
            .ok (.option switch (String.ofList name) (some (String.ofList value)))
        | _, _ =>
            match candidates text with
            | [only] => .ok only
            | [] =>
                if isNegativeNumber text || text.contains ' ' then .ok (.plain word)
                else .ok (.unknown word)
            | several => .error (.ambiguous word (several.map Word.spelling))

/-- What the words of a command line are. -/
def classifyAll : List String → Except Refusal (List Word)
  | [] => .ok []
  | word :: rest =>
      if word = "--" then .ok (.separator :: rest.map .plain)
      else match classify word with
        | .error refusal => .error refusal
        | .ok first =>
            match classifyAll rest with
            | .error refusal => .error refusal
            | .ok others => .ok (first :: others)

end Chip8.CommandLine
