import Chip8.CommandLine.Word
import Chip8.Text.Numeral

/-! # Reading a command line

Words are taken from left to right. The first plain word that is no option's value names the
program file, and a separator beside it is dropped. Every other plain word, separator and unknown
option is left over. Short options that take no value may be written in one word, the last of
them with a value of its own.

What is wrong with the words themselves is found first, then what is wrong with their values from
left to right, then a missing file name, and then words left over.
-/

namespace Chip8.CommandLine

/-- A command line that starts no session. -/
inductive Stop where
  | help
  | refused (refusal : Refusal)
deriving DecidableEq, Repr

structure Progress where
  options : Options
  hasFile : Bool := false
  /-- The words left over, the latest first. -/
  extras : List String := []

/-- The switches written in one word: those without a value, and the last with its value. -/
abbrev Cluster := List Switch × Switch × Option String

/-- The short options in the rest of a word after one of them. -/
def unfoldLetters (switch : Switch) : List Char → Except Refusal Cluster
  | [] => .ok ([], switch, none)
  | letter :: rest =>
      if switch.takesValue then .ok ([], switch, some (String.ofList (letter :: rest)))
      else match switch? (String.ofList ['-', letter]) with
        | none => .error (.unwantedValue switch (String.ofList (letter :: rest)))
        | some next =>
            match unfoldLetters next rest with
            | .error refusal => .error refusal
            | .ok (flags, last, value) => .ok (switch :: flags, last, value)

def isShort (spelling : String) : Bool := !"--".toList.isPrefixOf spelling.toList

/-- The switches in a word that spells one and attaches a text to it or does not. -/
def unfold (switch : Switch) (spelling : String) : Option String → Except Refusal Cluster
  | none => .ok ([], switch, none)
  | some text =>
      if switch.takesValue then .ok ([], switch, some text)
      else if isShort spelling && text ≠ "" then unfoldLetters switch text.toList
      else .error (.unwantedValue switch text)

/-- The setting that a value gives. -/
def settingOf (switch : Switch) (value : String) : Except Refusal Setting :=
  match switch.effect with
  | .takeNumber _ choices =>
      match Numeral.parse? value.toList with
      | none => .error (.notANumber switch value)
      | some number =>
          if choices = [] ∨ number ∈ choices then .ok (.number number)
          else .error (.noSuchChoice switch (toString number) (choices.map toString))
  | .takeText _ choices =>
      if choices = [] ∨ value ∈ choices then .ok (.text value)
      else .error (.noSuchChoice switch (Quoted.quote value) (choices.map Quoted.quote))
  | .help => .ok (.text value)
  | .setFlag _ => .ok (.text value)

def Effect.name? : Effect → Option OptionName
  | help => none
  | setFlag name => some name
  | takeNumber name _ => some name
  | takeText name _ => some name

/-- Sets what a switch sets. -/
def Progress.set (progress : Progress) (switch : Switch) (setting : Setting) : Progress :=
  match switch.effect.name? with
  | some name => { progress with options := progress.options.set name setting }
  | none => progress

def Progress.leave (progress : Progress) (word : String) : Progress :=
  { progress with extras := word :: progress.extras }

def Progress.takeFile (progress : Progress) (word : String) : Progress :=
  { progress with options := progress.options.set .file (.text word), hasFile := true }

/-- Applies switches without values in order. -/
def applyFlags (progress : Progress) : List Switch → Except Stop Progress
  | [] => .ok progress
  | switch :: rest =>
      if switch.effect = .help then .error .help
      else applyFlags (progress.set switch (.flag true)) rest

/-- Applies a switch with its value. A separator attached to an option leaves it without one. -/
def applyValue (switch : Switch) (value : String) (attached : Bool) (progress : Progress) :
    Except Stop Progress :=
  if attached ∧ value = "--" then .ok (progress.set switch (.list []))
  else match settingOf switch value with
    | .error refusal => .error (.refused refusal)
    | .ok setting => .ok (progress.set switch setting)

/-- Takes words from left to right. -/
def takeWords (progress : Progress) : List Word → Except Stop Progress
  | [] => .ok progress
  | .unknown text :: rest => takeWords (progress.leave text) rest
  | .plain text :: .separator :: rest =>
      if progress.hasFile then takeWords ((progress.leave text).leave "--") rest
      else takeWords (progress.takeFile text) rest
  | .plain text :: rest =>
      if progress.hasFile then takeWords (progress.leave text) rest
      else takeWords (progress.takeFile text) rest
  | .separator :: .plain text :: rest =>
      if progress.hasFile then takeWords ((progress.leave "--").leave text) rest
      else takeWords (progress.takeFile text) rest
  | .separator :: rest => takeWords (progress.leave "--") rest
  | .option switch spelling attached :: rest =>
      match unfold switch spelling attached with
      | .error refusal => .error (.refused refusal)
      | .ok (flags, last, some value) =>
          match applyFlags progress flags >>= applyValue last value true with
          | .error stop => .error stop
          | .ok progress => takeWords progress rest
      | .ok (flags, last, none) =>
          if last.takesValue then
            match rest with
            | .plain value :: rest =>
                match applyFlags progress flags >>= applyValue last value false with
                | .error stop => .error stop
                | .ok progress => takeWords progress rest
            | _ => .error (.refused (.missingValue last))
          else match applyFlags progress (flags ++ [last]) with
            | .error stop => .error stop
            | .ok progress => takeWords progress rest

/-- The options that a command line gives. -/
def parse (words : List String) : Except Stop Options :=
  match classifyAll words with
  | .error refusal => .error (.refused refusal)
  | .ok words =>
      match takeWords { options := standardOptions } words with
      | .error stop => .error stop
      | .ok progress =>
          if !progress.hasFile then .error (.refused .missingFile)
          else if progress.extras ≠ [] then
            .error (.refused (.unrecognized progress.extras.reverse))
          else .ok progress.options

end Chip8.CommandLine
