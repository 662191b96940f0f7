import Chip8.Decimal.Notation
import Chip8.Text.Quoted

/-! # Settings

The options that a session is started with. A setting is loosely typed, since options come from
a command line or from a program that starts a session by itself: an option may be missing, may
be left to its standard value, or may hold a value of a type that it does not take.
-/

namespace Chip8

inductive Setting where
  /-- The standard value. -/
  | standard
  | flag (value : Bool)
  | number (value : Int)
  | real (value : Float)
  | text (value : String)
  | list (items : List Setting)
  | table (entries : List (String × Setting))
deriving Inhabited

namespace Setting

/-- Whether a setting counts as true. -/
def isTrue : Setting → Bool
  | standard => false
  | flag value => value
  | number value => value != 0
  | real value => value != 0.0
  | text value => value != ""
  | list items => !items.isEmpty
  | table entries => !entries.isEmpty

/-- The number that a setting stands for. -/
def number? : Setting → Option Int
  | number value => some value
  | flag value => some (if value then 1 else 0)
  | _ => none

mutual

/-- A setting as a message shows it inside another. -/
def quoted : Setting → String
  | standard => "None"
  | flag true => "True"
  | flag false => "False"
  | number value => toString value
  | real value => Decimal.text value
  | text value => Quoted.quote value
  | list items => "[" ++ ", ".intercalate (quotedItems items) ++ "]"
  | table entries => "\x7b" ++ ", ".intercalate (quotedEntries entries) ++ "\x7d"

def quotedItems : List Setting → List String
  | [] => []
  | item :: rest => quoted item :: quotedItems rest

def quotedEntries : List (String × Setting) → List String
  | [] => []
  | (name, setting) :: rest =>
      (Quoted.quote name ++ ": " ++ quoted setting) :: quotedEntries rest

end

/-- A setting as a message shows it. -/
def shown : Setting → String
  | text value => value
  | setting => quoted setting

end Setting

inductive OptionName where
  | speed
  | debug
  | file
  | keyRelease
  | keymap
  | renderer
  | scale
  | shifts
deriving DecidableEq, Repr

/-- The setting of each option, if the option is there. -/
structure Options where
  get? : OptionName → Option Setting

namespace Options

def set (options : Options) (name : OptionName) (setting : Setting) : Options where
  get? other := if other = name then some setting else options.get? other

/-- Every option is there and left to its standard value. -/
def standard : Options where
  get? _ := some .standard

theorem get?_set (options : Options) (name other : OptionName) (setting : Setting) :
    (options.set name setting).get? other =
      if other = name then some setting else options.get? other := rfl

end Options

end Chip8
