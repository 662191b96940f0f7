import Chip8.Keypad
import Chip8.Text.LowerCase
import Chip8.Text.Numeral

/-! # Keymaps

A keymap binds a host key code to each of the sixteen keys. It is written as sixteen numerals
between commas, in key order. Where the codes stand for characters they are taken in lower case,
so that a key works in either case. No two keys may have one code.

Of several mistakes, a wrong number of fields is reported first, and then the leftmost field at
fault.
-/

namespace Chip8

/-- The host key codes, in key order. -/
structure Keymap where
  codes : List Int
deriving DecidableEq, Repr

namespace Keymap

inductive Fault where
  | wrongCount
  | notIntegers
  | duplicate
  /-- A number that stands for no character in lower case. -/
  | noCharacter (fault : LowerCase.Fault)
deriving DecidableEq, Repr

/-- The fields of a text between commas. -/
def fields : List Char → List (List Char)
  | [] => [[]]
  | c :: rest =>
      if c = ',' then [] :: fields rest
      else match fields rest with
        | [] => [[c]]
        | field :: others => (c :: field) :: others

/-- The code that a field gives, in lower case if codes stand for characters. -/
def code (characters : Bool) (field : List Char) : Except Fault Int :=
  match Numeral.parse? field with
  | none => .error .notIntegers
  | some number =>
      if characters then (LowerCase.ofCode number).mapError .noCharacter else .ok number

/-- The codes of fields, none of which may be among the codes before. -/
def codesAfter (characters : Bool) (before : List Int) : List (List Char) → Except Fault (List Int)
  | [] => .ok before
  | field :: rest =>
      match code characters field with
      | .error fault => .error fault
      | .ok code =>
          if code ∈ before then .error .duplicate
          else codesAfter characters (before ++ [code]) rest

def parse (characters : Bool) (text : String) : Except Fault Keymap :=
  let fields := fields text.toList
  if fields.length ≠ 16 then .error .wrongCount
  else (codesAfter characters [] fields).map Keymap.mk

/-- The key that a code is bound to. -/
def key? (keymap : Keymap) (code : Int) : Option Key :=
  Key.all.find? fun key => keymap.codes[key.val]? == some code

/-- A four by four grid on the left of a keyboard: 1234, QWER, ASDF, ZXCV. -/
def standard : String := "120,49,50,51,113,119,101,97,115,100,122,99,52,114,102,118"

def Fault.message : Fault → String
  | wrongCount =>
      "Incorrect number of keys defined -- 16 required.  Use commas to split numbers"
  | notIntegers => "Defined keys are not all integer values"
  | duplicate => "Duplicate keys defined"
  | noCharacter _ => "A defined key is not a character"

end Keymap

end Chip8
