import Chip8.Text.Hex
import Chip8.Text.Printable

/-! # Quoted text in messages

A text is quoted so that it can be told apart from the message around it: between single quotes,
or between double quotes when the text holds a single quote and no double one. Inside, the
backslash and the quote in use are escaped, and so is every character that is not printable.
-/

namespace Chip8.Quoted

/-- The quote that surrounds a text. -/
def mark (text : List Char) : Char :=
  if text.contains '\x27' && !text.contains '\x22' then '\x22' else '\x27'

/-- A code point as an escape of the shortest of the three widths that fits. -/
def escapeCode (code : Nat) : List Char :=
  if code < 0x100 then '\\' :: 'x' :: Hex.filled 2 code
  else if code < 0x10000 then '\\' :: 'u' :: Hex.filled 4 code
  else '\\' :: 'U' :: Hex.filled 8 code

def escape (quote c : Char) : List Char :=
  if c = quote ∨ c = '\\' then ['\\', c]
  else if c = '\n' then ['\\', 'n']
  else if c = '\r' then ['\\', 'r']
  else if c = '\t' then ['\\', 't']
  else if Printable.isPrintable c then [c]
  else escapeCode c.toNat

def quote (text : String) : String :=
  let inside := text.toList
  let around := mark inside
  String.ofList (around :: inside.flatMap (escape around) ++ [around])

end Chip8.Quoted
