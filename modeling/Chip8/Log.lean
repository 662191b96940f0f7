/-! # Log lines

A line of the log: how important it is, which part of the program wrote it, and what it says.
-/

namespace Chip8

inductive LogLevel where
  | debug
  | info
  | error
deriving DecidableEq, Repr

/-- The parts of the program that write to the log. -/
inductive LogSource where
  | loader
  | machine
  | host
  | tracer
  | session
deriving DecidableEq, Repr

structure LogLine where
  level : LogLevel
  source : LogSource
  message : String
deriving DecidableEq, Repr

def LogLevel.label : LogLevel → String
  | debug => "DEBUG"
  | info => "INFO"
  | error => "ERROR"

def LogSource.label : LogSource → String
  | loader => "chocchip.hostio"
  | machine => "chocchip.cpu"
  | host => "chocchip.host"
  | tracer => "chocchip.debugger"
  | session => "chocchip"

namespace LogLine

def text (line : LogLine) : String :=
  "[" ++ line.level.label ++ "] " ++ line.source.label ++ ": " ++ line.message

/-- Whether a log shows a line; lines for debugging are shown only when asked for. -/
def shownWhen (debugging : Bool) (line : LogLine) : Bool := debugging || line.level != .debug

end LogLine

end Chip8
