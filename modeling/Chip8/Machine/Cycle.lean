import Chip8.Instruction.Decode
import Chip8.Instruction.Mnemonic
import Chip8.Machine.Dump
import Chip8.Machine.Execute

/-! # Cycles

A cycle fetches the word at the program counter, moves the counter past it, decodes the word and
executes the instruction. A machine that traces reports the instruction once it is decoded and
before it executes, so a trace shows the registers that the instruction found. A word that
encodes no instruction is not traced.
-/

namespace Chip8.Machine

/-- What a run of the machine leaves: the machine, the lines traced, and the fault that stopped
it, if one did. -/
structure Outcome where
  machine : Machine
  traces : List String := []
  fault : Option Fault := none
deriving DecidableEq, Repr

/-- The outcome of an action that traced some lines beforehand. -/
def outcome (action : Action Unit) (traces : List String) (machine : Machine) : Outcome :=
  match action machine with
  | .ok _ machine => { machine, traces }
  | .error fault machine => { machine, traces, fault := some fault }

/-- The lines that a machine traces before it executes an instruction. -/
def traceLines (machine : Machine) (instruction : Instruction) : List String :=
  if machine.tracing then
    [machine.dump (instruction.mnemonic machine.variant.shiftsCopy)]
  else []

/-- Decodes and executes the word that was fetched. -/
def dispatch (machine : Machine) : Outcome :=
  match Instruction.decode? machine.word with
  | none => { machine, fault := some .unsupported }
  | some instruction => outcome (execute instruction) (machine.traceLines instruction) machine

/-- Fetches the next word and moves past it. -/
def fetchNext : Action Unit := do
  modify fun machine => { machine with origin := machine.pc }
  let word ← fetch
  modify fun machine => { machine with word }
  advance

def cycle (machine : Machine) : Outcome :=
  match fetchNext machine with
  | .ok _ machine => machine.dispatch
  | .error fault machine => { machine, fault := some fault }

/-- Cycles one after another until one fails. -/
def cycles : Nat → Machine → Outcome
  | 0, machine => { machine }
  | count + 1, machine =>
      let first := machine.cycle
      match first.fault with
      | some _ => first
      | none =>
          let rest := cycles count first.machine
          { rest with traces := first.traces ++ rest.traces }

end Chip8.Machine
