import Chip8.Host.Front
import Chip8.Input.Any

/-! # Front ends in use

A display with its input, and the commands that the display gave so far. While it is in use, the
system that shows the display may refuse a command, and a poll may fail.
-/

namespace Chip8

/-- What fails while a front end is in use, and for which reason. -/
structure Outages where
  /-- Commands that are refused, each told by how many were given before it. -/
  command? : Nat → Option String := fun _ => none
  /-- Polls that fail, each told by how many were made before it. -/
  poll? : Nat → Option String := fun _ => none

namespace Outages

/-- The commands up to the first that is refused, and the reason, if so many were given before. -/
def refusal? (outages : Outages) : Nat → List Display.Command →
    Option (List Display.Command × String)
  | _, [] => none
  | given, command :: rest =>
      match outages.command? given with
      | some reason => some ([command], reason)
      | none =>
          match outages.refusal? (given + 1) rest with
          | some (commands, reason) => some (command :: commands, reason)
          | none => none

end Outages

structure FrontEnd (τ : Type) where
  display : Display
  input : Input τ
  /-- The latest command first. -/
  commands : List Display.Command := []
  /-- How often the input was polled. -/
  polls : Nat := 0
  outages : Outages := {}

namespace FrontEnd

variable {τ : Type}

/-- Takes over a display and the commands that it gave. -/
def take (display : Display) (commands : List Display.Command) (front : FrontEnd τ) : FrontEnd τ :=
  { front with display, commands := commands.reverse ++ front.commands }

/-- Performs an operation of the display, as far as the system follows. -/
def perform (operation : Display → Display.Result Display) :
    EStateM Display.Fault (FrontEnd τ) Unit := fun front =>
  let result := operation front.display
  match front.outages.refusal? front.commands.length result.commands with
  | some (commands, reason) =>
      .error (.commandRefused reason) (front.take result.unfinished commands)
  | none =>
      match result.fault with
      | some fault => .error fault (front.take result.display result.commands)
      | none => .ok () (front.take result.display result.commands)

def poll [TimeScale τ] (now : τ) : EStateM PollFault (Keypad × FrontEnd τ) Bool :=
  fun (keypad, front) =>
    let polls := front.polls + 1
    match front.outages.poll? front.polls with
    | some reason => .error ⟨reason⟩ (keypad, { front with polls })
    | none =>
        let (quit, keypad, input) := front.input.poll now keypad
        .ok quit (keypad, { front with input, polls })

instance [TimeScale τ] : Front τ (FrontEnd τ) where
  resize width height := perform (Display.resize width height)
  setTitle title := perform (Display.setTitle title)
  draw cells := perform (Display.draw cells)
  poll := poll

end FrontEnd

end Chip8
