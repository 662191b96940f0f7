import Chip8.Keymap
import Chip8.TimeScale.Basic

/-! # Input from a terminal

A terminal sends characters and does not tell when a key is let go. A reader takes characters as
they come and puts the keys they stand for into a queue of bounded length; keys that find the
queue full are dropped. Escape and control-C end the reader, which then puts a mark for quitting
into the queue, waiting for room if it must.

A poll empties the queue. Each key found counts as held for a fifth of a second from then on, and
at every poll each key of the keypad is set to whether it is still held.
-/

namespace Chip8

inductive TypedItem where
  | key (key : Key)
  | quit
deriving DecidableEq, Repr

/-- What the reader waits for. -/
inductive ReaderState where
  /-- Another character. -/
  | reading
  /-- Room in the queue for the mark for quitting. -/
  | waiting
  /-- Nothing more. -/
  | ended
  /-- Nothing more, since what came was no character. -/
  | failed (fault : LowerCase.Fault)
deriving DecidableEq, Repr

structure Typing (τ : Type) where
  keymap : Keymap
  /-- The oldest item first. -/
  queue : List TypedItem := []
  /-- Until when each key counts as held. -/
  heldUntil : Vector τ 16
  /-- The reader was asked to stop, and does so before its next character. -/
  stopped : Bool := false
deriving DecidableEq, Repr

namespace Typing

variable {τ : Type}

def queueCapacity : Nat := 16

def escape : Int := 27

def controlC : Int := 3

def start [TimeScale τ] (keymap : Keymap) : Typing τ where
  keymap
  heldUntil := Vector.replicate 16 TimeScale.zero

/-- What reading a character does to the queue. -/
def readInto (keymap : Keymap) (queue : List TypedItem) (character : Int) :
    Except LowerCase.Fault (ReaderState × List TypedItem) :=
  match LowerCase.ofCode character with
  | .error fault => .error fault
  | .ok code =>
      let room := queue.length < queueCapacity
      if code = escape ∨ code = controlC then
        if room then .ok (.ended, queue ++ [.quit]) else .ok (.waiting, queue)
      else match keymap.key? code with
        | some key =>
            if room then .ok (.reading, queue ++ [.key key]) else .ok (.reading, queue)
        | none => .ok (.reading, queue)

/-- The keys at the front of a queue up to a mark for quitting, whether there was one, and the
items behind it. -/
def takeKeys : List TypedItem → List Key × Bool × List TypedItem
  | [] => ([], false, [])
  | .quit :: rest => ([], true, rest)
  | .key key :: rest =>
      let (keys, quit, left) := takeKeys rest
      (key :: keys, quit, left)

def holdKeys (target : τ) (heldUntil : Vector τ 16) (keys : List Key) : Vector τ 16 :=
  keys.foldl (fun held (key : Key) => held.set key.val target (Key.val_lt key)) heldUntil

/-- Empties the queue and sets the keypad, unless a mark for quitting is found, which leaves the
keypad as it was. -/
def poll [TimeScale τ] (now : τ) (keypad : Keypad) (typing : Typing τ) :
    Bool × Keypad × Typing τ :=
  let (keys, quit, queue) := takeKeys typing.queue
  let heldUntil := holdKeys (now + TimeScale.hold) typing.heldUntil keys
  let next := { typing with queue, heldUntil }
  if quit then (true, keypad, next)
  else (false, Keypad.ofKeys fun key => decide (now < heldUntil.get key), next)

def stop (typing : Typing τ) : Typing τ := { typing with stopped := true }

end Typing

/-- The input of a terminal: the queue with its polls, and the reader that fills the queue. -/
structure TerminalInput (τ : Type) where
  typing : Typing τ
  reader : ReaderState := .reading
  /-- Characters that were typed and not read yet. -/
  unread : List Int
deriving DecidableEq, Repr

namespace TerminalInput

variable {τ : Type}

def start [TimeScale τ] (keymap : Keymap) (typed : List Int) : TerminalInput τ where
  typing := .start keymap
  unread := typed

/-- A turn of the reader. It has no effect while the reader waits for a character or for room, and
ends a reader that was asked to stop. -/
def read (input : TerminalInput τ) : TerminalInput τ :=
  match input.reader with
  | .ended => input
  | .failed _ => input
  | .waiting =>
      if input.typing.queue.length < Typing.queueCapacity then
        { input with
          reader := .ended
          typing := { input.typing with queue := input.typing.queue ++ [.quit] } }
      else input
  | .reading =>
      if input.typing.stopped then { input with reader := .ended }
      else match input.unread with
        | [] => input
        | character :: rest =>
            match Typing.readInto input.typing.keymap input.typing.queue character with
            | .error fault => { input with unread := rest, reader := .failed fault }
            | .ok (reader, queue) =>
                { unread := rest, reader, typing := { input.typing with queue } }

/-- So many turns of the reader. -/
def readOn : Nat → TerminalInput τ → TerminalInput τ
  | 0, input => input
  | turns + 1, input => readOn turns input.read

def poll [TimeScale τ] (now : τ) (keypad : Keypad) (input : TerminalInput τ) :
    Bool × Keypad × TerminalInput τ :=
  let (quit, keypad, typing) := input.typing.poll now keypad
  (quit, keypad, { input with typing })

def stop (input : TerminalInput τ) : TerminalInput τ := { input with typing := input.typing.stop }

end TerminalInput

end Chip8
