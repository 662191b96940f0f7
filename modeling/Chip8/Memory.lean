import Chip8.Extent
import Chip8.Text.Hex

/-! # Byte memory

A memory is a fixed number of bytes. Locations are integers, so that a bounds check sees the
location that was asked for and not a wrapped one. A location below zero is counted back from the
end where it is read, and is never written. A block is checked at its last location only, and is
then refused for its length when it starts below zero.

Every operation that fails leaves the memory as it was, since it returns no other.
-/

namespace Chip8

structure Memory where
  bytes : Array UInt8
deriving DecidableEq, Repr

namespace Memory

inductive Fault where
  /-- A write outside the memory, whose highest location is `top`. -/
  | outOfBounds (location top : Int)
  /-- A read outside the memory. -/
  | noSuchByte (location : Int)
  /-- A value outside 0 to 255. -/
  | notAByte (value : Int)
  /-- A block whose length differs from the number of bytes it would replace. -/
  | lengthMismatch (length room : Nat)
  /-- A memory of fewer than no bytes. -/
  | negativeSize (size : Int)
  | extent (fault : Extent.Fault)
deriving DecidableEq, Repr

def size (memory : Memory) : Nat := memory.bytes.size

/-- The highest location, -1 in an empty memory. -/
def top (memory : Memory) : Int := memory.size - 1

def zeros (size : Nat) : Memory := ⟨Array.replicate size 0⟩

def ofSize (size : Int) (room : Int := Extent.commonRoom) : Except Fault Memory :=
  match Extent.check room size with
  | .error fault => .error (.extent fault)
  | .ok () => if size < 0 then .error (.negativeSize size) else .ok (zeros size.toNat)

/-- The position of a location, which counts back from the end if it is below zero. -/
def position (memory : Memory) (location : Int) : Int :=
  if location < 0 then location + memory.size else location

def read (memory : Memory) (location : Int) : Except Fault UInt8 :=
  let position := memory.position location
  if position < 0 then .error (.noSuchByte location)
  else match memory.bytes[position.toNat]? with
    | some byte => .ok byte
    | none => .error (.noSuchByte location)

/-- The position of a block's end, kept within the memory. -/
def bound (memory : Memory) (location : Int) : Nat :=
  min (memory.position location).toNat memory.size

/-- The bytes from `location` on; fewer than `length` where the memory ends before. -/
def readBlock (memory : Memory) (location length : Int) : Array UInt8 :=
  memory.bytes.extract (memory.bound location) (memory.bound (location + length))

/-- Refuses a location that cannot be written. -/
def check (memory : Memory) (location : Int) : Except Fault Unit :=
  if memory.top < location ∨ location < 0 then .error (.outOfBounds location memory.top)
  else .ok ()

/-- The memory with one byte replaced, at a location that can be written. -/
def put (memory : Memory) (location : Int) (byte : UInt8) : Memory :=
  ⟨memory.bytes.setIfInBounds location.toNat byte⟩

def write (memory : Memory) (location value : Int) : Except Fault Memory :=
  match memory.check location with
  | .error fault => .error fault
  | .ok () =>
    if value < 0 ∨ 255 < value then .error (.notAByte value)
    else .ok (memory.put location (UInt8.ofNat value.toNat))

/-- Replaces the bytes from a position on. -/
def overwrite (bytes : Array UInt8) (start : Nat) : List UInt8 → Array UInt8
  | [] => bytes
  | byte :: rest => overwrite (bytes.setIfInBounds start byte) (start + 1) rest

def writeBlock (memory : Memory) (location : Int) (block : List UInt8) : Except Fault Memory :=
  let stop := location + block.length
  let room := memory.bound stop - memory.bound location
  if block = [] then .ok memory
  else match memory.check (stop - 1) with
    | .error fault => .error fault
    | .ok () =>
      if room ≠ block.length then .error (.lengthMismatch block.length room)
      else .ok ⟨overwrite memory.bytes (memory.bound location) block⟩

def clear (memory : Memory) : Memory := zeros memory.size

/-- A byte before runs of adjacent bytes, to the first of which it belongs if that is next. -/
def extendRuns (location : Nat) (byte : UInt8) (runs : List (Nat × List UInt8)) :
    List (Nat × List UInt8) :=
  match runs with
  | (start, run) :: rest =>
      if start = location + 1 then (location, byte :: run) :: rest
      else (location, [byte]) :: runs
  | [] => [(location, [byte])]

/-- The runs of adjacent bytes below a location in which a memory differs from an earlier one,
before the runs from that location on. -/
def changesBelow (before after : Memory) :
    Nat → List (Nat × List UInt8) → List (Nat × List UInt8)
  | 0, runs => runs
  | location + 1, runs =>
      let byte := after.bytes.getD location 0
      if before.bytes.getD location 0 = byte then changesBelow before after location runs
      else changesBelow before after location (extendRuns location byte runs)

/-- The runs of adjacent bytes in which a memory differs from an earlier one, with their
locations. -/
def changes (before after : Memory) : List (Nat × List UInt8) :=
  changesBelow before after after.size []

def Fault.message : Fault → String
  | outOfBounds location top =>
      "Memory overflow at address 0x" ++ Hex.padded 4 location ++
        " (top of memory is 0x" ++ Hex.padded 3 top ++ ")"
  | noSuchByte location => s!"There is no byte at {location}"
  | notAByte value => s!"{value} is not a byte"
  | lengthMismatch length room => s!"A block of {length} bytes does not fit {room} bytes"
  | negativeSize size => s!"A memory cannot have {size} bytes"
  | extent fault => fault.message

@[simp] theorem size_zeros (size : Nat) : (zeros size).size = size := by
  simp [zeros, Memory.size]

@[simp] theorem size_clear (memory : Memory) : memory.clear.size = memory.size := by
  simp [clear]

@[simp] theorem size_put (memory : Memory) (location : Int) (byte : UInt8) :
    (memory.put location byte).size = memory.size := by
  simp [put, Memory.size]

@[simp] theorem size_overwrite (bytes : Array UInt8) (start : Nat) (block : List UInt8) :
    (overwrite bytes start block).size = bytes.size := by
  induction block generalizing bytes start with
  | nil => rfl
  | cons byte rest ih => simp [overwrite, ih]

theorem size_of_write {memory target : Memory} {location value : Int}
    (success : memory.write location value = .ok target) : target.size = memory.size := by
  simp only [write] at success
  split at success
  · cases success
  · split at success
    · cases success
    · cases success
      simp

theorem size_of_writeBlock {memory target : Memory} {location : Int} {block : List UInt8}
    (success : memory.writeBlock location block = .ok target) : target.size = memory.size := by
  simp only [writeBlock] at success
  split at success
  · cases success; rfl
  · split at success
    · cases success
    · split at success
      · cases success
      · cases success
        simp [Memory.size]

end Memory

end Chip8
