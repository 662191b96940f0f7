import Chip8.Machine.Basic

/-! # Execution

What each instruction does. The program counter has moved past the instruction before it
executes, so a jump sets it, a skip moves it once more, and waiting for a key moves it back.

Where an instruction sets the flag register it sets it last, after the result, for the result or
an operand may be that register itself. Addresses formed from the index wrap around at the end of
memory.
-/

namespace Chip8.Machine

/-- Stores bytes one by one from an address on. -/
def storeBytes (address : Int) : List UInt8 → Action Unit
  | [] => pure ()
  | byte :: rest => do
      writeByte (Layout.wrap address) byte
      storeBytes (address + 1) rest

/-- The bytes from an address on. -/
def fetchBytes (address : Int) : Nat → Action (List UInt8)
  | 0 => pure []
  | count + 1 => do
      let byte ← readByte (Layout.wrap address)
      let rest ← fetchBytes (address + 1) count
      pure (byte :: rest)

/-- Loads registers one by one from an address on. -/
def loadRegisterList (address : Int) : List Register → Action Unit
  | [] => pure ()
  | x :: rest => do
      let byte ← readByte (Layout.wrap address)
      setRegister x byte
      loadRegisterList (address + 1) rest

/-- The registers up to and including `x`. -/
def registersTo (x : Register) : List Register := (List.finRange 16).take (x.val + 1)

/-- The hundreds, tens and units of a byte. -/
def decimalDigits (byte : UInt8) : List UInt8 := [byte / 100, byte / 10 % 10, byte % 10]

/-- Tests a key, and releases it on the variant that does so. -/
def testKey (x : Register) (skipsWhenDown : Bool) : Action Unit := do
  let machine ← get
  let key : Int := (machine.registers.get x).toNat
  skipWhen (machine.keypad.isDown key == skipsWhenDown)
  if machine.variant.testsRelease then
    modify fun machine => { machine with keypad := machine.keypad.release key }

def execute (instruction : Instruction) : Action Unit := do
  let machine ← get
  let value := machine.registers.get
  match instruction with
  | .clearScreen => set { machine with framebuffer := machine.framebuffer.clear }
  | .ret =>
      match machine.stack.pop with
      | .ok (entry, stack) => set { machine with stack, pc := entry }
      | .error fault => throw (.returning fault)
  | .jump address => set { machine with pc := address.val }
  | .call address =>
      match machine.stack.push machine.pc with
      | .ok stack => set { machine with stack, pc := address.val }
      | .error fault => throw (.calling fault)
  | .skipIfByte x byte => skipWhen (value x == byte)
  | .skipUnlessByte x byte => skipWhen (value x != byte)
  | .skipIfEqual x y => skipWhen (value x == value y)
  | .skipUnlessEqual x y => skipWhen (value x != value y)
  | .loadByte x byte => setRegister x byte
  | .addByte x byte => setRegister x (value x + byte)
  | .copy x y => setRegister x (value y)
  | .or x y => setRegister x (value x ||| value y)
  | .and x y => setRegister x (value x &&& value y)
  | .xor x y => setRegister x (value x ^^^ value y)
  | .add x y =>
      setRegister x (value x + value y)
      setFlag (255 < (value x).toNat + (value y).toNat)
  | .subtract x y =>
      setRegister x (value x - value y)
      setFlag (value y ≤ value x)
  | .subtractFrom x y =>
      setRegister x (value y - value x)
      setFlag (value x ≤ value y)
  | .shiftRight x y =>
      let source := if machine.variant.shiftsCopy then value y else value x
      setRegister x (source / 2)
      setFlag (source % 2 == 1)
  | .shiftLeft x y =>
      let source := if machine.variant.shiftsCopy then value y else value x
      setRegister x (source + source)
      setFlag (128 ≤ source)
  | .loadIndex address => set { machine with index := address.val }
  | .jumpOffset address =>
      set { machine with pc := Layout.wrap ((value offsetRegister).toNat + address.val) }
  | .random x byte =>
      set { machine with random := machine.random.advance }
      setRegister x (machine.random.next &&& byte)
  | .draw x y height =>
      setFlag false
      let rows ← fetchBytes machine.index height.val
      let cleared := (← get).registers
      let collided ← onFramebuffer
        (Framebuffer.drawSprite (cleared.get x).toNat (cleared.get y).toNat rows)
      setFlag collided
  | .skipIfKey x => testKey x true
  | .skipUnlessKey x => testKey x false
  | .readDelay x => loadRegister x machine.delay
  | .awaitKey x =>
      match machine.keypad.firstDown with
      | none =>
          rewind
          modify fun machine => { machine with awaitingKey := true }
      | some key =>
          setRegister x (UInt8.ofNat key.val)
          modify fun machine => { machine with awaitingKey := false }
  | .setDelay x => set { machine with delay := (value x).toNat }
  | .setSound x => set { machine with sound := (value x).toNat }
  | .addIndex x => set { machine with index := Layout.wrap (machine.index + (value x).toNat) }
  | .loadGlyph x =>
      set { machine with
        index := Layout.fontStart + Layout.glyphSize * ((value x).toNat % 16 : Nat) }
  | .storeDecimal x => storeBytes machine.index (decimalDigits (value x))
  | .storeRegisters x =>
      storeBytes machine.index ((registersTo x).map value)
  | .loadRegisters x => loadRegisterList machine.index (registersTo x)

end Chip8.Machine
