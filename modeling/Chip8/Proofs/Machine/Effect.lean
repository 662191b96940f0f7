import Chip8.Machine.Execute
import Chip8.Proofs.Machine.Validity

/-! # What instructions do

On a valid machine an instruction is either refused, and then changes nothing, or it runs to its
end. What it does then is a function of the machine, given here without the steps in which it is
executed.
-/

namespace Chip8

/-- Registers loaded one by one from consecutive addresses. -/
def Registers.fill (registers : Registers) (memory : Memory) (address : Int) :
    List Register → Registers
  | [] => registers
  | x :: rest =>
      (registers.write x (memory.byteAt (Layout.wrap address))).fill memory (address + 1) rest

namespace Machine

variable {machine middle : Machine}

/-! ### Effects -/

def withRegister (machine : Machine) (x : Register) (byte : UInt8) : Machine :=
  { machine with registers := machine.registers.write x byte }

def withFlag (machine : Machine) (flag : Bool) : Machine :=
  machine.withRegister flagRegister (if flag then 1 else 0)

/-- The machine past the next instruction if a condition holds. -/
def skipIf (machine : Machine) (condition : Bool) : Machine :=
  { machine with pc := if condition then Layout.wrap (machine.pc + 2) else machine.pc }

def withMemory (machine : Machine) (memory : Memory) : Machine := { machine with memory }

/-- The register that a shift reads. -/
def shiftSource (machine : Machine) (x y : Register) : UInt8 :=
  if machine.variant.shiftsCopy then machine.registers.get y else machine.registers.get x

/-- The pixels of a sprite in memory, at the position that two registers hold once the flag is
cleared. -/
def spriteAt (machine : Machine) (x y : Register) (height : Nat) : List (Int × Int) :=
  let registers := (machine.withFlag false).registers
  Framebuffer.spritePixels
    (Int.fmod (registers.get x).toNat machine.framebuffer.width)
    (Int.fmod (registers.get y).toNat machine.framebuffer.height)
    (machine.memory.span machine.index height)

def drawn (machine : Machine) (x y : Register) (height : Nat) : Machine :=
  let pixels := machine.spriteAt x y height
  { machine.withFlag false with framebuffer := machine.framebuffer.flips pixels }.withFlag
    (machine.framebuffer.collides pixels)

/-- The machine after the key that a register names was tested. -/
def keyTested (machine : Machine) (x : Register) (skipsWhenDown : Bool) : Machine :=
  let key : Int := (machine.registers.get x).toNat
  { machine.skipIf (machine.keypad.isDown key == skipsWhenDown) with
    keypad :=
      if machine.variant.testsRelease then machine.keypad.release key else machine.keypad }

/-- The machine after it waited for a key once. -/
def keyAwaited (machine : Machine) (x : Register) : Machine :=
  match machine.keypad.firstDown with
  | none => { machine with pc := Layout.wrap (machine.pc - 2), awaitingKey := true }
  | some key => { machine.withRegister x (UInt8.ofNat key.val) with awaitingKey := false }

/-- The fault that an instruction is refused with, if it is. -/
def refusal (machine : Machine) : Instruction → Option Fault
  | .ret =>
      match machine.stack.pop with
      | .ok _ => none
      | .error fault => some (.returning fault)
  | .call _ =>
      match machine.stack.push machine.pc with
      | .ok _ => none
      | .error fault => some (.calling fault)
  | _ => none

/-- The machine after an instruction, which changes nothing where it is refused. -/
def effect (machine : Machine) (instruction : Instruction) : Machine :=
  let value := machine.registers.get
  match instruction with
  | .clearScreen => { machine with framebuffer := machine.framebuffer.clear }
  | .ret =>
      match machine.stack.pop with
      | .ok (entry, stack) => { machine with stack, pc := entry }
      | .error _ => machine
  | .jump address => { machine with pc := address.val }
  | .call address =>
      match machine.stack.push machine.pc with
      | .ok stack => { machine with stack, pc := address.val }
      | .error _ => machine
  | .skipIfByte x byte => machine.skipIf (value x == byte)
  | .skipUnlessByte x byte => machine.skipIf (value x != byte)
  | .skipIfEqual x y => machine.skipIf (value x == value y)
  | .skipUnlessEqual x y => machine.skipIf (value x != value y)
  | .loadByte x byte => machine.withRegister x byte
  | .addByte x byte => machine.withRegister x (value x + byte)
  | .copy x y => machine.withRegister x (value y)
  | .or x y => machine.withRegister x (value x ||| value y)
  | .and x y => machine.withRegister x (value x &&& value y)
  | .xor x y => machine.withRegister x (value x ^^^ value y)
  | .add x y =>
      (machine.withRegister x (value x + value y)).withFlag
        (255 < (value x).toNat + (value y).toNat)
  | .subtract x y =>
      (machine.withRegister x (value x - value y)).withFlag (value y ≤ value x)
  | .subtractFrom x y =>
      (machine.withRegister x (value y - value x)).withFlag (value x ≤ value y)
  | .shiftRight x y =>
      let source := machine.shiftSource x y
      (machine.withRegister x (source / 2)).withFlag (source % 2 == 1)
  | .shiftLeft x y =>
      let source := machine.shiftSource x y
      (machine.withRegister x (source + source)).withFlag (128 ≤ source)
  | .loadIndex address => { machine with index := address.val }
  | .jumpOffset address =>
      { machine with pc := Layout.wrap ((value offsetRegister).toNat + address.val) }
  | .random x byte =>
      { machine.withRegister x (machine.random.next &&& byte) with
        random := machine.random.advance }
  | .draw x y height => machine.drawn x y height.val
  | .skipIfKey x => machine.keyTested x true
  | .skipUnlessKey x => machine.keyTested x false
  | .readDelay x => machine.withRegister x (UInt8.ofNat machine.delay.toNat)
  | .awaitKey x => machine.keyAwaited x
  | .setDelay x => { machine with delay := (value x).toNat }
  | .setSound x => { machine with sound := (value x).toNat }
  | .addIndex x =>
      { machine with index := Layout.wrap (machine.index + (value x).toNat) }
  | .loadGlyph x =>
      { machine with
        index := Layout.fontStart + Layout.glyphSize * ((value x).toNat % 16 : Nat) }
  | .storeDecimal x =>
      machine.withMemory (machine.memory.store machine.index (decimalDigits (value x)))
  | .storeRegisters x =>
      machine.withMemory (machine.memory.store machine.index ((registersTo x).map value))
  | .loadRegisters x =>
      { machine with
        registers := machine.registers.fill machine.memory machine.index (registersTo x) }

/-! ### Execution has the effect -/

theorem bind_ok {α β : Type} {action : Action α} {value : α} {next : α → Action β}
    (ran : action machine = .ok value middle) : (action >>= next) machine = next value middle := by
  simp only [bind, EStateM.bind, ran]

theorem get_eq (machine : Machine) : (get : Action Machine) machine = .ok machine machine := rfl

theorem modify_eq (change : Machine → Machine) (machine : Machine) :
    (modify change : Action Unit) machine = .ok () (change machine) := rfl

theorem readByte_wrap (whole : machine.memory.size = 0x1000) (address : Int) :
    readByte (Layout.wrap address) machine =
      .ok (machine.memory.byteAt (Layout.wrap address)) machine := by
  have most := Memory.wrap_lt_size whole address
  simp only [readByte, Memory.read_eq (Layout.wrap_nonneg address) most]

theorem writeByte_wrap (whole : machine.memory.size = 0x1000) (address : Int) (byte : UInt8) :
    writeByte (Layout.wrap address) byte machine =
      .ok () (machine.withMemory (machine.memory.put (Layout.wrap address) byte)) := by
  have most := Memory.wrap_lt_size whole address
  simp only [writeByte, Memory.check_eq (Layout.wrap_nonneg address) most, withMemory]

theorem fetchBytes_eq (whole : machine.memory.size = 0x1000) (address : Int) (count : Nat) :
    fetchBytes address count machine = .ok (machine.memory.span address count) machine := by
  induction count generalizing address with
  | zero => rfl
  | succ count ih =>
    rw [fetchBytes, bind_ok (readByte_wrap whole address), bind_ok (ih (address + 1))]
    rfl

theorem storeBytes_eq (whole : machine.memory.size = 0x1000) (address : Int)
    (bytes : List UInt8) :
    storeBytes address bytes machine =
      .ok () (machine.withMemory (machine.memory.store address bytes)) := by
  induction bytes generalizing machine address with
  | nil => rfl
  | cons byte rest ih =>
    rw [storeBytes, bind_ok (writeByte_wrap whole address byte)]
    exact ih ((machine.memory.size_put _ _).trans whole) (address + 1)

theorem loadRegisterList_eq (whole : machine.memory.size = 0x1000) (address : Int)
    (registers : List Register) :
    loadRegisterList address registers machine =
      .ok () { machine with
        registers := machine.registers.fill machine.memory address registers } := by
  induction registers generalizing machine address with
  | nil => rfl
  | cons x rest ih =>
    rw [loadRegisterList, bind_ok (readByte_wrap whole address)]
    exact @ih (machine.withRegister x _) whole (address + 1)

theorem skipWhen_eq (machine : Machine) (condition : Bool) :
    skipWhen condition machine = .ok () (machine.skipIf condition) := by
  cases condition <;> rfl

theorem testKey_eq (machine : Machine) (x : Register) (skipsWhenDown : Bool) :
    testKey x skipsWhenDown machine = .ok () (machine.keyTested x skipsWhenDown) := by
  rw [testKey, bind_ok (get_eq machine), bind_ok (skipWhen_eq machine _)]
  by_cases releases : machine.variant.testsRelease = true
  · rw [if_pos releases, keyTested, if_pos releases]
    rfl
  · rw [if_neg releases, keyTested, if_neg releases]
    rfl

theorem Valid.loadRegister_delay (valid : machine.Valid) (x : Register) :
    loadRegister x machine.delay machine =
      .ok () (machine.withRegister x (UInt8.ofNat machine.delay.toNat)) := by
  have inside : ¬ (machine.delay < 0 ∨ 255 < machine.delay) := by
    have delay := valid.delay
    omega
  rw [loadRegister, if_neg inside]
  rfl

theorem onFramebuffer_eq {α : Type} {action : EStateM Framebuffer.Fault Framebuffer α} {value : α}
    {framebuffer : Framebuffer} (drew : action machine.framebuffer = .ok value framebuffer) :
    onFramebuffer action machine = .ok value { machine with framebuffer } := by
  rw [onFramebuffer, drew]

/-- The sprite is read from memory and drawn on a framebuffer that has all of its cells. -/
theorem Valid.draw_eq (valid : machine.Valid) (x y : Register) (height : Fin 16) :
    execute (.draw x y height) machine = .ok () (machine.drawn x y height.val) := by
  have clears : setFlag false machine = .ok () (machine.withFlag false) := rfl
  have rows : fetchBytes machine.index height.val (machine.withFlag false) =
      .ok (machine.memory.span machine.index height.val) (machine.withFlag false) :=
    @fetchBytes_eq (machine.withFlag false) valid.memory machine.index height.val
  have draws := @onFramebuffer_eq (machine.withFlag false) _ _ _ _
    (valid.framebuffer.drawSprite_eq ((machine.withFlag false).registers.get x).toNat
      ((machine.withFlag false).registers.get y).toNat
      (machine.memory.span machine.index height.val))
  rw [execute, bind_ok (get_eq machine)]
  simp only
  rw [bind_ok clears, bind_ok rows, bind_ok (get_eq _), bind_ok draws]
  rfl

/-- A return goes by what the stack answers. -/
theorem execute_ret (machine : Machine) :
    execute .ret machine =
      match machine.stack.pop with
      | .ok (entry, stack) => .ok () { machine with stack, pc := entry }
      | .error fault => .error (.returning fault) machine := by
  change (match machine.stack.pop with
    | .ok (entry, stack) => set { machine with stack, pc := entry }
    | .error fault => throw (.returning fault) : Action Unit) machine = _
  cases machine.stack.pop <;> rfl

/-- A call goes by what the stack answers. -/
theorem execute_call (machine : Machine) (address : Address) :
    execute (.call address) machine =
      match machine.stack.push machine.pc with
      | .ok stack => .ok () { machine with stack, pc := address.val }
      | .error fault => .error (.calling fault) machine := by
  change (match machine.stack.push machine.pc with
    | .ok stack => set { machine with stack, pc := (address.val : Int) }
    | .error fault => throw (.calling fault) : Action Unit) machine = _
  cases machine.stack.push machine.pc <;> rfl

/-- A refused instruction changes nothing. -/
theorem execute_refused {instruction : Instruction} {fault : Fault}
    (refused : machine.refusal instruction = some fault) :
    execute instruction machine = .error fault machine := by
  cases instruction <;> simp only [refusal, reduceCtorEq] at refused
  case ret =>
    rw [execute_ret]
    cases popped : machine.stack.pop with
    | ok top => simp [popped] at refused
    | error reason =>
      obtain rfl : Fault.returning reason = fault := by simpa [popped] using refused
      rfl
  case call address =>
    rw [execute_call]
    cases pushed : machine.stack.push machine.pc with
    | ok stack => simp [pushed] at refused
    | error reason =>
      obtain rfl : Fault.calling reason = fault := by simpa [pushed] using refused
      rfl

/-- An instruction that is not refused has its effect. -/
theorem Valid.execute_eq (valid : machine.Valid) {instruction : Instruction}
    (accepted : machine.refusal instruction = none) :
    execute instruction machine = .ok () (machine.effect instruction) := by
  cases instruction
  case ret =>
    rw [execute_ret, effect]
    cases popped : machine.stack.pop with
    | ok top => rfl
    | error reason => simp [refusal, popped] at accepted
  case call address =>
    rw [execute_call, effect]
    cases pushed : machine.stack.push machine.pc with
    | ok stack => rfl
    | error reason => simp [refusal, pushed] at accepted
  case skipIfByte | skipUnlessByte | skipIfEqual | skipUnlessEqual => exact skipWhen_eq machine _
  case skipIfKey | skipUnlessKey => exact testKey_eq machine _ _
  case draw x y height => exact valid.draw_eq x y height
  case readDelay x => exact valid.loadRegister_delay x
  case awaitKey x =>
    rw [execute, bind_ok (get_eq machine), effect, keyAwaited]
    cases machine.keypad.firstDown <;> rfl
  case storeDecimal | storeRegisters => exact storeBytes_eq valid.memory _ _
  case loadRegisters => exact loadRegisterList_eq valid.memory _ _
  all_goals rfl

end Machine

end Chip8
