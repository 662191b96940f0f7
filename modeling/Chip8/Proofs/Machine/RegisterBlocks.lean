import Chip8.Proofs.Machine.Frame
import Chip8.Proofs.Machine.Straight

/-! # Registers stored and loaded

Registers are stored and loaded in order, at consecutive addresses from the index on. The addresses
wrap around at the end of memory, but no two of them are the same, so what was stored is found
again. A byte is stored as its three decimal digits in the same way.
-/

namespace Chip8

namespace Memory

/-- The second memory differs from the first one only at so many addresses from one on, which wrap
around. -/
structure ChangedWithin (before after : Memory) (address : Int) (count : Nat) : Prop where
  size : after.size = before.size
  outside : ∀ location, 0 ≤ location →
    (∀ offset < count, location ≠ Layout.wrap (address + offset)) →
    after.byteAt location = before.byteAt location

theorem changedWithin_store {memory : Memory} (whole : memory.size = 0x1000) (address : Int)
    (bytes : List UInt8) :
    memory.ChangedWithin (memory.store address bytes) address bytes.length where
  size := memory.size_store address bytes
  outside _ known apart :=
    byteAt_store_of_outside whole known fun offset inside => (apart offset inside).symm

end Memory

namespace Registers

variable {registers : Registers} {memory : Memory} {address : Int} {filled : List Register}

theorem get_fill_of_notMem {y : Register} (absent : y ∉ filled) :
    (registers.fill memory address filled).get y = registers.get y := by
  by_contra changed
  exact absent (mem_of_get_fill_ne changed)

/-- Each of the registers holds the byte at its own address, for none of them is loaded again. -/
theorem get_fill_getElem (distinct : filled.Nodup) {offset : Nat} (inside : offset < filled.length) :
    (registers.fill memory address filled).get filled[offset] =
      memory.byteAt (Layout.wrap (address + offset)) := by
  induction filled generalizing registers address offset with
  | nil => cases inside
  | cons x rest ih =>
    obtain ⟨once, later⟩ := List.nodup_cons.mp distinct
    cases offset with
    | zero =>
      rw [List.getElem_cons_zero, fill, get_fill_of_notMem once, get_write, if_pos rfl,
        Int.natCast_zero, Int.add_zero]
    | succ offset =>
      rw [List.getElem_cons_succ, fill, Int.natCast_succ, Int.add_comm offset 1, ← Int.add_assoc]
      exact ih later (Nat.lt_of_succ_lt_succ inside)

/-- Registers that were loaded hold the bytes that they were loaded from. -/
theorem map_get_fill (distinct : filled.Nodup) :
    filled.map (registers.fill memory address filled).get = memory.span address filled.length := by
  apply List.ext_getElem
  · simp
  · intro offset inside _
    rw [List.length_map] at inside
    rw [List.getElem_map, get_fill_getElem distinct inside, Memory.getElem_span]

end Registers

namespace Machine

variable {machine : Machine} {x y : Register}

/-! ### The registers up to one -/

theorem length_registersTo (x : Register) : (registersTo x).length = x.val + 1 := by
  rw [registersTo, List.length_take, List.length_finRange]
  omega

theorem lt_length_registersTo (upTo : y ≤ x) : y.val < (registersTo x).length := by
  rw [Fin.le_def] at upTo
  rw [length_registersTo]
  omega

theorem getElem_registersTo (inside : y.val < (registersTo x).length) :
    (registersTo x)[y.val] = y := by
  simp [registersTo]

theorem nodup_registersTo (x : Register) : (registersTo x).Nodup :=
  (List.nodup_finRange 16).sublist (List.take_sublist _ _)

theorem length_registersTo_le (x : Register) : (registersTo x).length ≤ 0x1000 := by
  rw [length_registersTo]
  omega

/-! ### Storing and loading -/

theorem byteAt_storeRegisters (whole : machine.memory.size = 0x1000) (upTo : y ≤ x) :
    (machine.effect (.storeRegisters x)).memory.byteAt (Layout.wrap (machine.index + y.val)) =
      machine.registers.get y := by
  have inside := lt_length_registersTo upTo
  have known : y.val < ((registersTo x).map machine.registers.get).length := by
    rwa [List.length_map]
  have short : ((registersTo x).map machine.registers.get).length ≤ 0x1000 := by
    rw [List.length_map]
    exact length_registersTo_le x
  refine (Memory.byteAt_store_inside whole short known).trans ?_
  rw [List.getElem_map, getElem_registersTo inside]

theorem changedWithin_storeRegisters (whole : machine.memory.size = 0x1000) (x : Register) :
    machine.memory.ChangedWithin (machine.effect (.storeRegisters x)).memory machine.index
      (x.val + 1) := by
  have changed := Memory.changedWithin_store whole machine.index
    ((registersTo x).map machine.registers.get)
  rw [List.length_map, length_registersTo] at changed
  exact changed

theorem get_loadRegisters (upTo : y ≤ x) :
    (machine.effect (.loadRegisters x)).registers.get y =
      machine.memory.byteAt (Layout.wrap (machine.index + y.val)) := by
  have inside := lt_length_registersTo upTo
  have found := @Registers.get_fill_getElem machine.registers machine.memory machine.index _
    (nodup_registersTo x) _ inside
  rw [getElem_registersTo inside] at found
  exact found

theorem get_loadRegisters_of_lt (above : x < y) :
    (machine.effect (.loadRegisters x)).registers.get y = machine.registers.get y := by
  apply Registers.get_fill_of_notMem
  intro member
  exact absurd (le_of_mem_registersTo member) (Fin.not_le.mpr above)

/-- What was stored is loaded again, whatever the registers hold in between. -/
theorem get_loadRegisters_stored {between : Machine} (whole : machine.memory.size = 0x1000)
    (kept : between.memory = (machine.effect (.storeRegisters x)).memory)
    (same : between.index = machine.index) (upTo : y ≤ x) :
    (between.effect (.loadRegisters x)).registers.get y = machine.registers.get y := by
  rw [get_loadRegisters upTo, kept, same, byteAt_storeRegisters whole upTo]

/-- What was loaded is stored where it comes from. -/
theorem memory_storeRegisters_loaded {between : Machine} (whole : machine.memory.size = 0x1000)
    (loaded : between.registers = (machine.effect (.loadRegisters x)).registers)
    (kept : between.memory = machine.memory) (same : between.index = machine.index) :
    (between.effect (.storeRegisters x)).memory = machine.memory := by
  have read : (registersTo x).map between.registers.get =
      machine.memory.span machine.index (registersTo x).length := by
    rw [loaded]
    exact Registers.map_get_fill (nodup_registersTo x)
  calc
    (between.effect (.storeRegisters x)).memory
        = between.memory.store between.index ((registersTo x).map between.registers.get) := rfl
    _ = machine.memory.store machine.index
          (machine.memory.span machine.index (registersTo x).length) := by rw [kept, same, read]
    _ = machine.memory := Memory.store_span whole machine.index _

/-! ### Decimal digits -/

theorem length_decimalDigits (byte : UInt8) : (decimalDigits byte).length = 3 := rfl

theorem le_nine_of_mem_decimalDigits {byte digit : UInt8} (member : digit ∈ decimalDigits byte) :
    digit.toNat ≤ 9 := by
  have bound := byte.toNat_lt
  simp only [decimalDigits, List.mem_cons, List.not_mem_nil, or_false] at member
  rcases member with rfl | rfl | rfl <;>
    simp only [UInt8.toNat_div, UInt8.toNat_mod, UInt8.reduceToNat] <;> omega

theorem sum_decimalDigits (byte : UInt8) :
    100 * (byte / 100).toNat + 10 * (byte / 10 % 10).toNat + (byte % 10).toNat = byte.toNat := by
  simp only [UInt8.toNat_div, UInt8.toNat_mod, UInt8.reduceToNat]
  omega

/-- The digits of a byte lie at the index and behind it, and nothing else changes. -/
theorem digits_storeDecimal (whole : machine.memory.size = 0x1000) (x : Register) :
    let after := machine.effect (.storeDecimal x)
    let digit (offset : Nat) := (after.memory.byteAt (Layout.wrap (machine.index + offset))).toNat
    (∀ offset < 3, digit offset ≤ 9) ∧
      100 * digit 0 + 10 * digit 1 + digit 2 = (machine.registers.get x).toNat ∧
      machine.memory.ChangedWithin after.memory machine.index 3 := by
  intro after digit
  have short : (decimalDigits (machine.registers.get x)).length ≤ 0x1000 := by
    rw [length_decimalDigits]
    decide
  have lies {offset : Nat} (inside : offset < (decimalDigits (machine.registers.get x)).length) :
      digit offset = (decimalDigits (machine.registers.get x))[offset].toNat :=
    congrArg UInt8.toNat (Memory.byteAt_store_inside whole short inside)
  refine ⟨?_, ?_, Memory.changedWithin_store whole machine.index _⟩
  · intro offset inside
    rw [lies inside]
    exact le_nine_of_mem_decimalDigits (List.getElem_mem inside)
  · rw [lies (Nat.zero_lt_succ 2), lies (Nat.one_lt_succ_succ 1), lies (Nat.lt_succ_self 2)]
    exact sum_decimalDigits _

/-- Registers are stored from the index on and loaded from there, however the addresses wrap
around, and a byte's decimal digits are stored there. Nothing else changes. What was stored is
loaded again, and storing what was loaded leaves the memory as it was. -/
theorem register_blocks (valid : machine.Valid) (x : Register) :
    (∃ stored, machine.Performs (.storeRegisters x) stored ∧
      stored = machine.withMemory stored.memory ∧
      (∀ y ≤ x, stored.memory.byteAt (Layout.wrap (machine.index + y.val)) =
        machine.registers.get y) ∧
      machine.memory.ChangedWithin stored.memory machine.index (x.val + 1) ∧
      ∀ between : Machine, between.Valid → between.memory = stored.memory →
        between.index = machine.index →
        ∃ loaded, between.Performs (.loadRegisters x) loaded ∧
          ∀ y ≤ x, loaded.registers.get y = machine.registers.get y) ∧
    (∃ loaded, machine.Performs (.loadRegisters x) loaded ∧
      loaded = { machine with registers := loaded.registers } ∧
      (∀ y ≤ x, loaded.registers.get y =
        machine.memory.byteAt (Layout.wrap (machine.index + y.val))) ∧
      (∀ y, x < y → loaded.registers.get y = machine.registers.get y) ∧
      ∀ between : Machine, between.Valid → between.registers = loaded.registers →
        between.memory = machine.memory → between.index = machine.index →
        ∃ stored, between.Performs (.storeRegisters x) stored ∧
          stored.memory = machine.memory) ∧
    ∃ stored, machine.Performs (.storeDecimal x) stored ∧
      stored = machine.withMemory stored.memory ∧
      let digit (offset : Nat) :=
        (stored.memory.byteAt (Layout.wrap (machine.index + offset))).toNat
      (∀ offset < 3, digit offset ≤ 9) ∧
        100 * digit 0 + 10 * digit 1 + digit 2 = (machine.registers.get x).toNat ∧
        machine.memory.ChangedWithin stored.memory machine.index 3 := by
  have whole := valid.memory
  refine ⟨⟨_, valid.performs trivial, rfl, ?_, ?_, ?_⟩, ⟨_, valid.performs trivial, rfl, ?_, ?_, ?_⟩,
    ⟨_, valid.performs trivial, rfl, digits_storeDecimal whole x⟩⟩
  · intro y upTo
    exact byteAt_storeRegisters whole upTo
  · exact changedWithin_storeRegisters whole x
  · intro between validBetween kept same
    refine ⟨_, validBetween.performs trivial, ?_⟩
    intro y upTo
    exact get_loadRegisters_stored whole kept same upTo
  · intro y upTo
    exact get_loadRegisters upTo
  · intro y above
    exact get_loadRegisters_of_lt above
  · intro between validBetween loaded kept same
    refine ⟨_, validBetween.performs trivial, ?_⟩
    exact memory_storeRegisters_loaded whole loaded kept same

/-- A machine about to store six registers across the end of memory and to load them again. -/
def edgeKeeper : Machine :=
  { unpowered {} false {} with
    memory := (Memory.zeros Layout.memorySize).place 0x200 [0xf5, 0x55, 0xf5, 0x65]
    registers := Registers.write (Vector.replicate 16 0x7b) ⟨4, by decide⟩ 0xfe
    index := 0xffe
    pc := 0x200 }

theorem valid_edgeKeeper : edgeKeeper.Valid :=
  { valid_unpowered {} false {} with
    memory := by rw [edgeKeeper, Memory.size_place, Memory.size_zeros]; rfl
    index := by decide
    pc := by decide }

/-- The same machine once it has stored them, with its registers cleared. -/
def edgeCleared : Machine :=
  { edgeKeeper.cycle.machine with registers := Vector.replicate 16 0 }

theorem register_blocks_edgeKeeper :
    edgeKeeper.Valid ∧ edgeKeeper.nextWord = 0xf555 ∧ edgeCleared.memory.byteAt 2 = 0xfe ∧
      edgeCleared.memory.byteAt 4 = 0 ∧ edgeCleared.nextWord = 0xf565 ∧
      edgeCleared.cycle.machine.registers.get 4 = 0xfe := by
  obtain ⟨word, next, blank⟩ : edgeKeeper.nextWord = Instruction.encode (.storeRegisters 5) ∧
      edgeCleared.nextWord = Instruction.encode (.loadRegisters 5) ∧
      edgeKeeper.memory.byteAt 4 = 0 := by
    decide +kernel
  obtain ⟨⟨stored, stores, rest, held, changed, restores⟩, -, -⟩ :=
    register_blocks valid_edgeKeeper 5
  have left : edgeCleared.memory = stored.memory := by
    rw [edgeCleared, (stores.cycled word).2]
  have index : edgeCleared.index = edgeKeeper.index := by
    rw [edgeCleared, (stores.cycled word).2, rest]
    rfl
  have valid : edgeCleared.Valid := valid_edgeKeeper.cycle.withRegisters _
  obtain ⟨loaded, loads, restored⟩ := restores edgeCleared valid left index
  refine ⟨valid_edgeKeeper, word, ?_, ?_, next, ?_⟩
  · rw [left]
    exact held 4 (by decide)
  · rw [left, ← blank]
    exact changed.outside 4 (by decide) (by decide)
  · rw [(loads.cycled next).2]
    exact restored 4 (by decide)

end Machine

end Chip8
