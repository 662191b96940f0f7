import Chip8.Proofs.Memory.Bytes
import Mathlib.Tactic.ByContra

/-! # What a memory accepts

A memory accepts a write exactly if it lies inside the bounds, and then changes nothing outside the
location or the block that it names. The end of a block is checked and its start is not, but a
block that starts below zero and ends inside is longer than what it would replace, and is refused
for that. So no sequence of writes, accepted or refused, changes the size of a memory.
-/

namespace Chip8.Memory

/-- What may be asked of a memory that changes it. -/
inductive Operation where
  | write (location value : Int)
  | writeBlock (location : Int) (block : List UInt8)
  | clear
deriving DecidableEq, Repr

/-- The memory after an operation, if it accepts the operation. -/
def attempt (memory : Memory) : Operation → Except Fault Memory
  | .write location value => memory.write location value
  | .writeBlock location block => memory.writeBlock location block
  | .clear => .ok memory.clear

/-- The memory that an operation leaves, which is the same memory if it is refused. -/
def after (memory : Memory) (operation : Operation) : Memory :=
  match memory.attempt operation with
  | .ok next => next
  | .error _ => memory

/-- The memory after operations in order. -/
def run (memory : Memory) (operations : List Operation) : Memory := operations.foldl after memory

variable {memory next : Memory} {location value : Int} {block : List UInt8}

/-! ### Single bytes -/

theorem check_eq_error (outside : ¬ (0 ≤ location ∧ location < memory.size)) :
    memory.check location = .error (.outOfBounds location memory.top) := by
  have refused : memory.top < location ∨ location < 0 := by
    simp only [top]
    omega
  rw [check, if_pos refused]

theorem check_eq_ok_iff : memory.check location = .ok () ↔ 0 ≤ location ∧ location < memory.size := by
  constructor
  · intro passed
    by_contra outside
    rw [check_eq_error outside] at passed
    cases passed
  · rintro ⟨least, most⟩
    exact check_eq least most

theorem write_eq_ok_iff :
    memory.write location value = .ok next ↔
      (0 ≤ location ∧ location < memory.size ∧ 0 ≤ value ∧ value ≤ 255) ∧
        next = memory.put location (UInt8.ofNat value.toNat) := by
  constructor
  · intro written
    simp only [write] at written
    split at written
    · cases written
    · next passed =>
      obtain ⟨least, most⟩ := check_eq_ok_iff.mp passed
      split at written
      · cases written
      · cases written
        exact ⟨⟨least, most, by omega, by omega⟩, rfl⟩
  · rintro ⟨⟨least, most, valueLeast, valueMost⟩, rfl⟩
    have inRange : ¬ (value < 0 ∨ 255 < value) := by omega
    rw [write, check_eq least most]
    exact if_neg inRange

/-! ### Blocks -/

theorem bound_le (least : 0 ≤ location) : memory.bound location ≤ location.toNat := by
  rw [bound, position, if_neg (Int.not_lt.mpr least)]
  exact Nat.min_le_left _ _

/-- A block that starts below zero has more bytes than the memory has up to the end of the block. -/
theorem room_lt_of_neg (below : location < 0) (least : 0 ≤ location + block.length) :
    memory.bound (location + block.length) - memory.bound location < block.length := by
  have stop : memory.bound (location + block.length) ≤ (location + block.length).toNat :=
    bound_le least
  omega

theorem fits_of_writeBlock (written : memory.writeBlock location block = .ok next)
    (nonempty : block ≠ []) : 0 ≤ location ∧ location + block.length ≤ memory.size := by
  simp only [writeBlock, if_neg nonempty] at written
  split at written
  · cases written
  · next passed =>
    obtain ⟨least, most⟩ := check_eq_ok_iff.mp passed
    refine ⟨?_, by omega⟩
    by_contra below
    have short := @room_lt_of_neg memory location block (by omega) (by omega)
    rw [if_pos (Nat.ne_of_lt short)] at written
    cases written

theorem writeBlock_eq_ok_iff :
    memory.writeBlock location block = .ok next ↔
      (block = [] ∨ 0 ≤ location ∧ location + block.length ≤ memory.size) ∧
        next = memory.place location block := by
  constructor
  · intro written
    by_cases empty : block = []
    · subst empty
      cases written
      exact ⟨.inl rfl, rfl⟩
    · obtain ⟨least, most⟩ := fits_of_writeBlock written empty
      rw [writeBlock_eq least most] at written
      cases written
      exact ⟨.inr ⟨least, most⟩, rfl⟩
  · rintro ⟨rfl | ⟨least, most⟩, rfl⟩
    · rfl
    · exact writeBlock_eq least most

/-! ### Sequences -/

theorem size_attempt {operation : Operation} (accepted : memory.attempt operation = .ok next) :
    next.size = memory.size := by
  cases operation with
  | write location value => exact size_of_write accepted
  | writeBlock location block => exact size_of_writeBlock accepted
  | clear =>
    cases accepted
    exact size_clear memory

theorem after_of_error {operation : Operation} {fault : Fault}
    (refused : memory.attempt operation = .error fault) : memory.after operation = memory := by
  rw [after, refused]

@[simp] theorem size_after (memory : Memory) (operation : Operation) :
    (memory.after operation).size = memory.size := by
  rw [after]
  split
  · next accepted => exact size_attempt accepted
  · rfl

@[simp] theorem size_run (memory : Memory) (operations : List Operation) :
    (memory.run operations).size = memory.size := by
  induction operations generalizing memory with
  | nil => rfl
  | cons operation rest ih => exact (ih (memory.after operation)).trans (memory.size_after operation)

/-! ### A memory as an array of bytes -/

theorem byteAt_zeros (size : Nat) (location : Int) : (zeros size).byteAt location = 0 := by
  rcases byteAt_mem_or_zero (zeros size) location with held | zero
  · exact Array.eq_of_mem_replicate held
  · exact zero

theorem ofSize_eq {size : Nat} {room : Int} (fits : Extent.Fits room size) :
    ofSize size room = .ok (zeros size) := by
  have nonneg : ¬ (size : Int) < 0 := by omega
  rw [ofSize, Extent.check_ok_iff.mpr fits]
  exact if_neg nonneg

/-- A byte that is accepted is found at its location, and no other byte changes. -/
theorem changed_of_write (written : memory.write location value = .ok next) :
    next.size = memory.size ∧ (next.byteAt location).toNat = value ∧
      ∀ other, 0 ≤ other → other ≠ location → next.byteAt other = memory.byteAt other := by
  obtain ⟨⟨least, most, valueLeast, valueMost⟩, rfl⟩ := write_eq_ok_iff.mp written
  refine ⟨size_put memory _ _, ?_, ?_⟩
  · rw [byteAt_put least most _ least, if_pos rfl, UInt8.toNat_ofNat']
    omega
  · intro other known apart
    rw [byteAt_put least most _ known, if_neg apart]

/-- A block that is accepted is found in order from its location on, and no other byte changes. -/
theorem changed_of_writeBlock (written : memory.writeBlock location block = .ok next) :
    next.size = memory.size ∧
      (∀ offset (inside : offset < block.length),
        next.byteAt (location + offset) = block[offset]) ∧
      ∀ other, 0 ≤ other → other < location ∨ location + block.length ≤ other →
        next.byteAt other = memory.byteAt other := by
  obtain ⟨rfl | ⟨least, most⟩, rfl⟩ := writeBlock_eq_ok_iff.mp written
  · exact ⟨rfl, nofun, fun _ _ _ => rfl⟩
  · refine ⟨size_place memory _ _, ?_, ?_⟩
    · intro offset inside
      exact byteAt_place_inside least most inside
    · intro other known outside
      exact byteAt_place_of_outside least most known outside

/-- Wherever there is room for a memory of some size, it is made of zeros. Whatever was written to
it before, it is an array of that many bytes. It accepts a byte inside its bounds, and a block
inside its bounds, and nothing else but an empty block; it changes nothing but what it accepts, and
nothing at all where it refuses. -/
theorem bounded_bytes (size : Nat) (operations : List Operation) :
    let memory := (zeros size).run operations
    (∀ room, Extent.Fits room size → ofSize size room = .ok (zeros size)) ∧
    memory.size = size ∧
    (∀ location : Int, 0 ≤ location → location < size →
      memory.read location = .ok (memory.byteAt location)) ∧
    (∀ operation fault, memory.attempt operation = .error fault →
      memory.after operation = memory) ∧
    (∀ location value : Int,
      ((∃ next, memory.write location value = .ok next) ↔
        0 ≤ location ∧ location < size ∧ 0 ≤ value ∧ value ≤ 255) ∧
      ∀ next, memory.write location value = .ok next →
        next.size = size ∧ (next.byteAt location).toNat = value ∧
          ∀ other, 0 ≤ other → other ≠ location → next.byteAt other = memory.byteAt other) ∧
    (∀ (location : Int) (block : List UInt8),
      ((∃ next, memory.writeBlock location block = .ok next) ↔
        block = [] ∨ 0 ≤ location ∧ location + block.length ≤ size) ∧
      ∀ next, memory.writeBlock location block = .ok next →
        next.size = size ∧
          (∀ offset (inside : offset < block.length),
            next.byteAt (location + offset) = block[offset]) ∧
          ∀ other, 0 ≤ other → other < location ∨ location + block.length ≤ other →
            next.byteAt other = memory.byteAt other) ∧
    memory.clear.size = size ∧ ∀ location, memory.clear.byteAt location = 0 := by
  intro memory
  have whole : memory.size = size := (size_run _ _).trans (size_zeros size)
  refine ⟨fun room => ofSize_eq, whole, ?_, ?_, ?_, ?_, (size_clear memory).trans whole,
    byteAt_zeros _⟩
  · intro location least most
    rw [← whole] at most
    exact read_eq least most
  · intro operation fault refused
    exact after_of_error refused
  · intro location value
    rw [← whole]
    constructor
    · simp only [write_eq_ok_iff, exists_and_left, exists_eq, and_true]
    · intro next written
      exact changed_of_write written
  · intro location block
    rw [← whole]
    constructor
    · simp only [writeBlock_eq_ok_iff, exists_and_left, exists_eq, and_true]
    · intro next written
      exact changed_of_writeBlock written

/-! ### Blocks outside the bounds -/

theorem writeBlock_eq_outOfBounds (nonempty : block ≠ [])
    (outside : ¬ (0 ≤ location + block.length - 1 ∧ location + block.length - 1 < memory.size)) :
    memory.writeBlock location block =
      .error (.outOfBounds (location + block.length - 1) memory.top) := by
  simp only [writeBlock, if_neg nonempty, check_eq_error outside]

/-- The start of a block is not checked, but its length is. -/
theorem writeBlock_eq_lengthMismatch (below : location < 0)
    (least : 0 ≤ location + block.length - 1)
    (most : location + block.length - 1 < memory.size) :
    ∃ room < block.length,
      memory.writeBlock location block = .error (.lengthMismatch block.length room) := by
  have nonempty : block ≠ [] := by
    rintro rfl
    rw [List.length_nil] at least
    omega
  have short := @room_lt_of_neg memory location block below (by omega)
  refine ⟨_, short, ?_⟩
  simp only [writeBlock, if_neg nonempty, check_eq least most, if_pos (Nat.ne_of_lt short)]

/-- A block that does not lie inside the bounds is refused and leaves the memory as it was. It is
refused for its bounds if and only if it ends outside. If it starts below zero and ends inside, it
is refused for its length, being longer than what it would replace. -/
theorem blocks_outside_refused (nonempty : block ≠ [])
    (outside : ¬ (0 ≤ location ∧ location + block.length ≤ memory.size)) :
    let last := location + block.length - 1
    ∃ fault, memory.writeBlock location block = .error fault ∧
      memory.after (.writeBlock location block) = memory ∧
      (fault = .outOfBounds last memory.top ↔ ¬ (0 ≤ last ∧ last < memory.size)) ∧
      ((∃ room < block.length, fault = .lengthMismatch block.length room) ↔
        0 ≤ last ∧ last < memory.size) := by
  intro last
  by_cases inside : 0 ≤ last ∧ last < memory.size
  · have below : location < 0 := by omega
    obtain ⟨room, short, refused⟩ := writeBlock_eq_lengthMismatch below inside.1 inside.2
    refine ⟨_, refused, after_of_error refused, ?_, ?_⟩
    · exact iff_of_false nofun (not_not_intro inside)
    · exact iff_of_true ⟨room, short, rfl⟩ inside
  · have refused := writeBlock_eq_outOfBounds nonempty inside
    refine ⟨_, refused, after_of_error refused, ?_, ?_⟩
    · exact iff_of_true rfl inside
    · exact iff_of_false nofun inside

theorem blocks_outside_refused_fiveBytes :
    let memory := zeros 5
    (¬ (0 ≤ (-1 : Int) ∧ -1 + 2 ≤ (memory.size : Int)) ∧
      ∃ room < 2, memory.writeBlock (-1) [0xfe, 0xff] = .error (.lengthMismatch 2 room)) ∧
    ¬ (0 ≤ (4 : Int) ∧ 4 + 2 ≤ (memory.size : Int)) ∧
      memory.writeBlock 4 [0xfe, 0xff] = .error (.outOfBounds 5 4) := by
  intro memory
  have below : ¬ (0 ≤ (-1 : Int) ∧ -1 + 2 ≤ (memory.size : Int)) := by decide
  have above : ¬ (0 ≤ (4 : Int) ∧ 4 + 2 ≤ (memory.size : Int)) := by decide
  obtain ⟨early, refusedEarly, -, -, forLength⟩ :=
    @blocks_outside_refused memory (-1) [0xfe, 0xff] (by decide) below
  obtain ⟨late, refusedLate, -, forBounds, -⟩ :=
    @blocks_outside_refused memory 4 [0xfe, 0xff] (by decide) above
  obtain ⟨room, short, rfl⟩ := forLength.mpr (by decide)
  obtain rfl := forBounds.mpr (by decide)
  exact ⟨⟨below, room, short, refusedEarly⟩, above, refusedLate⟩

/-- A block that starts below zero is not always refused for its bounds. -/
theorem blockBelowZero_not_outOfBounds :
    ¬ ∀ (size : Nat) (location : Int) (block : List UInt8), block ≠ [] →
      ¬ (0 ≤ location ∧ location + block.length ≤ size) →
      ∃ refused top, (zeros size).writeBlock location block =
        .error (.outOfBounds refused top) := by
  intro always
  have refusedForLength :
      (zeros 5).writeBlock (-1) [0xfe, 0xff] = .error (.lengthMismatch 2 0) := rfl
  obtain ⟨location, top, refused⟩ := always 5 (-1) [0xfe, 0xff] (by decide) (by decide)
  cases refusedForLength.symm.trans refused

end Chip8.Memory
