import Chip8.Layout
import Chip8.Memory

/-! # The bytes of a memory by location

Inside its bounds a memory is a function from locations to bytes, and reading and writing there
never fail. Runs of bytes at addresses wrap around at the end of the address space.
-/

namespace Chip8

namespace Memory

variable {memory : Memory} {location other : Int}

/-- The byte at a location, zero where there is none. -/
def byteAt (memory : Memory) (location : Int) : UInt8 := memory.bytes.getD location.toNat 0

/-- Reading inside the bounds succeeds. -/
theorem read_eq (least : 0 ≤ location) (most : location < memory.size) :
    memory.read location = .ok (memory.byteAt location) := by
  have inside : location.toNat < memory.bytes.size := by
    simp only [size] at most
    omega
  simp only [read, position, if_neg (Int.not_lt.mpr least), Array.getElem?_eq_getElem inside,
    byteAt, Array.getD, inside, ↓reduceDIte, Array.getInternal_eq_getElem]

/-- Only locations outside the bounds are refused. -/
theorem check_eq (least : 0 ≤ location) (most : location < memory.size) :
    memory.check location = .ok () := by
  have inside : ¬ (memory.top < location ∨ location < 0) := by
    simp only [top]
    omega
  rw [check, if_neg inside]

theorem byteAt_put (least : 0 ≤ location) (most : location < memory.size) (byte : UInt8)
    (known : 0 ≤ other) :
    (memory.put location byte).byteAt other =
      if other = location then byte else memory.byteAt other := by
  have inside : location.toNat < memory.bytes.size := by
    simp only [size] at most
    omega
  simp only [put, byteAt, Array.getD_eq_getD_getElem?, Array.getElem?_setIfInBounds]
  by_cases same : other = location
  · simp [same, inside]
  · have apart : location.toNat ≠ other.toNat := by omega
    simp [same, apart]

/-- A byte of a memory is zero or one of those that it holds. -/
theorem byteAt_mem_or_zero (memory : Memory) (location : Int) :
    memory.byteAt location ∈ memory.bytes ∨ memory.byteAt location = 0 := by
  simp only [byteAt, Array.getD]
  split
  · left
    exact Array.getElem_mem _
  · exact .inr rfl

/-- A memory is known by its size and its bytes. -/
theorem eq_of_byteAt {first second : Memory} (sizes : first.size = second.size)
    (same : ∀ location, 0 ≤ location → first.byteAt location = second.byteAt location) :
    first = second := by
  obtain ⟨bytes⟩ := first
  obtain ⟨others⟩ := second
  congr 1
  refine Array.ext sizes fun position inside otherInside => ?_
  have bytesAgree := same position (Int.natCast_nonneg position)
  simpa [byteAt, inside, otherInside] using bytesAgree

theorem mem_put {byte cell : UInt8} (member : cell ∈ (memory.put location byte).bytes) :
    cell ∈ memory.bytes ∨ cell = byte :=
  Array.mem_or_eq_of_mem_setIfInBounds member

/-! ### Runs of bytes that wrap around -/

theorem wrap_lt_size (whole : memory.size = 0x1000) (address : Int) :
    Layout.wrap address < memory.size := by
  rw [whole]
  exact Layout.wrap_lt address

/-- So many bytes from an address on. -/
def span (memory : Memory) (address : Int) : Nat → List UInt8
  | 0 => []
  | count + 1 => memory.byteAt (Layout.wrap address) :: memory.span (address + 1) count

/-- The memory with bytes stored one by one from an address on. -/
def store (memory : Memory) (address : Int) : List UInt8 → Memory
  | [] => memory
  | byte :: rest => (memory.put (Layout.wrap address) byte).store (address + 1) rest

@[simp] theorem size_store (memory : Memory) (address : Int) (bytes : List UInt8) :
    (memory.store address bytes).size = memory.size := by
  induction bytes generalizing memory address with
  | nil => rfl
  | cons byte rest ih => rw [store, ih, size_put]

@[simp] theorem length_span (memory : Memory) (address : Int) (count : Nat) :
    (memory.span address count).length = count := by
  induction count generalizing address with
  | zero => rfl
  | succ count ih => rw [span, List.length_cons, ih]

@[simp] theorem getElem_span (memory : Memory) (address : Int) {count offset : Nat}
    (inside : offset < (memory.span address count).length) :
    (memory.span address count)[offset] = memory.byteAt (Layout.wrap (address + offset)) := by
  induction count generalizing address offset with
  | zero => cases inside
  | succ count ih =>
    cases offset with
    | zero => exact congrArg (fun first => memory.byteAt (Layout.wrap first)) (Int.add_zero _).symm
    | succ offset =>
      simp only [span, List.getElem_cons_succ]
      rw [ih, Int.natCast_succ, Int.add_comm offset 1, Int.add_assoc]

/-- The addresses of a run wrap around one by one. -/
theorem span_eq_map (memory : Memory) (address : Int) (count : Nat) :
    memory.span address count =
      (List.range count).map fun (offset : Nat) =>
        memory.byteAt (Layout.wrap (address + offset)) := by
  apply List.ext_getElem
  · simp
  · intro offset _ _
    simp

theorem take_span (memory : Memory) (address : Int) {first count : Nat} (short : first ≤ count) :
    (memory.span address count).take first = memory.span address first := by
  apply List.ext_getElem
  · simp [Nat.min_eq_left short]
  · intro offset _ _
    simp

theorem drop_span (memory : Memory) (address : Int) (skipped count : Nat) :
    (memory.span address count).drop skipped =
      memory.span (address + skipped) (count - skipped) := by
  apply List.ext_getElem
  · simp
  · intro offset _ _
    simp [Int.add_assoc]

/-- Storing bytes changes none outside the window of wrapped addresses that they are stored at. -/
theorem byteAt_store_of_outside (whole : memory.size = 0x1000) {address : Int} {bytes : List UInt8}
    (known : 0 ≤ location)
    (outside : ∀ offset < bytes.length, Layout.wrap (address + offset) ≠ location) :
    (memory.store address bytes).byteAt location = memory.byteAt location := by
  induction bytes generalizing memory address with
  | nil => rfl
  | cons byte rest ih =>
    have most := wrap_lt_size whole address
    have apart : location ≠ Layout.wrap address := by
      have first := outside 0 (Nat.zero_lt_succ _)
      rw [Int.natCast_zero, Int.add_zero] at first
      exact first.symm
    have later : ∀ offset < rest.length, Layout.wrap (address + 1 + offset) ≠ location := by
      intro offset inside
      have next := outside (offset + 1) (Nat.succ_lt_succ inside)
      rwa [Int.natCast_succ, Int.add_comm offset 1, ← Int.add_assoc] at next
    rw [store, ih ((memory.size_put _ _).trans whole) later,
      byteAt_put (Layout.wrap_nonneg address) most byte known, if_neg apart]

/-- Each of the bytes stored is found at its own address, for none of the later ones reaches it. -/
theorem byteAt_store_inside (whole : memory.size = 0x1000) {address : Int} {bytes : List UInt8}
    (short : bytes.length ≤ 0x1000) {offset : Nat} (inside : offset < bytes.length) :
    (memory.store address bytes).byteAt (Layout.wrap (address + offset)) = bytes[offset] := by
  induction bytes generalizing memory address offset with
  | nil => cases inside
  | cons byte rest ih =>
    have put : (memory.put (Layout.wrap address) byte).size = 0x1000 :=
      (memory.size_put _ _).trans whole
    rw [List.length_cons] at short inside
    rw [store]
    cases offset with
    | zero =>
      -- The run is too short to come round to its own start.
      have behind : ∀ later < rest.length, Layout.wrap (address + 1 + later) ≠ Layout.wrap address := by
        intro later known
        simp only [Layout.wrap]
        omega
      have most := wrap_lt_size whole address
      rw [Int.natCast_zero, Int.add_zero,
        byteAt_store_of_outside put (Layout.wrap_nonneg address) behind,
        byteAt_put (Layout.wrap_nonneg address) most byte (Layout.wrap_nonneg address), if_pos rfl]
      rfl
    | succ offset =>
      rw [Int.natCast_succ, Int.add_comm offset 1, ← Int.add_assoc]
      exact ih put (by omega) (Nat.lt_of_succ_lt_succ inside)

/-- A byte that is put where it lies already changes nothing. -/
theorem put_byteAt (least : 0 ≤ location) (most : location < memory.size) :
    memory.put location (memory.byteAt location) = memory := by
  apply eq_of_byteAt (size_put memory _ _)
  intro other known
  rw [byteAt_put least most _ known]
  split
  · next same => rw [same]
  · rfl

/-- A run of bytes that is stored where it was read changes nothing. -/
theorem store_span (whole : memory.size = 0x1000) (address : Int) (count : Nat) :
    memory.store address (memory.span address count) = memory := by
  induction count generalizing address with
  | zero => rfl
  | succ count ih =>
    have most := wrap_lt_size whole address
    rw [span, store, put_byteAt (Layout.wrap_nonneg address) most]
    exact ih (address + 1)

/-! ### Blocks -/

/-- The memory with a block of bytes at a location. -/
def place (memory : Memory) (location : Int) (block : List UInt8) : Memory :=
  ⟨overwrite memory.bytes location.toNat block⟩

@[simp] theorem size_place (memory : Memory) (location : Int) (block : List UInt8) :
    (memory.place location block).size = memory.size :=
  size_overwrite _ _ _

theorem place_cons (memory : Memory) (least : 0 ≤ location) (byte : UInt8) (rest : List UInt8) :
    memory.place location (byte :: rest) =
      (memory.put location byte).place (location + 1) rest := by
  have next : (location + 1).toNat = location.toNat + 1 := by omega
  rw [place, place, next]
  rfl

theorem byteAt_place_of_outside {block : List UInt8} (least : 0 ≤ location)
    (most : location + block.length ≤ memory.size) (known : 0 ≤ other)
    (outside : other < location ∨ location + block.length ≤ other) :
    (memory.place location block).byteAt other = memory.byteAt other := by
  induction block generalizing memory location with
  | nil => rfl
  | cons byte rest ih =>
    rw [List.length_cons] at most outside
    rw [place_cons memory least, ih (by omega) (by rw [size_put]; omega) (by omega),
      byteAt_put least (by omega) byte known, if_neg (by omega)]

theorem byteAt_place_inside {block : List UInt8} (least : 0 ≤ location)
    (most : location + block.length ≤ memory.size) {offset : Nat} (inside : offset < block.length) :
    (memory.place location block).byteAt (location + offset) = block[offset] := by
  induction block generalizing memory location offset with
  | nil => cases inside
  | cons byte rest ih =>
    rw [List.length_cons] at most
    have room : location + 1 + rest.length ≤ (memory.put location byte).size := by
      rw [size_put]
      omega
    rw [place_cons memory least]
    cases offset with
    | zero =>
      rw [byteAt_place_of_outside (by omega) room (by omega) (by omega),
        byteAt_put least (by omega) byte (by omega), if_pos (by omega)]
      rfl
    | succ offset =>
      rw [Int.natCast_succ, Int.add_comm offset 1, ← Int.add_assoc]
      exact ih (by omega) room (Nat.lt_of_succ_lt_succ inside)

theorem bound_eq (least : 0 ≤ location) (most : location ≤ memory.size) :
    memory.bound location = location.toNat := by
  simp only [bound, position, if_neg (Int.not_lt.mpr least)]
  omega

/-- A block inside the bounds is written. -/
theorem writeBlock_eq {block : List UInt8} (least : 0 ≤ location)
    (most : location + block.length ≤ memory.size) :
    memory.writeBlock location block = .ok (memory.place location block) := by
  by_cases empty : block = []
  · subst empty
    rfl
  · have nonempty : 0 < block.length := List.length_pos_iff.mpr empty
    have inside : memory.check (location + block.length - 1) = .ok () :=
      check_eq (by omega) (by omega)
    have start : memory.bound location = location.toNat := bound_eq least (by omega)
    have stop : memory.bound (location + block.length) = (location + block.length).toNat :=
      bound_eq (by omega) most
    have room : ¬ (location + block.length).toNat - location.toNat ≠ block.length := by omega
    simp only [writeBlock, if_neg empty, inside, start, stop, if_neg room]
    rfl

end Memory

end Chip8
