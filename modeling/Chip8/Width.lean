/-! # Widths of integers

Integers have any size, but the host system takes character codes and file numbers of 32 bits, and
counts bytes and cells in 64 bits, all with a sign.
-/

namespace Chip8.Width

def fits32 (value : Int) : Bool := -0x80000000 ≤ value && value ≤ 0x7fffffff

def fits64 (value : Int) : Bool := -0x8000000000000000 ≤ value && value ≤ 0x7fffffffffffffff

theorem fits32_iff {value : Int} :
    fits32 value = true ↔ -0x80000000 ≤ value ∧ value ≤ 0x7fffffff := by
  rw [fits32, Bool.and_eq_true, decide_eq_true_iff, decide_eq_true_iff]

theorem fits64_iff {value : Int} :
    fits64 value = true ↔ -0x8000000000000000 ≤ value ∧ value ≤ 0x7fffffffffffffff := by
  rw [fits64, Bool.and_eq_true, decide_eq_true_iff, decide_eq_true_iff]

end Chip8.Width
