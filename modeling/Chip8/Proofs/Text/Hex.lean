import Chip8.Proofs.Text.Fields
import Chip8.Text.Hex
import Mathlib.Algebra.Order.Group.Nat
import Mathlib.Algebra.Order.Monoid.Unbundled.Pow

/-! # Reading hexadecimal text

The digits of a number read back as the number, however many zeros stand before them. A number
that has room in its field fills it exactly, so that fields that follow each other are told apart
by their widths.
-/

namespace Chip8

namespace Hex

/-- The number that digits are read as, most significant first. -/
def number (text : List Char) : Nat :=
  text.foldl (fun total c => total * 16 + (value? c).getD 0) 0

theorem value?_digit {n : Nat} (small : n < 16) : value? (digit n) = some n := by
  have all : ∀ n : Fin 16, value? (digit n.val) = some n.val := by decide
  exact all ⟨n, small⟩

theorem number_digits (n : Nat) : number (digits n) = n := by
  induction n using digits.induct with
  | case1 n small =>
    rw [digits, if_pos small, number, List.foldl_cons, List.foldl_nil, value?_digit small]
    exact Nat.zero_add n
  | case2 n large ih =>
    rw [number] at ih ⊢
    rw [digits, if_neg large, List.foldl_append, ih, List.foldl_cons, List.foldl_nil,
      value?_digit (Nat.mod_lt n (by decide)), Option.getD_some]
    omega

theorem number_filled (width n : Nat) : number (filled width n) = n := by
  have zeros : ∀ count, number (List.replicate count '0' ++ digits n) = n := by
    intro count
    induction count with
    | zero => exact number_digits n
    | succ count ih => exact ih
  exact zeros _

theorem filled_injective {width n m : Nat} (same : filled width n = filled width m) : n = m := by
  rw [← number_filled width n, same, number_filled]

/-- A number below a power of sixteen has no more digits than the power says. -/
theorem length_digits_le {n width : Nat} (positive : 0 < width) (small : n < 16 ^ width) :
    (digits n).length ≤ width := by
  induction n using digits.induct generalizing width with
  | case1 n least =>
    rw [digits, if_pos least]
    exact positive
  | case2 n large ih =>
    obtain ⟨rest, rfl⟩ := Nat.exists_eq_succ_of_ne_zero positive.ne'
    rw [pow_succ] at small
    have some : 0 < rest := by
      rw [Nat.pos_iff_ne_zero]
      rintro rfl
      exact large (by simpa using small)
    have fewer := ih some (Nat.div_lt_of_lt_mul (by rwa [Nat.mul_comm]))
    rw [digits, if_neg large, List.length_append, List.length_singleton]
    exact Nat.succ_le_succ fewer

theorem length_filled {n width : Nat} (positive : 0 < width) (small : n < 16 ^ width) :
    (filled width n).length = width := by
  rw [filled, List.length_append, List.length_replicate]
  exact Nat.sub_add_cancel (length_digits_le positive small)

/-- A number is written with digits only. -/
theorem isSome_value?_of_mem {c : Char} {width n : Nat} (member : c ∈ filled width n) :
    (value? c).isSome = true := by
  have digit : ∀ n, ∀ c ∈ digits n, (value? c).isSome = true := by
    intro n
    induction n using digits.induct with
    | case1 n small =>
      rw [digits, if_pos small]
      exact List.forall_mem_singleton.mpr (by rw [value?_digit small]; rfl)
    | case2 n large ih =>
      rw [digits, if_neg large, List.forall_mem_append]
      refine ⟨ih, List.forall_mem_singleton.mpr ?_⟩
      rw [value?_digit (Nat.mod_lt n (by decide))]
      rfl
  rw [filled, List.mem_append] at member
  rcases member with zero | other
  · rw [List.eq_of_mem_replicate zero]
    rfl
  · exact digit n c other

theorem toList_padded {value : Int} (least : 0 ≤ value) (width : Nat) :
    (padded width value).toList = filled width value.natAbs := by
  rw [padded, if_neg (Int.not_lt.mpr least), String.toList_ofList]

end Hex

end Chip8
