import Mathlib.Data.List.Basic

/-! # Fields of one width

Items that are written in fields of one width, one after another, are found by their positions and
are told by what was written.
-/

namespace Chip8

variable {α β : Type} {field : α → List β} {width : Nat} {items others : List α}

theorem length_flatMap_field (wide : ∀ item ∈ items, (field item).length = width) :
    (items.flatMap field).length = items.length * width := by
  rw [List.length_flatMap, List.map_congr_left wide, List.map_const', List.sum_replicate_nat]

/-- Fields of one width tell what they were made from. -/
theorem eq_of_flatMap_eq (positive : 0 < width)
    (wide : ∀ item ∈ items, (field item).length = width)
    (wideToo : ∀ item ∈ others, (field item).length = width)
    (injective : ∀ item ∈ items, ∀ other ∈ others, field item = field other → item = other)
    (same : items.flatMap field = others.flatMap field) : items = others := by
  induction items generalizing others with
  | nil =>
    have lengths := length_flatMap_field wideToo
    rw [← same, List.flatMap_nil, List.length_nil, eq_comm, Nat.mul_eq_zero] at lengths
    exact (List.eq_nil_of_length_eq_zero (lengths.resolve_right (Nat.ne_of_gt positive))).symm
  | cons item rest ih =>
    cases others with
    | nil =>
      have lengths := length_flatMap_field wide
      rw [same, List.flatMap_nil, List.length_nil, eq_comm, Nat.mul_eq_zero] at lengths
      exact absurd (lengths.resolve_right (Nat.ne_of_gt positive)) (Nat.succ_ne_zero _)
    | cons other more =>
      obtain ⟨first, later⟩ := List.forall_mem_cons.mp wide
      obtain ⟨firstToo, laterToo⟩ := List.forall_mem_cons.mp wideToo
      rw [List.flatMap_cons, List.flatMap_cons] at same
      obtain ⟨heads, tails⟩ := List.append_inj same (first.trans firstToo.symm)
      have head := injective item List.mem_cons_self other List.mem_cons_self heads
      have tail := ih later laterToo
        (fun item member other memberToo =>
          injective item (List.mem_cons_of_mem _ member) other (List.mem_cons_of_mem _ memberToo))
        tails
      rw [head, tail]

/-- The field of an item starts as many widths on as there are items before it. -/
theorem field_at (wide : ∀ item ∈ items, (field item).length = width) {position : Nat}
    (inside : position < items.length) :
    ((items.flatMap field).drop (position * width)).take width = field items[position] := by
  induction items generalizing position with
  | nil => exact absurd inside (Nat.not_lt_zero position)
  | cons item rest ih =>
    obtain ⟨first, later⟩ := List.forall_mem_cons.mp wide
    rw [List.flatMap_cons]
    cases position with
    | zero =>
      rw [Nat.zero_mul, List.drop_zero, ← first, List.take_left]
      rfl
    | succ position =>
      rw [Nat.succ_mul, Nat.add_comm, ← List.drop_drop, ← first, List.drop_left, first]
      exact ih later (Nat.lt_of_succ_lt_succ inside)

end Chip8
