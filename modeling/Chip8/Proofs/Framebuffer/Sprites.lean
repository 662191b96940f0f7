import Chip8.Proofs.Framebuffer.Basic
import Mathlib.Algebra.BigOperators.Intervals
import Mathlib.Data.Nat.Bitwise
import Mathlib.Data.Nat.Count

/-! # Sprites

A sprite may be larger than the picture, and then falls on some cells more than once. Drawing it
flips each cell as often as a pixel of the sprite falls on it, wherever the sprite is placed, and
tells whether one of these flips switched a cell off.
-/

namespace Chip8.Framebuffer

variable {framebuffer : Framebuffer} {a b : Int}

/-- The pixels that are set in a sprite, each with its row and its column, and fall on the cell in
column `a` and row `b`. The most significant bit of a row is on the left. -/
def landing (framebuffer : Framebuffer) (x y : Int) (rows : List UInt8) (a b : Int) :
    Finset (ℕ × ℕ) :=
  (Finset.range rows.length ×ˢ Finset.range 8).filter fun (row, column) =>
    (rows.getD row 0).toNat &&& 0x80 >>> column ≠ 0 ∧
      (x + column) % framebuffer.width = a ∧ (y + row) % framebuffer.height = b

/-! ### Cells by column and row -/

/-- The coordinates of a cell, which need not wrap around. -/
structure Inside (framebuffer : Framebuffer) (a b : Int) : Prop where
  left : 0 ≤ a
  right : a < framebuffer.width
  top : 0 ≤ b
  bottom : b < framebuffer.height

theorem WellFormed.cellIndex_eq (formed : framebuffer.WellFormed) (x y : Int) :
    framebuffer.cellIndex x y =
      y % framebuffer.height * framebuffer.width + x % framebuffer.width := by
  rw [cellIndex, Int.fmod_eq_emod_of_nonneg _ (Int.le_of_lt formed.height),
    Int.fmod_eq_emod_of_nonneg _ (Int.le_of_lt formed.width)]

theorem WellFormed.inside_emod (formed : framebuffer.WellFormed) (x y : Int) :
    framebuffer.Inside (x % framebuffer.width) (y % framebuffer.height) where
  left := Int.emod_nonneg _ (Int.ne_of_gt formed.width)
  right := Int.emod_lt_of_pos _ formed.width
  top := Int.emod_nonneg _ (Int.ne_of_gt formed.height)
  bottom := Int.emod_lt_of_pos _ formed.height

theorem Inside.place_eq (inside : framebuffer.Inside a b) (width : 0 < framebuffer.width) :
    (b * framebuffer.width + a) / framebuffer.width = b ∧
      (b * framebuffer.width + a) % framebuffer.width = a :=
  (Int.ediv_emod_unique width).mpr
    ⟨by rw [Int.add_comm, Int.mul_comm], inside.left, inside.right⟩

/-- Cells in different places have different locations. -/
theorem WellFormed.cellIndex_eq_iff (formed : framebuffer.WellFormed) (x y : Int)
    (inside : framebuffer.Inside a b) :
    framebuffer.cellIndex x y = b * framebuffer.width + a ↔
      x % framebuffer.width = a ∧ y % framebuffer.height = b := by
  rw [formed.cellIndex_eq]
  constructor
  · intro same
    obtain ⟨row, column⟩ := (formed.inside_emod x y).place_eq formed.width
    obtain ⟨otherRow, otherColumn⟩ := inside.place_eq formed.width
    rw [same] at row column
    exact ⟨column.symm.trans otherColumn, row.symm.trans otherRow⟩
  · rintro ⟨rfl, rfl⟩
    rfl

/-! ### Counting the pixels of a sprite -/

/-- The bit of a column is the one that a mask moved to the right by the column picks. -/
theorem rowBit_eq (row : UInt8) {column : ℕ} (inside : column < 8) :
    rowBit row column = decide (row.toNat &&& 0x80 >>> column ≠ 0) := by
  have masks : ∀ column < 8, 0x80 >>> column = 2 ^ (7 - column) := by decide
  rw [rowBit, masks column inside, Nat.and_two_pow]
  cases row.toNat.testBit (7 - column) <;> simp

/-- The pixels of a sprite that fall into a class, counted row by row and column by column. -/
theorem countP_spritePixels (falls : Int × Int → Bool) (x y : Int) (rows : List UInt8) :
    (spritePixels x y rows).countP falls =
      ∑ row ∈ Finset.range rows.length, ∑ column ∈ Finset.range 8,
        if rowBit (rows.getD row 0) column = true ∧ falls (x + column, y + row) = true
          then 1 else 0 := by
  induction rows generalizing y with
  | nil => rfl
  | cons first rest ih =>
    have here : ((rowColumns first).map fun (column : ℕ) => (x + (column : Int), y)).countP falls =
        ∑ column ∈ Finset.range 8,
          if rowBit first column = true ∧ falls (x + column, y) = true then 1 else 0 := by
      rw [← Finset.card_filter, ← Nat.count_eq_card_filter_range, Nat.count, List.countP_map,
        rowColumns, List.countP_filter]
      simp [spriteWidth, and_comm]
    rw [spritePixels, List.countP_append, here, ih, List.length_cons,
      Finset.sum_range_succ' _ rest.length, Nat.add_comm]
    simp only [List.getD_cons_succ, List.getD_cons_zero, Int.natCast_succ, Int.natCast_zero,
      Int.add_zero, Int.add_assoc, Int.add_comm 1]

/-- The cells of a picture are hit as often as pixels of the sprite land on them, also where the
sprite was moved onto the picture before it is drawn. -/
theorem WellFormed.hits_spritePixels (formed : framebuffer.WellFormed) (x y : Int)
    (rows : List UInt8) (inside : framebuffer.Inside a b) :
    framebuffer.hits
        (spritePixels (x.fmod framebuffer.width) (y.fmod framebuffer.height) rows)
        (b * framebuffer.width + a) = (framebuffer.landing x y rows a b).card := by
  rw [hits, countP_spritePixels, landing, Finset.card_filter, Finset.sum_product]
  refine Finset.sum_congr rfl fun row _ => Finset.sum_congr rfl fun column known => ?_
  rw [Int.fmod_eq_emod_of_nonneg _ (Int.le_of_lt formed.width),
    Int.fmod_eq_emod_of_nonneg _ (Int.le_of_lt formed.height),
    rowBit_eq _ (Finset.mem_range.mp known)]
  simp only [decide_eq_true_eq, formed.cellIndex_eq_iff _ _ inside, Int.emod_add_emod]

/-- What a pixel falls on is a cell of the picture. -/
theorem WellFormed.inside_of_hit (formed : framebuffer.WellFormed) {pixels : List (Int × Int)}
    {location : Int} (hit : 0 < framebuffer.hits pixels location) :
    ∃ a b, framebuffer.Inside a b ∧ location = b * framebuffer.width + a := by
  obtain ⟨pixel, -, rfl⟩ := hits_pos_iff.mp hit
  exact ⟨_, _, formed.inside_emod pixel.1 pixel.2, formed.cellIndex_eq pixel.1 pixel.2⟩

/-! ### Sprites that fit -/

/-- Steps that are shorter than the way around lead to different places. -/
theorem eq_of_add_emod_eq {extent start : Int} {first second : ℕ} (inside : first < extent)
    (otherInside : second < extent)
    (same : (start + first) % extent = (start + second) % extent) : first = second := by
  have agree := Int.emod_add_cancel_left.mp same
  rw [Int.emod_eq_of_lt (Int.natCast_nonneg _) inside,
    Int.emod_eq_of_lt (Int.natCast_nonneg _) otherInside] at agree
  exact Int.natCast_inj.mp agree

/-- A sprite that is no larger than the picture falls on no cell twice. -/
theorem WellFormed.hits_le_one (formed : framebuffer.WellFormed) (x y : Int) {rows : List UInt8}
    (wide : 8 ≤ framebuffer.width) (tall : rows.length ≤ framebuffer.height) (location : Int) :
    framebuffer.hits
      (spritePixels (x.fmod framebuffer.width) (y.fmod framebuffer.height) rows) location ≤ 1 := by
  refine Nat.le_of_not_lt fun twice => Nat.not_le_of_lt twice ?_
  obtain ⟨a, b, inside, rfl⟩ := formed.inside_of_hit (Nat.lt_of_succ_lt twice)
  rw [formed.hits_spritePixels x y rows inside, landing]
  refine Finset.card_le_one.mpr ?_
  rintro ⟨row, column⟩ first ⟨otherRow, otherColumn⟩ second
  simp only [Finset.mem_filter, Finset.mem_product, Finset.mem_range] at first second
  obtain ⟨⟨rowInside, columnInside⟩, -, columnPlace, rowPlace⟩ := first
  obtain ⟨⟨otherRowInside, otherColumnInside⟩, -, otherColumnPlace, otherRowPlace⟩ := second
  have sameRow : row = otherRow :=
    eq_of_add_emod_eq (by omega) (by omega) (rowPlace.trans otherRowPlace.symm)
  have sameColumn : column = otherColumn :=
    eq_of_add_emod_eq (by omega) (by omega) (columnPlace.trans otherColumnPlace.symm)
  rw [sameRow, sameColumn]

theorem rowColumns_eq_nil_iff (row : UInt8) : rowColumns row = [] ↔ row = 0 := by
  constructor
  · intro blank
    by_contra marked
    have positive : row.toNat ≠ 0 := fun zero => marked (UInt8.toNat_inj.mp zero)
    obtain ⟨bit, set⟩ := Nat.exists_testBit_of_ne_zero positive
    have inside : bit < 8 := by
      by_contra outside
      have small : row.toNat < 2 ^ bit :=
        Nat.lt_of_lt_of_le row.toNat_lt (Nat.pow_le_pow_right (by decide) (by omega))
      rw [Nat.testBit_lt_two_pow small] at set
      cases set
    have member : 7 - bit ∈ rowColumns row := by
      rw [rowColumns, List.mem_filter, List.mem_range, rowBit, Nat.sub_sub_self (by omega)]
      exact ⟨Nat.lt_succ_of_le (Nat.sub_le 7 bit), set⟩
    rw [blank] at member
    cases member
  · rintro rfl
    rfl

/-- Only a sprite without a set bit has no pixels. -/
theorem spritePixels_ne_nil_iff (x y : Int) (rows : List UInt8) :
    spritePixels x y rows ≠ [] ↔ ∃ row ∈ rows, row ≠ 0 := by
  induction rows generalizing y with
  | nil => simp [spritePixels]
  | cons first rest ih =>
    simp only [spritePixels, Ne, List.append_eq_nil_iff, List.map_eq_nil_iff,
      rowColumns_eq_nil_iff, List.mem_cons, exists_eq_or_imp, ← ih (y + 1), not_and_or]

/-! ### Drawing -/

theorem WellFormed.location_nonneg (formed : framebuffer.WellFormed)
    (inside : framebuffer.Inside a b) : 0 ≤ b * framebuffer.width + a :=
  Int.add_nonneg (Int.mul_nonneg inside.top (Int.le_of_lt formed.width)) inside.left

theorem WellFormed.ne_nil_iff (formed : framebuffer.WellFormed) (pixels : List (Int × Int)) :
    pixels ≠ [] ↔
      ∃ a b, framebuffer.Inside a b ∧
        1 ≤ framebuffer.hits pixels (b * framebuffer.width + a) := by
  constructor
  · intro drawn
    obtain ⟨pixel, member⟩ := List.exists_mem_of_ne_nil _ drawn
    have hit : 0 < framebuffer.hits pixels (framebuffer.cellIndex pixel.1 pixel.2) :=
      hits_pos_iff.mpr ⟨pixel, member, rfl⟩
    obtain ⟨a, b, inside, place⟩ := formed.inside_of_hit hit
    exact ⟨a, b, inside, place ▸ hit⟩
  · rintro ⟨a, b, -, hit⟩ rfl
    cases hit

theorem WellFormed.collides_iff_inside (formed : framebuffer.WellFormed)
    (binary : framebuffer.Binary) (pixels : List (Int × Int)) :
    framebuffer.collides pixels = true ↔
      ∃ a b, framebuffer.Inside a b ∧
        (2 ≤ framebuffer.hits pixels (b * framebuffer.width + a) ∨
          1 ≤ framebuffer.hits pixels (b * framebuffer.width + a) ∧
            framebuffer.cells.byteAt (b * framebuffer.width + a) = 1) := by
  rw [formed.collides_iff pixels]
  constructor
  · rintro ⟨location, -, struck⟩
    obtain ⟨a, b, inside, rfl⟩ := formed.inside_of_hit (struck.elim Nat.lt_of_succ_lt And.left)
    rw [Struck, ← binary.byteAt_eq_one_iff] at struck
    exact ⟨a, b, inside, struck⟩
  · rintro ⟨a, b, inside, found⟩
    rw [binary.byteAt_eq_one_iff] at found
    exact ⟨_, formed.location_nonneg inside, found⟩

/-- Drawing a sprite flips each cell once for each of its pixels that lands there, and tells
whether a cell is switched off by one of them: two land on it, or one does and it was lit. It marks
the framebuffer as written if any pixel lands at all. -/
theorem drawSprite_by_counts (formed : framebuffer.WellFormed) (binary : framebuffer.Binary)
    (x y : Int) (rows : List UInt8) :
    let count (a b : Int) : ℕ := (framebuffer.landing x y rows a b).card
    let cell (framebuffer : Framebuffer) (a b : Int) : UInt8 :=
      framebuffer.cells.byteAt (b * framebuffer.width + a)
    ∃ collided after, drawSprite x y rows framebuffer = .ok collided after ∧
      after.width = framebuffer.width ∧ after.height = framebuffer.height ∧
      after.cells.size = framebuffer.cells.size ∧
      (∀ a b, framebuffer.Inside a b →
        cell after a b = cell framebuffer a b ^^^ UInt8.ofNat (count a b % 2)) ∧
      (collided = true ↔
        ∃ a b, framebuffer.Inside a b ∧
          (2 ≤ count a b ∨ 1 ≤ count a b ∧ cell framebuffer a b = 1)) ∧
      (after.dirty = true ↔
        framebuffer.dirty = true ∨ ∃ a b, framebuffer.Inside a b ∧ 1 ≤ count a b) := by
  intro count cell
  have counted : ∀ a b, framebuffer.Inside a b →
      count a b = framebuffer.hits _ (b * framebuffer.width + a) :=
    fun a b inside => (formed.hits_spritePixels x y rows inside).symm
  refine ⟨_, _, formed.drawSprite_eq x y rows, width_flips _ _, height_flips _ _, size_flips _ _,
    ?_, ?_, ?_⟩
  · intro a b inside
    rw [counted a b inside]
    simp only [cell, width_flips]
    exact formed.byteAt_flips _ (formed.location_nonneg inside)
  · rw [formed.collides_iff_inside binary]
    refine exists_congr fun a => exists_congr fun b => and_congr_right fun inside => ?_
    rw [counted a b inside]
  · rw [dirty_flips, formed.ne_nil_iff]
    refine or_congr_right (exists_congr fun a => exists_congr fun b => ?_)
    refine and_congr_right fun inside => ?_
    rw [counted a b inside]

/-- A picture that is narrower than a sprite. -/
def narrow : Framebuffer where
  width := 5
  height := 3
  cells := (Memory.zeros 15).put 4 1
  dirty := false

theorem drawSprite_by_counts_narrow :
    let rows : List UInt8 := [0xff, 0x40, 0, 0x80]
    narrow.WellFormed ∧ narrow.Binary ∧
      ∃ after, drawSprite (-2) (-1) rows narrow = .ok true after ∧
        (narrow.landing (-2) (-1) rows 3 2).card = 3 ∧ after.cells.byteAt (2 * 5 + 3) = 1 ∧
        (narrow.landing (-2) (-1) rows 4 2).card = 2 ∧ after.cells.byteAt (2 * 5 + 4) = 0 ∧
        (narrow.landing (-2) (-1) rows 4 0).card = 1 ∧ after.cells.byteAt (0 * 5 + 4) = 0 ∧
        after.dirty = true := by
  intro rows
  have formed : narrow.WellFormed := ⟨by decide, by decide, by decide⟩
  have binary : narrow.Binary := fun _ member =>
    (Memory.mem_put member).imp_left Array.eq_of_mem_replicate
  have thrice : (narrow.landing (-2) (-1) rows 3 2).card = 3 := by decide
  have twice : (narrow.landing (-2) (-1) rows 4 2).card = 2 := by decide
  have once : (narrow.landing (-2) (-1) rows 4 0).card = 1 := by decide
  have corner : narrow.Inside 4 2 := ⟨by decide, by decide, by decide, by decide⟩
  have beside : narrow.Inside 3 2 := ⟨by decide, by decide, by decide, by decide⟩
  have lit : narrow.Inside 4 0 := ⟨by decide, by decide, by decide, by decide⟩
  obtain ⟨collided, after, drew, width, -, -, cells, collides, dirty⟩ :=
    drawSprite_by_counts formed binary (-2) (-1) rows
  rw [collides.mpr ⟨4, 2, corner, .inl twice.ge⟩] at drew
  have cell : ∀ a b, narrow.Inside a b → after.cells.byteAt (b * 5 + a) =
      narrow.cells.byteAt (b * 5 + a) ^^^
        UInt8.ofNat ((narrow.landing (-2) (-1) rows a b).card % 2) := by
    intro a b inside
    have same := cells a b inside
    simp only [width] at same
    exact same
  refine ⟨formed, binary, after, drew, thrice, ?_, twice, ?_, once, ?_, ?_⟩
  · rw [cell 3 2 beside, thrice]
    rfl
  · rw [cell 4 2 corner, twice]
    rfl
  · rw [cell 4 0 lit, once]
    rfl
  · exact dirty.mpr (.inr ⟨4, 2, corner, Nat.le_of_succ_le twice.ge⟩)

end Chip8.Framebuffer
