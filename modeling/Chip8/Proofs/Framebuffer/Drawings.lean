import Chip8.Proofs.Framebuffer.Sprites

/-! # Sprites drawn one after another

Sprites may overlap each other and themselves. What they leave of a cell depends only on how many of
their pixels land there, so it is the same in whatever order they are drawn, and a sprite that is
drawn two times more leaves the cells as if it were not. What a drawing tells of the cells that it
switched off does depend on what was drawn before.
-/

namespace Chip8.Framebuffer

variable {framebuffer : Framebuffer}

attribute [ext] Framebuffer

/-- A sprite and where it is drawn. -/
structure Drawing where
  x : Int
  y : Int
  rows : List UInt8
deriving DecidableEq, Repr

/-- Draws sprites in order, and tells of each whether it switched any pixel off. -/
def drawSprites (drawings : List Drawing) : EStateM Fault Framebuffer (List Bool) :=
  drawings.mapM fun drawing => drawSprite drawing.x drawing.y drawing.rows

/-- The pixels of a sprite, in the order in which they are flipped. -/
def pixelsOf (framebuffer : Framebuffer) (drawing : Drawing) : List (Int × Int) :=
  spritePixels (drawing.x.fmod framebuffer.width) (drawing.y.fmod framebuffer.height) drawing.rows

/-! ### Flipping the pixels of all sprites -/

theorem flips_append (framebuffer : Framebuffer) (first second : List (Int × Int)) :
    framebuffer.flips (first ++ second) = (framebuffer.flips first).flips second := by
  induction first generalizing framebuffer with
  | nil => rfl
  | cons pixel rest ih => exact ih _

theorem hits_append (framebuffer : Framebuffer) (first second : List (Int × Int))
    (location : Int) :
    framebuffer.hits (first ++ second) location =
      framebuffer.hits first location + framebuffer.hits second location :=
  List.countP_append

theorem pixelsOf_flips (framebuffer : Framebuffer) (pixels : List (Int × Int)) :
    (framebuffer.flips pixels).pixelsOf = framebuffer.pixelsOf := by
  funext drawing
  rw [pixelsOf, width_flips, height_flips, pixelsOf]

/-- Drawing sprites succeeds, and flips the pixels of one after those of another. -/
theorem WellFormed.drawSprites_eq (formed : framebuffer.WellFormed) (drawings : List Drawing) :
    ∃ collisions, drawSprites drawings framebuffer =
      .ok collisions (framebuffer.flips (drawings.flatMap framebuffer.pixelsOf)) := by
  induction drawings generalizing framebuffer with
  | nil => exact ⟨[], rfl⟩
  | cons drawing rest ih =>
    have first : drawSprite drawing.x drawing.y drawing.rows framebuffer =
        .ok (framebuffer.collides (framebuffer.pixelsOf drawing))
          (framebuffer.flips (framebuffer.pixelsOf drawing)) :=
      formed.drawSprite_eq drawing.x drawing.y drawing.rows
    obtain ⟨collisions, later⟩ := ih (formed.flips (framebuffer.pixelsOf drawing))
    rw [drawSprites, pixelsOf_flips, ← flips_append] at later
    refine ⟨framebuffer.collides (framebuffer.pixelsOf drawing) :: collisions, ?_⟩
    rw [drawSprites, List.mapM_cons]
    simp only [bind, EStateM.bind, first, later]
    rfl

/-- Of the pixels that land on a cell it matters only whether they are odd in number. -/
theorem WellFormed.cells_flips_eq (formed : framebuffer.WellFormed) {first second : List (Int × Int)}
    (parity : ∀ location,
      framebuffer.hits first location % 2 = framebuffer.hits second location % 2) :
    (framebuffer.flips first).cells = (framebuffer.flips second).cells := by
  apply Memory.eq_of_byteAt
  · rw [size_flips, size_flips]
  · intro location known
    rw [formed.byteAt_flips first known, formed.byteAt_flips second known, parity]

theorem WellFormed.flips_eq_of_perm (formed : framebuffer.WellFormed)
    {first second : List (Int × Int)} (same : first.Perm second) :
    framebuffer.flips first = framebuffer.flips second := by
  ext1
  · rw [width_flips, width_flips]
  · rw [height_flips, height_flips]
  · exact formed.cells_flips_eq fun location => congrArg (· % 2) (same.countP_eq _)
  · rw [Bool.eq_iff_iff, dirty_flips, dirty_flips, List.ne_nil_iff_length_pos,
      List.ne_nil_iff_length_pos, same.length_eq]

/-- Two more times that a sprite is drawn, whatever is drawn before, between and after them, add an
even number of pixels to each cell. -/
theorem hits_twice (framebuffer : Framebuffer) (first middle last : List Drawing)
    (drawing : Drawing) (location : Int) :
    framebuffer.hits
        ((first ++ drawing :: middle ++ drawing :: last).flatMap framebuffer.pixelsOf) location =
      framebuffer.hits ((first ++ middle ++ last).flatMap framebuffer.pixelsOf) location +
        2 * framebuffer.hits (framebuffer.pixelsOf drawing) location := by
  simp only [List.flatMap_append, List.flatMap_cons, hits_append]
  omega

/-! ### Cells and pixels of all sprites -/

/-- How many pixels of sprites land on the cell in column `a` and row `b`. -/
def landings (framebuffer : Framebuffer) (drawings : List Drawing) (a b : Int) : ℕ :=
  (drawings.map fun drawing => (framebuffer.landing drawing.x drawing.y drawing.rows a b).card).sum

theorem WellFormed.hits_pixelsOf (formed : framebuffer.WellFormed) (drawings : List Drawing)
    {a b : Int} (inside : framebuffer.Inside a b) :
    framebuffer.hits (drawings.flatMap framebuffer.pixelsOf) (b * framebuffer.width + a) =
      framebuffer.landings drawings a b := by
  rw [hits, List.countP_flatMap, landings]
  refine congrArg List.sum (List.map_congr_left fun drawing _ => ?_)
  exact formed.hits_spritePixels drawing.x drawing.y drawing.rows inside

theorem flatMap_pixelsOf_ne_nil_iff (framebuffer : Framebuffer) (drawings : List Drawing) :
    drawings.flatMap framebuffer.pixelsOf ≠ [] ↔
      ∃ drawing ∈ drawings, ∃ row ∈ drawing.rows, row ≠ 0 := by
  simp only [Ne, List.flatMap_eq_nil_iff, not_forall, exists_prop]
  refine exists_congr fun drawing => and_congr_right fun _ => ?_
  exact spritePixels_ne_nil_iff _ _ drawing.rows

/-- Sprites drawn one after another flip each cell as often as pixels of theirs land there. So the
framebuffer that they leave is the same in whatever order they are drawn, and its cells are the same
also if any sprite is drawn two times more, whatever is drawn in between. -/
theorem drawn_in_any_order (formed : framebuffer.WellFormed) (drawings : List Drawing) :
    ∃ collisions after, drawSprites drawings framebuffer = .ok collisions after ∧
      (∀ a b, framebuffer.Inside a b →
        after.cells.byteAt (b * framebuffer.width + a) =
          framebuffer.cells.byteAt (b * framebuffer.width + a) ^^^
            UInt8.ofNat (framebuffer.landings drawings a b % 2)) ∧
      (after.dirty = true ↔
        framebuffer.dirty = true ∨ ∃ drawing ∈ drawings, ∃ row ∈ drawing.rows, row ≠ 0) ∧
      (∀ permuted, permuted.Perm drawings →
        ∃ others, drawSprites permuted framebuffer = .ok others after) ∧
      ∀ first middle last drawing, first ++ middle ++ last = drawings →
        ∃ others longer,
          drawSprites (first ++ drawing :: middle ++ drawing :: last) framebuffer =
            .ok others longer ∧ longer.cells = after.cells := by
  obtain ⟨collisions, drew⟩ := formed.drawSprites_eq drawings
  refine ⟨collisions, _, drew, ?_, ?_, ?_, ?_⟩
  · intro a b inside
    rw [formed.byteAt_flips _ (formed.location_nonneg inside), formed.hits_pixelsOf drawings inside]
  · rw [dirty_flips, flatMap_pixelsOf_ne_nil_iff]
  · intro permuted same
    obtain ⟨others, drewPermuted⟩ := formed.drawSprites_eq permuted
    rw [formed.flips_eq_of_perm (same.flatMap_right framebuffer.pixelsOf)] at drewPermuted
    exact ⟨others, drewPermuted⟩
  · rintro first middle last drawing rfl
    obtain ⟨others, drewLonger⟩ :=
      formed.drawSprites_eq (first ++ drawing :: middle ++ drawing :: last)
    refine ⟨others, _, drewLonger, formed.cells_flips_eq fun location => ?_⟩
    rw [hits_twice, Nat.add_mul_mod_self_left]

/-- A sprite that lights the cell in the top left corner, and one that starts on the lit cell of a
narrow picture and wraps around to that corner. -/
def cornered : List Drawing := [⟨-5, 3, [0x80]⟩, ⟨4, 0, [0xc0]⟩]

theorem drawn_in_any_order_narrow :
    narrow.WellFormed ∧ cornered.reverse.Perm cornered ∧
      ∃ after others longer, drawSprites cornered narrow = .ok [false, true] after ∧
        drawSprites cornered.reverse narrow = .ok [true, true] after ∧
        drawSprites [⟨-5, 3, [0x80]⟩, ⟨0, -1, [0xff]⟩, ⟨4, 0, [0xc0]⟩, ⟨0, -1, [0xff]⟩] narrow =
          .ok others longer ∧
        longer.cells = after.cells ∧ after.cells = Memory.zeros 15 ∧ after.dirty = true := by
  have formed : narrow.WellFormed := ⟨by decide, by decide, by decide⟩
  have reversed : cornered.reverse.Perm cornered := cornered.reverse_perm
  obtain ⟨collisions, after, drew, -, -, anyOrder, twice⟩ := drawn_in_any_order formed cornered
  obtain ⟨reversedCollisions, drewReversed⟩ := anyOrder _ reversed
  obtain ⟨others, longer, drewLonger, restored⟩ :=
    twice [⟨-5, 3, [0x80]⟩] [⟨4, 0, [0xc0]⟩] [] ⟨0, -1, [0xff]⟩ rfl
  have drawn : drawSprites cornered narrow = .ok [false, true] ⟨5, 3, Memory.zeros 15, true⟩ := rfl
  have drawnReversed : drawSprites cornered.reverse narrow =
      .ok [true, true] ⟨5, 3, Memory.zeros 15, true⟩ := rfl
  cases drew.symm.trans drawn
  cases drewReversed.symm.trans drawnReversed
  exact ⟨formed, reversed, _, others, longer, drew, drewReversed, drewLonger, restored, rfl, rfl⟩

end Chip8.Framebuffer
