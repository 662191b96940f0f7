import Chip8.Framebuffer
import Chip8.Proofs.Memory.Bytes

/-! # Drawing and presenting

On a framebuffer that has a cell for each of its pixels drawing never fails. It flips one cell
after another, and so cells that hold 0 or 1 keep doing so. Which cells it changes depends on how
many pixels fall on each, so a second drawing undoes the first. Presenting changes no cell.
-/

namespace Chip8.Framebuffer

variable {framebuffer : Framebuffer}

/-- There is an extent, and a cell for each pixel. -/
structure WellFormed (framebuffer : Framebuffer) : Prop where
  width : 0 < framebuffer.width
  height : 0 < framebuffer.height
  cells : (framebuffer.cells.size : Int) = framebuffer.width * framebuffer.height

/-- Every cell is dark or lit. -/
def Binary (framebuffer : Framebuffer) : Prop := ∀ cell ∈ framebuffer.view, cell = 0 ∨ cell = 1

/-- The location of the cell at wrapped coordinates, where there is an extent. -/
def cellIndex (framebuffer : Framebuffer) (x y : Int) : Int :=
  y.fmod framebuffer.height * framebuffer.width + x.fmod framebuffer.width

def lit (framebuffer : Framebuffer) (x y : Int) : Bool :=
  framebuffer.cells.byteAt (framebuffer.cellIndex x y) ≠ 0

/-- A pixel that is lit before is dark after. -/
def Darkens (before after : Framebuffer) : Prop :=
  ∃ x y, before.lit x y = true ∧ after.lit x y = false

def flip (framebuffer : Framebuffer) (x y : Int) : Framebuffer :=
  { framebuffer with
    cells := framebuffer.cells.put (framebuffer.cellIndex x y)
      (framebuffer.cells.byteAt (framebuffer.cellIndex x y) ^^^ 1)
    dirty := true }

/-- Pixels flipped in order. -/
def flips (framebuffer : Framebuffer) : List (Int × Int) → Framebuffer
  | [] => framebuffer
  | (x, y) :: rest => (framebuffer.flip x y).flips rest

/-- Whether any of the pixels is lit when its turn comes. -/
def collides (framebuffer : Framebuffer) : List (Int × Int) → Bool
  | [] => false
  | (x, y) :: rest => framebuffer.lit x y || (framebuffer.flip x y).collides rest

theorem WellFormed.cellIndex_nonneg (formed : framebuffer.WellFormed) (x y : Int) :
    0 ≤ framebuffer.cellIndex x y := by
  have row := Int.fmod_nonneg_of_pos y formed.height
  have column := Int.fmod_nonneg_of_pos x formed.width
  exact Int.add_nonneg (Int.mul_nonneg row (Int.le_of_lt formed.width)) column

theorem WellFormed.cellIndex_lt (formed : framebuffer.WellFormed) (x y : Int) :
    framebuffer.cellIndex x y < framebuffer.cells.size := by
  have row : y.fmod framebuffer.height + 1 ≤ framebuffer.height :=
    Int.fmod_lt_of_pos y formed.height
  have column := Int.fmod_lt_of_pos x formed.width
  have whole := Int.mul_le_mul_of_nonneg_right row (Int.le_of_lt formed.width)
  rw [formed.cells, cellIndex]
  rw [Int.add_mul, Int.one_mul, Int.mul_comm framebuffer.height] at whole
  omega

theorem WellFormed.locate_eq (formed : framebuffer.WellFormed) (x y : Int) :
    framebuffer.locate x y = .ok (framebuffer.cellIndex x y) := by
  have extent : ¬ (framebuffer.height = 0 ∨ framebuffer.width = 0) := by
    have width := formed.width
    have height := formed.height
    omega
  rw [locate, if_neg extent, cellIndex]

theorem WellFormed.flip (formed : framebuffer.WellFormed) (x y : Int) :
    (framebuffer.flip x y).WellFormed where
  width := formed.width
  height := formed.height
  cells := by rw [Framebuffer.flip, Memory.size_put, formed.cells]

theorem WellFormed.xorPixel_eq (formed : framebuffer.WellFormed) (x y : Int) :
    xorPixel x y framebuffer = .ok (framebuffer.lit x y) (framebuffer.flip x y) := by
  have least := formed.cellIndex_nonneg x y
  have most := formed.cellIndex_lt x y
  simp only [xorPixel, formed.locate_eq, Memory.read_eq least most, Memory.check_eq least most]
  rfl

theorem WellFormed.xorPixels_eq (formed : framebuffer.WellFormed) (pixels : List (Int × Int)) :
    xorPixels pixels framebuffer =
      .ok (framebuffer.collides pixels) (framebuffer.flips pixels) := by
  induction pixels generalizing framebuffer with
  | nil => rfl
  | cons pixel rest ih =>
    obtain ⟨x, y⟩ := pixel
    simp only [xorPixels, bind, EStateM.bind, formed.xorPixel_eq, ih (formed.flip x y)]
    rfl

/-- Drawing succeeds, flips the sprite's pixels and tells whether one of them was lit. -/
theorem WellFormed.drawSprite_eq (formed : framebuffer.WellFormed) (x y : Int)
    (rows : List UInt8) :
    drawSprite x y rows framebuffer =
      let pixels := spritePixels (x.fmod framebuffer.width) (y.fmod framebuffer.height) rows
      .ok (framebuffer.collides pixels) (framebuffer.flips pixels) := by
  have extent : ¬ (framebuffer.width = 0 ∨ framebuffer.height = 0) := by
    have width := formed.width
    have height := formed.height
    omega
  rw [drawSprite, if_neg extent, formed.xorPixels_eq]

/-! ### What flips keep -/

@[simp] theorem width_flips (framebuffer : Framebuffer) (pixels : List (Int × Int)) :
    (framebuffer.flips pixels).width = framebuffer.width := by
  induction pixels generalizing framebuffer with
  | nil => rfl
  | cons pixel rest ih => exact ih _

@[simp] theorem height_flips (framebuffer : Framebuffer) (pixels : List (Int × Int)) :
    (framebuffer.flips pixels).height = framebuffer.height := by
  induction pixels generalizing framebuffer with
  | nil => rfl
  | cons pixel rest ih => exact ih _

@[simp] theorem size_flips (framebuffer : Framebuffer) (pixels : List (Int × Int)) :
    (framebuffer.flips pixels).cells.size = framebuffer.cells.size := by
  induction pixels generalizing framebuffer with
  | nil => rfl
  | cons pixel rest ih => rw [flips, ih, flip, Memory.size_put]

theorem WellFormed.flips (formed : framebuffer.WellFormed) (pixels : List (Int × Int)) :
    (framebuffer.flips pixels).WellFormed where
  width := (width_flips _ _).symm ▸ formed.width
  height := (height_flips _ _).symm ▸ formed.height
  cells := by rw [size_flips, width_flips, height_flips, formed.cells]

@[simp] theorem cellIndex_flips (framebuffer : Framebuffer) (pixels : List (Int × Int))
    (x y : Int) : (framebuffer.flips pixels).cellIndex x y = framebuffer.cellIndex x y := by
  rw [cellIndex, width_flips, height_flips, cellIndex]

theorem Binary.byteAt (binary : framebuffer.Binary) (location : Int) :
    framebuffer.cells.byteAt location = 0 ∨ framebuffer.cells.byteAt location = 1 := by
  rcases framebuffer.cells.byteAt_mem_or_zero location with held | zero
  · exact binary _ held
  · exact .inl zero

theorem Binary.byteAt_eq_one_iff (binary : framebuffer.Binary) (location : Int) :
    framebuffer.cells.byteAt location = 1 ↔ framebuffer.cells.byteAt location ≠ 0 := by
  rcases binary.byteAt location with dark | light
  · simp [dark]
  · simp [light]

theorem Binary.flip (binary : framebuffer.Binary) (x y : Int) : (framebuffer.flip x y).Binary := by
  intro cell member
  rcases Memory.mem_put member with old | rfl
  · exact binary cell old
  · rcases binary.byteAt (framebuffer.cellIndex x y) with dark | light
    · rw [dark]
      exact .inr rfl
    · rw [light]
      exact .inl rfl

theorem Binary.flips (binary : framebuffer.Binary) (pixels : List (Int × Int)) :
    (framebuffer.flips pixels).Binary := by
  induction pixels generalizing framebuffer with
  | nil => exact binary
  | cons pixel rest ih => exact ih (binary.flip pixel.1 pixel.2)

theorem binary_clear (framebuffer : Framebuffer) : framebuffer.clear.Binary := by
  intro cell member
  left
  exact Array.eq_of_mem_replicate member

/-! ### Where pixels fall -/

/-- How many of the pixels fall on the cell at a location. -/
def hits (framebuffer : Framebuffer) (pixels : List (Int × Int)) (location : Int) : Nat :=
  pixels.countP fun pixel => framebuffer.cellIndex pixel.1 pixel.2 = location

theorem hits_flip (framebuffer : Framebuffer) (x y : Int) (pixels : List (Int × Int))
    (location : Int) :
    (framebuffer.flip x y).hits pixels location = framebuffer.hits pixels location := rfl

theorem hits_cons (framebuffer : Framebuffer) (x y : Int) (rest : List (Int × Int))
    (location : Int) :
    framebuffer.hits ((x, y) :: rest) location =
      framebuffer.hits rest location +
        if framebuffer.cellIndex x y = location then 1 else 0 := by
  simp [hits, List.countP_cons]

theorem hits_pos_iff {pixels : List (Int × Int)} {location : Int} :
    0 < framebuffer.hits pixels location ↔
      ∃ pixel ∈ pixels, framebuffer.cellIndex pixel.1 pixel.2 = location := by
  simp [hits, List.countP_pos_iff]

theorem WellFormed.byteAt_flip (formed : framebuffer.WellFormed) (x y : Int) {location : Int}
    (known : 0 ≤ location) :
    (framebuffer.flip x y).cells.byteAt location =
      if framebuffer.cellIndex x y = location then framebuffer.cells.byteAt location ^^^ 1
      else framebuffer.cells.byteAt location := by
  rw [Framebuffer.flip, Memory.byteAt_put (formed.cellIndex_nonneg x y) (formed.cellIndex_lt x y) _
    known]
  by_cases same : location = framebuffer.cellIndex x y
  · rw [if_pos same, if_pos same.symm, same]
  · rw [if_neg same, if_neg fun equal => same equal.symm]

/-- A cell is flipped by each pixel that falls on it, so it is the parity that counts. -/
theorem WellFormed.byteAt_flips (formed : framebuffer.WellFormed) (pixels : List (Int × Int))
    {location : Int} (known : 0 ≤ location) :
    (framebuffer.flips pixels).cells.byteAt location =
      framebuffer.cells.byteAt location ^^^
        UInt8.ofNat (framebuffer.hits pixels location % 2) := by
  induction pixels generalizing framebuffer with
  | nil => exact UInt8.xor_zero.symm
  | cons pixel rest ih =>
    obtain ⟨x, y⟩ := pixel
    rw [Framebuffer.flips, ih (formed.flip x y), hits_flip, hits_cons, formed.byteAt_flip x y known]
    split
    · rcases Nat.mod_two_eq_zero_or_one (framebuffer.hits rest location) with even | odd
      · rw [even, Nat.add_mod, even, UInt8.xor_assoc]
        rfl
      · rw [odd, Nat.add_mod, odd, UInt8.xor_assoc]
        rfl
    · rfl

/-- One of the pixels finds the cell at a location lit: the cell is lit at first, or another pixel
lights it. -/
def Struck (framebuffer : Framebuffer) (pixels : List (Int × Int)) (location : Int) : Prop :=
  2 ≤ framebuffer.hits pixels location ∨
    1 ≤ framebuffer.hits pixels location ∧ framebuffer.cells.byteAt location ≠ 0

theorem WellFormed.struck_cons (formed : framebuffer.WellFormed) (x y : Int)
    (rest : List (Int × Int)) {location : Int} (known : 0 ≤ location) :
    framebuffer.Struck ((x, y) :: rest) location ↔
      framebuffer.cellIndex x y = location ∧ framebuffer.cells.byteAt location ≠ 0 ∨
        (framebuffer.flip x y).Struck rest location := by
  rw [Struck, Struck, hits_flip, hits_cons, formed.byteAt_flip x y known]
  by_cases same : framebuffer.cellIndex x y = location
  · rw [if_pos same, if_pos same]
    -- The first pixel lights a dark cell for the second, whichever that is.
    by_cases dark : framebuffer.cells.byteAt location = 0
    · have lights : (0 : UInt8) ^^^ 1 ≠ 0 := by decide
      simp only [dark, lights, ne_eq, not_true_eq_false, not_false_eq_true, and_false, and_true,
        or_false, false_or]
      omega
    · simp [same, dark]
  · simp [same]

/-- A pixel is lit when its turn comes if and only if some cell is struck. -/
theorem WellFormed.collides_iff (formed : framebuffer.WellFormed) (pixels : List (Int × Int)) :
    framebuffer.collides pixels = true ↔
      ∃ location, 0 ≤ location ∧ framebuffer.Struck pixels location := by
  induction pixels generalizing framebuffer with
  | nil => simp [collides, Struck, hits]
  | cons pixel rest ih =>
    obtain ⟨x, y⟩ := pixel
    have known := formed.cellIndex_nonneg x y
    rw [collides, Bool.or_eq_true, ih (formed.flip x y)]
    constructor
    · rintro (lit | ⟨location, least, late⟩)
      · exact ⟨_, known, (formed.struck_cons x y rest known).mpr
          (.inl ⟨rfl, of_decide_eq_true lit⟩)⟩
      · exact ⟨location, least, (formed.struck_cons x y rest least).mpr (.inr late)⟩
    · rintro ⟨location, least, struck⟩
      rcases (formed.struck_cons x y rest least).mp struck with ⟨rfl, lit⟩ | late
      · exact .inl (decide_eq_true lit)
      · exact .inr ⟨location, least, late⟩

/-- If no two pixels fall on one cell, a cell that is lit when its turn comes was lit at first and
is dark in the end. -/
theorem WellFormed.collides_iff_darkens (formed : framebuffer.WellFormed)
    (binary : framebuffer.Binary) {pixels : List (Int × Int)}
    (apart : ∀ location, framebuffer.hits pixels location ≤ 1) :
    framebuffer.collides pixels = true ↔ framebuffer.Darkens (framebuffer.flips pixels) := by
  rw [formed.collides_iff]
  constructor
  · rintro ⟨location, known, twice | ⟨hit, light⟩⟩
    · exact absurd (apart location) (Nat.not_le.mpr twice)
    · have once := Nat.le_antisymm (apart location) hit
      obtain ⟨pixel, -, rfl⟩ := hits_pos_iff.mp hit
      refine ⟨pixel.1, pixel.2, decide_eq_true light, ?_⟩
      rw [lit, cellIndex_flips, formed.byteAt_flips pixels known, once,
        (binary.byteAt_eq_one_iff _).mpr light]
      rfl
  · rintro ⟨x, y, light, dark⟩
    have known := formed.cellIndex_nonneg x y
    refine ⟨_, known, .inr ⟨Nat.pos_of_ne_zero fun missed => ?_, of_decide_eq_true light⟩⟩
    have unchanged : (framebuffer.flips pixels).lit x y = framebuffer.lit x y := by
      rw [lit, cellIndex_flips, formed.byteAt_flips pixels known, missed]
      exact congrArg (fun cell : UInt8 => decide (cell ≠ 0)) UInt8.xor_zero
    exact Bool.false_ne_true (dark.symm.trans (unchanged.trans light))

/-- Flipping a pixel marks the framebuffer as written, and nothing else does. -/
theorem dirty_flips (framebuffer : Framebuffer) (pixels : List (Int × Int)) :
    (framebuffer.flips pixels).dirty = true ↔ framebuffer.dirty = true ∨ pixels ≠ [] := by
  induction pixels generalizing framebuffer with
  | nil => simp [flips]
  | cons pixel rest ih => simp [flips, ih, flip]

/-! ### Flipping twice -/

@[simp] theorem hits_flips (framebuffer : Framebuffer) (flipped pixels : List (Int × Int))
    (location : Int) :
    (framebuffer.flips flipped).hits pixels location = framebuffer.hits pixels location := by
  simp only [hits, cellIndex_flips]

/-- Pixels that are flipped again leave every cell as it was. -/
theorem WellFormed.cells_flips_flips (formed : framebuffer.WellFormed)
    (pixels : List (Int × Int)) :
    ((framebuffer.flips pixels).flips pixels).cells = framebuffer.cells := by
  apply Memory.eq_of_byteAt
  · rw [size_flips, size_flips]
  · intro location known
    rw [(formed.flips pixels).byteAt_flips pixels known, formed.byteAt_flips pixels known,
      hits_flips, UInt8.xor_assoc, UInt8.xor_self, UInt8.xor_zero]

/-- Of two times that pixels are flipped, one finds a lit cell: what is dark at first is lit when
its pixel has its turn again. -/
theorem WellFormed.collides_or_collides_iff (formed : framebuffer.WellFormed)
    (pixels : List (Int × Int)) :
    framebuffer.collides pixels = true ∨ (framebuffer.flips pixels).collides pixels = true ↔
      pixels ≠ [] := by
  constructor
  · rintro found rfl
    exact found.elim Bool.false_ne_true Bool.false_ne_true
  · intro drawn
    rw [formed.collides_iff, (formed.flips pixels).collides_iff]
    obtain ⟨pixel, member⟩ := List.exists_mem_of_ne_nil _ drawn
    have known := formed.cellIndex_nonneg pixel.1 pixel.2
    have hit : 0 < framebuffer.hits pixels (framebuffer.cellIndex pixel.1 pixel.2) :=
      hits_pos_iff.mpr ⟨pixel, member, rfl⟩
    by_cases dark : framebuffer.cells.byteAt (framebuffer.cellIndex pixel.1 pixel.2) = 0
    · by_cases twice : 2 ≤ framebuffer.hits pixels (framebuffer.cellIndex pixel.1 pixel.2)
      · exact .inl ⟨_, known, .inl twice⟩
      · have once : framebuffer.hits pixels (framebuffer.cellIndex pixel.1 pixel.2) = 1 := by omega
        refine .inr ⟨_, known, .inr ⟨(hits_flips _ _ _ _).symm ▸ hit, ?_⟩⟩
        rw [formed.byteAt_flips pixels known, dark, once]
        decide
    · exact .inl ⟨_, known, .inr ⟨hit, dark⟩⟩

/-! ### Presenting -/

/-- A display that takes no notice of the cells, but shows them or fails. -/
def plainDisplay (shows : Bool) : Array UInt8 → EStateM Unit Unit Unit :=
  fun _ => if shows then pure () else throw ()

/-- The framebuffer that presenting leaves. A display that fails leaves it as it was. -/
def afterPresent {ε σ : Type} (framebuffer : Framebuffer) (draw : Array UInt8 → EStateM ε σ Unit)
    (front : σ) : Framebuffer :=
  match framebuffer.present draw front with
  | .ok (_, presented) _ => presented
  | .error _ _ => framebuffer

def succeeds {ε σ α : Type} (action : EStateM ε σ α) (state : σ) : Bool :=
  match action state with
  | .ok _ _ => true
  | .error _ _ => false

theorem afterPresent_eq {ε σ : Type} (framebuffer : Framebuffer)
    (draw : Array UInt8 → EStateM ε σ Unit) (front : σ) :
    framebuffer.afterPresent draw front =
      { framebuffer with
        dirty := framebuffer.dirty && !succeeds (draw framebuffer.view) front } := by
  rcases framebuffer with ⟨width, height, cells, _ | _⟩
  · rfl
  · cases drew : draw cells.bytes front <;>
      simp [afterPresent, present, succeeds, view, drew, bind, EStateM.bind, pure, EStateM.pure]

end Chip8.Framebuffer
