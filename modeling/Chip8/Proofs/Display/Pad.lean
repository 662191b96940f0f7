import Chip8.Display.Pad
import Chip8.Proofs.Action
import Mathlib.Algebra.Order.Ring.Nat

/-! # Text on a pad

Text that stays within a row of a pad, and leaves its last cell, is written on as many cells as it
takes, and on no others; where each of its characters takes one cell, it takes as many as it has
characters. A pad is told from others of its extent by its cells.
-/

namespace Chip8.Display

/-! ### Characters that take one cell -/

/-- Each character of a text takes one cell. -/
def Lettering.OneCellEach (lettering : Lettering) (text : List Char) : Prop :=
  ∀ c ∈ text, lettering.cellsOf c = 1

instance (lettering : Lettering) (text : List Char) : Decidable (lettering.OneCellEach text) :=
  inferInstanceAs (Decidable (∀ c ∈ text, _))

namespace Lettering.OneCellEach

variable {lettering : Lettering} {text more : List Char}

theorem spread_eq (single : lettering.OneCellEach text) : lettering.spread text = text := by
  induction text with
  | nil => rfl
  | cons c rest ih =>
    obtain ⟨first, others⟩ := List.forall_mem_cons.mp single
    rw [spread, List.flatMap_cons, first]
    exact congrArg (c :: ·) (ih others)

theorem take (single : lettering.OneCellEach text) (length : Nat) :
    lettering.OneCellEach (text.take length) :=
  fun c member => single c (List.mem_of_mem_take member)

theorem append (single : lettering.OneCellEach text) (singleToo : lettering.OneCellEach more) :
    lettering.OneCellEach (text ++ more) :=
  List.forall_mem_append.mpr ⟨single, singleToo⟩

theorem replicate {c : Char} (single : lettering.cellsOf c = 1) (count : Nat) :
    lettering.OneCellEach (List.replicate count c) :=
  fun _ member => List.eq_of_mem_replicate member ▸ single

end Lettering.OneCellEach

namespace Pad

variable {pad other : Pad} {y x line place : Nat} {cell : Cell} {reversed : Bool} {text : List Char}

/-- There is a cell for each place. -/
def Whole (pad : Pad) : Prop := pad.cells.size = pad.height * pad.width

/-- The pad with text from a place on. -/
def written (pad : Pad) (y x : Nat) (reversed : Bool) : List Char → Pad
  | [] => pad
  | c :: rest => (pad.put y x (.written c reversed)).written y (x + 1) reversed rest

theorem whole_blank (height width : Nat) : (blank height width).Whole := Array.size_replicate

theorem cellAt_blank (height width y x : Nat) : (blank height width).cellAt y x = .untouched := by
  simp only [cellAt, blank, Array.getD_eq_getD_getElem?, Array.getElem?_replicate]
  split
  · split <;> rfl
  · rfl

theorem Whole.put (whole : pad.Whole) (y x : Nat) (cell : Cell) : (pad.put y x cell).Whole := by
  rw [Whole, Pad.put, Array.size_setIfInBounds]
  exact whole

/-- Rows of cells follow each other, so a position tells its row and its column. -/
theorem position_inj {width : Nat} (column : x < width) (inside : place < width)
    (same : y * width + x = line * width + place) : y = line ∧ x = place := by
  have rows := congrArg (· / width) same
  have columns := congrArg (· % width) same
  simp only [Nat.add_comm (_ * width), Nat.add_mul_mod_self_right, Nat.mod_eq_of_lt column,
    Nat.mod_eq_of_lt inside] at columns
  simp only [Nat.add_comm (_ * width), Nat.add_mul_div_right _ _ (Nat.zero_lt_of_lt column),
    Nat.div_eq_of_lt column, Nat.div_eq_of_lt inside, Nat.zero_add] at rows
  exact ⟨rows, columns⟩

theorem position_lt {height width : Nat} (row : y < height) (column : x < width) :
    y * width + x < height * width := by
  calc
    y * width + x < y * width + width := Nat.add_lt_add_left column _
    _ = (y + 1) * width := (Nat.succ_mul y width).symm
    _ ≤ height * width := Nat.mul_le_mul_right width row

theorem cellAt_put (whole : pad.Whole) (row : y < pad.height) (column : x < pad.width) :
    (pad.put y x cell).cellAt line place =
      if line = y ∧ place = x then cell else pad.cellAt line place := by
  have inside : y * pad.width + x < pad.cells.size := whole ▸ position_lt row column
  simp only [cellAt, put, Array.getD_eq_getD_getElem?, Array.getElem?_setIfInBounds]
  by_cases within : place < pad.width
  · rw [if_pos within, if_pos within]
    by_cases same : line = y ∧ place = x
    · obtain ⟨rfl, rfl⟩ := same
      simp [inside]
    · have apart : y * pad.width + x ≠ line * pad.width + place := by
        intro positions
        obtain ⟨rows, columns⟩ := position_inj column within positions
        exact same ⟨rows.symm, columns.symm⟩
      rw [if_neg apart, if_neg same]
  · have other : ¬ (line = y ∧ place = x) := by
      rintro ⟨-, rfl⟩
      exact within column
    rw [if_neg within, if_neg within, if_neg other]

/-! ### Writing -/

theorem frame_written (pad : Pad) (y x : Nat) (reversed : Bool) (text : List Char) :
    (pad.written y x reversed text).height = pad.height ∧
      (pad.written y x reversed text).width = pad.width := by
  induction text generalizing pad x with
  | nil => exact ⟨rfl, rfl⟩
  | cons c rest ih => exact ih (pad.put y x (.written c reversed)) (x + 1)

theorem Whole.written (whole : pad.Whole) (y x : Nat) (reversed : Bool) (text : List Char) :
    (pad.written y x reversed text).Whole := by
  induction text generalizing pad x with
  | nil => exact whole
  | cons c rest ih => exact ih (whole.put y x _) (x + 1)

/-- A character on a cell of the pad that is not its last one. -/
theorem fill_cons {wraps : Bool} {y x : Int} {c : Char} {rest : List Char}
    (inside : pad.holds y x = true) (goesOn : pad.endsAt y x = false) :
    fill wraps y x reversed (c :: rest) pad =
      fill wraps (pad.behind wraps y x).1 (pad.behind wraps y x).2 reversed rest
        (pad.put y.toNat x.toNat (.written c reversed)) := by
  have read (pad : Pad) : (get : EStateM Fault Pad Pad) pad = .ok pad pad := rfl
  have put : (modify fun pad => pad.put y.toNat x.toNat (.written c reversed) :
      EStateM Fault Pad PUnit) pad = .ok ⟨⟩ (pad.put y.toNat x.toNat (.written c reversed)) := rfl
  have written : (pad.put y.toNat x.toNat (.written c reversed)).endsAt y x = false := goesOn
  rw [fill, bind_ok (read pad), if_pos inside, bind_ok put, bind_ok (read _), written]
  rfl

/-- Text that ends before the last cell of its row is not refused, and goes on in its row. -/
theorem fill_eq (wraps : Bool) (row : y < pad.height) (columns : x + text.length < pad.width) :
    fill wraps y x reversed text pad = .ok () (pad.written y x reversed text) := by
  induction text generalizing pad x with
  | nil => rfl
  | cons c rest ih =>
    rw [List.length_cons] at columns
    have inside : pad.holds y x = true := by
      simp only [holds, Bool.and_eq_true, decide_eq_true_eq]
      omega
    have more : ((x : Int) + 1 == pad.width) = false := beq_false_of_ne (by omega)
    have goesOn : pad.endsAt y x = false := by rw [endsAt, more, Bool.and_false]
    have next : pad.behind wraps y x = ((y : Int), ((x + 1 : Nat) : Int)) := by
      rw [behind, more, Bool.and_false]
      rfl
    rw [fill_cons inside goesOn, next]
    exact @ih (pad.put y x (.written c reversed)) (x + 1) row (by change _ < pad.width; omega)

theorem write_eq {lettering : Lettering} (single : lettering.OneCellEach text)
    (row : y < pad.height) (columns : x + text.length < pad.width) :
    write lettering y x reversed text pad = .ok () (pad.written y x reversed text) := by
  rw [write, single.spread_eq, fill_eq lettering.wraps row columns]

theorem cellAt_written (whole : pad.Whole) (row : y < pad.height)
    (columns : x + text.length ≤ pad.width) :
    (pad.written y x reversed text).cellAt line place =
      if line = y ∧ x ≤ place ∧ place < x + text.length then
        .written (text.getD (place - x) ' ') reversed
      else pad.cellAt line place := by
  induction text generalizing pad x with
  | nil =>
    have nowhere : ¬ (line = y ∧ x ≤ place ∧ place < x + 0) := by omega
    exact (if_neg nowhere).symm
  | cons c rest ih =>
    rw [List.length_cons] at columns ⊢
    have later : x + 1 + rest.length ≤ (pad.put y x (.written c reversed)).width := by
      change _ ≤ pad.width
      omega
    rw [written, ih (whole.put y x _) row later, cellAt_put whole row (by omega)]
    by_cases first : line = y ∧ place = x
    · obtain ⟨rfl, rfl⟩ := first
      simp
    · by_cases behind : line = y ∧ x + 1 ≤ place ∧ place < x + 1 + rest.length
      · have within : line = y ∧ x ≤ place ∧ place < x + (rest.length + 1) := by omega
        have step : place - x = place - (x + 1) + 1 := by omega
        rw [if_pos behind, if_pos within, step, List.getD_cons_succ]
      · have outside : ¬ (line = y ∧ x ≤ place ∧ place < x + (rest.length + 1)) := by omega
        rw [if_neg behind, if_neg first, if_neg outside]

/-! ### Equal pads -/

theorem cellAt_div_mod (whole : pad.Whole) {position : Nat} (inside : position < pad.cells.size) :
    pad.cellAt (position / pad.width) (position % pad.width) = pad.cells[position] := by
  have wide : 0 < pad.width := by
    rw [Nat.pos_iff_ne_zero]
    intro none
    rw [whole, none, Nat.mul_zero] at inside
    exact Nat.not_lt_zero position inside
  rw [cellAt, if_pos (Nat.mod_lt position wide), Nat.mul_comm, Nat.div_add_mod,
    Array.getD_eq_getD_getElem?, Array.getElem?_eq_getElem inside, Option.getD_some]

theorem eq_of_cellAt_eq (whole : pad.Whole) (wholeToo : other.Whole)
    (height : pad.height = other.height) (width : pad.width = other.width)
    (same : ∀ y x, pad.cellAt y x = other.cellAt y x) : pad = other := by
  have cells : pad.cells = other.cells := by
    apply Array.ext
    · rw [whole, wholeToo, height, width]
    · intro position inside insideToo
      rw [← cellAt_div_mod whole inside, ← cellAt_div_mod wholeToo insideToo, same, width]
  calc pad
    _ = ⟨pad.height, pad.width, pad.cells⟩ := rfl
    _ = ⟨other.height, other.width, other.cells⟩ := by rw [height, width, cells]

end Pad

end Chip8.Display
