import Chip8.Display.Terminal
import Chip8.Proofs.Display.Pad
import Mathlib.Data.List.GetD

/-! # Pictures on a terminal

A pad that was made for a picture has the title in its top row and below it as many cells for each
pixel as the scale says. Drawing covers just these cells, whatever is on them, so that the pad shows
the picture drawn last and nothing of the ones before.
-/

namespace Chip8

namespace Display

variable {width height scale : Nat} {pad : Pad} {pixels : List UInt8} {location line place : Nat}

/-- The cells of a picture, each of them dark or lit. -/
structure IsPicture (width height : Nat) (cells : Array UInt8) : Prop where
  size : cells.size = width * height
  darkOrLit : ∀ cell ∈ cells, cell = 0 ∨ cell = 1

/-- A pad of the extent that a picture is given. -/
structure Pad.Framed (width height scale : Nat) (pad : Pad) : Prop where
  whole : pad.Whole
  high : pad.height = height + 2
  wide : pad.width = width * scale + 1

theorem Pad.Framed.written (framed : pad.Framed width height scale) (y x : Nat) (reversed : Bool)
    (text : List Char) : (pad.written y x reversed text).Framed width height scale where
  whole := framed.whole.written y x reversed text
  high := (pad.frame_written y x reversed text).1.trans framed.high
  wide := (pad.frame_written y x reversed text).2.trans framed.wide

theorem columns_le (wide : 0 < width) : location % width * scale + scale ≤ width * scale := by
  rw [← Nat.succ_mul]
  exact Nat.mul_le_mul_right scale (Nat.mod_lt location wide)

/-- The blanks of a pixel stay in a row of the pad. -/
theorem Pad.Framed.holds_pixel (framed : pad.Framed width height scale) (wide : 0 < width)
    (inside : location < width * height) :
    location / width + 1 < pad.height ∧
      location % width * scale + (List.replicate scale ' ').length < pad.width := by
  rw [framed.high, framed.wide, List.length_replicate]
  have row : location / width < height := Nat.div_lt_of_lt_mul inside
  exact ⟨by omega, Nat.lt_succ_of_le (columns_le wide)⟩

/-- A pad shows a picture below a title, and nothing else. -/
structure Pad.Shows (width height scale : Nat) (title : String) (cells : Array UInt8)
    (pad : Pad) : Prop where
  title : ∀ column < width * scale,
    pad.cellAt 0 column = .written (title.toList.getD column ' ') true
  picture : ∀ row < height, ∀ column < width * scale,
    pad.cellAt (row + 1) column =
      .written ' ' (cells[row * width + column / scale]? = some 1)
  margin : ∀ line column, height < line ∨ width * scale ≤ column →
    pad.cellAt line column = .untouched

/-- What a pad shows tells the pad. -/
theorem Pad.Shows.unique {other : Pad} {title : String} {cells : Array UInt8}
    (shows : pad.Shows width height scale title cells)
    (showsToo : other.Shows width height scale title cells)
    (framed : pad.Framed width height scale) (framedToo : other.Framed width height scale) :
    pad = other := by
  apply Pad.eq_of_cellAt_eq framed.whole framedToo.whole
    (framed.high.trans framedToo.high.symm) (framed.wide.trans framedToo.wide.symm)
  intro line column
  by_cases outside : height < line ∨ width * scale ≤ column
  · rw [shows.margin line column outside, showsToo.margin line column outside]
  · obtain ⟨low, inside⟩ := not_or.mp outside
    cases line with
    | zero => rw [shows.title column (by omega), showsToo.title column (by omega)]
    | succ row =>
      rw [shows.picture row (by omega) column (by omega),
        showsToo.picture row (by omega) column (by omega)]

namespace Terminal

/-- A pad with rows and columns is made where the terminal can and the host has room for it. -/
theorem checkPad_ok_iff {traits : TerminalTraits} {rows columns : Nat} (high : 0 < rows)
    (wide : 0 < columns) :
    checkPad traits rows columns = .ok () ↔
      traits.refusesPad rows columns = false ∧ Extent.Fits traits.room rows ∧
        Extent.Fits traits.room columns ∧ ((rows * columns : Nat) : Int) < traits.room := by
  have widest : max (columns : Int) 1 = columns := by omega
  have filled : rows ≠ 0 := Nat.pos_iff_ne_zero.mp high
  rw [← Extent.check_ok_iff, ← Extent.check_ok_iff, checkPad, widest]
  cases Extent.check traits.room rows with
  | error fault => simp
  | ok made =>
    cases traits.refusesPad rows columns with
    | true => simp
    | false =>
      cases Extent.check traits.room columns with
      | error fault => simp [filled]
      | ok made =>
        by_cases large : traits.room ≤ rows * columns
        · simp [filled, large, Int.not_lt.mpr large]
        · simp [filled, large, Int.not_le.mp large]

/-! ### Pixels -/

/-- The pad with pixels from a location on. -/
def withPixels (width scale : Nat) (pad : Pad) : Nat → List UInt8 → Pad
  | _, [] => pad
  | location, pixel :: rest =>
      withPixels width scale
        (pad.written (location / width + 1) (location % width * scale) (pixel ≠ 0)
          (List.replicate scale ' '))
        (location + 1) rest

theorem framed_withPixels (framed : pad.Framed width height scale) :
    (withPixels width scale pad location pixels).Framed width height scale := by
  induction pixels generalizing pad location with
  | nil => exact framed
  | cons pixel rest ih => exact ih (framed.written _ _ _ _)

theorem drawPixels_eq {lettering : Lettering} (blank : lettering.cellsOf ' ' = 1)
    (wide : 0 < width) (framed : pad.Framed width height scale)
    (fits : location + pixels.length ≤ width * height) :
    drawPixels lettering width scale location pixels pad =
      .ok () (withPixels width scale pad location pixels) := by
  induction pixels generalizing pad location with
  | nil => rfl
  | cons pixel rest ih =>
    rw [List.length_cons] at fits
    obtain ⟨row, columns⟩ := framed.holds_pixel wide (by omega : location < width * height)
    have stretch : Pad.write lettering (Int.fdiv location width + 1)
        (Int.fmod location width * scale) (pixel ≠ 0) (blanks scale) pad =
        .ok () (pad.written (location / width + 1) (location % width * scale) (pixel ≠ 0)
          (List.replicate scale ' ')) := by
      rw [← Int.ofNat_fdiv, ← Int.ofNat_fmod]
      exact Pad.write_eq (.replicate blank scale) row columns
    rw [drawPixels, if_neg (by omega)]
    exact (bind_ok stretch).trans (ih (framed.written _ _ _ _) (by omega))

/-- The cells of a pixel are the ones whose place in the picture is the pixel's location. -/
theorem covers_iff (wide : 0 < width) (thick : 0 < scale) :
    (line = location / width + 1 ∧ location % width * scale ≤ place ∧
        place < location % width * scale + scale) ↔
      1 ≤ line ∧ place < width * scale ∧ (line - 1) * width + place / scale = location := by
  have split := Nat.div_add_mod' location width
  constructor
  · rintro ⟨rfl, first, last⟩
    have column : place / scale = location % width :=
      Nat.div_eq_of_lt_le first (by rwa [Nat.succ_mul])
    refine ⟨Nat.le_add_left 1 _, Nat.lt_of_lt_of_le last (columns_le wide), ?_⟩
    rw [Nat.add_sub_cancel, column, split]
  · rintro ⟨below, within, same⟩
    have column : place / scale < width := Nat.div_lt_of_lt_mul (by rwa [Nat.mul_comm])
    obtain ⟨rows, columns⟩ :=
      Pad.position_inj column (Nat.mod_lt location wide) (same.trans split.symm)
    have parts := Nat.div_add_mod' place scale
    have rest := Nat.mod_lt place thick
    rw [← columns]
    omega

theorem cellAt_withPixels (wide : 0 < width) (thick : 0 < scale)
    (framed : pad.Framed width height scale) (fits : location + pixels.length ≤ width * height) :
    (withPixels width scale pad location pixels).cellAt line place =
      if 1 ≤ line ∧ place < width * scale ∧
          location ≤ (line - 1) * width + place / scale ∧
          (line - 1) * width + place / scale < location + pixels.length then
        .written ' ' (pixels.getD ((line - 1) * width + place / scale - location) 0 ≠ 0)
      else pad.cellAt line place := by
  induction pixels generalizing pad location with
  | nil =>
    have nowhere : ¬ (1 ≤ line ∧ place < width * scale ∧
        location ≤ (line - 1) * width + place / scale ∧
        (line - 1) * width + place / scale < location + 0) := by omega
    exact (if_neg nowhere).symm
  | cons pixel rest ih =>
    rw [List.length_cons] at fits ⊢
    obtain ⟨row, columns⟩ := framed.holds_pixel wide (by omega : location < width * height)
    rw [withPixels, ih (framed.written _ _ _ _) (by omega),
      Pad.cellAt_written framed.whole row columns.le, List.length_replicate]
    simp only [covers_iff wide thick]
    generalize (line - 1) * width + place / scale = spot
    by_cases here : 1 ≤ line ∧ place < width * scale ∧ spot = location
    · obtain ⟨below, within, rfl⟩ := here
      simp [below, within]
    · by_cases later : 1 ≤ line ∧ place < width * scale ∧ location + 1 ≤ spot ∧
          spot < location + 1 + rest.length
      · have covered : 1 ≤ line ∧ place < width * scale ∧ location ≤ spot ∧
            spot < location + (rest.length + 1) := by omega
        have step : spot - location = spot - (location + 1) + 1 := by omega
        rw [if_pos later, if_pos covered, step, List.getD_cons_succ]
      · have elsewhere : ¬ (1 ≤ line ∧ place < width * scale ∧ location ≤ spot ∧
            spot < location + (rest.length + 1)) := by omega
        rw [if_neg later, if_neg here, if_neg elsewhere]

/-! ### The title -/

theorem titleLine_eq (title : List Char) (length : Nat) :
    titleLine title length =
      title.take length ++ List.replicate (length - (title.take length).length) ' ' := by
  have shown : cut title length = title.take length := if_neg (by omega)
  rw [titleLine, shown, blanks]
  congr 2
  omega

theorem oneCellEach_titleLine {lettering : Lettering} (blank : lettering.cellsOf ' ' = 1)
    {title : List Char} (single : lettering.OneCellEach title) (length : Nat) :
    lettering.OneCellEach (titleLine title length) := by
  rw [titleLine_eq]
  exact (single.take length).append (.replicate blank _)

theorem length_titleLine (title : List Char) (length : Nat) :
    (titleLine title length).length = length := by
  rw [titleLine_eq, List.length_append, List.length_replicate, List.length_take]
  omega

/-- The title stays in the top row. -/
theorem holds_titleLine (framed : pad.Framed width height scale) (title : List Char) :
    0 < pad.height ∧
      0 + (titleLine title ((width * scale : Nat) : Int)).length < pad.width := by
  rw [framed.high, framed.wide, length_titleLine]
  omega

theorem getD_titleLine {title : List Char} {length column : Nat} (inside : column < length) :
    (titleLine title length).getD column ' ' = title.getD column ' ' := by
  simp only [titleLine_eq, List.getD_eq_getElem?_getD, List.getElem?_append, List.length_take,
    List.getElem?_take, List.getElem?_replicate]
  by_cases titled : column < title.length
  · rw [if_pos (by omega), if_pos inside]
  · rw [if_neg (by omega), if_pos (by omega), List.getElem?_eq_none (Nat.not_lt.mp titled)]
    rfl

/-! ### Drawing -/

/-- The pad that a picture and its title leave. -/
def painted (width scale : Nat) (pad : Pad) (title : String) (cells : Array UInt8) : Pad :=
  (withPixels width scale pad 0 cells.toList).written 0 0 true
    (titleLine title.toList ((width * scale : Nat) : Int))

variable {title : String} {cells : Array UInt8}

theorem framed_painted (framed : pad.Framed width height scale) :
    (painted width scale pad title cells).Framed width height scale :=
  (framed_withPixels framed).written 0 0 true _

theorem cellAt_painted (wide : 0 < width) (thick : 0 < scale)
    (framed : pad.Framed width height scale) (size : cells.size = width * height) :
    (painted width scale pad title cells).cellAt line place =
      if line = 0 ∧ place < width * scale then .written (title.toList.getD place ' ') true
      else if 1 ≤ line ∧ place < width * scale ∧
          (line - 1) * width + place / scale < width * height then
        .written ' ' (cells.toList.getD ((line - 1) * width + place / scale) 0 ≠ 0)
      else pad.cellAt line place := by
  have long : (titleLine title.toList ((width * scale : Nat) : Int)).length = width * scale :=
    length_titleLine _ _
  have drawn : (withPixels width scale pad 0 cells.toList).Framed width height scale :=
    framed_withPixels framed
  obtain ⟨row, columns⟩ := holds_titleLine drawn title.toList
  have all : cells.toList.length = width * height := size
  rw [painted, Pad.cellAt_written drawn.whole row columns.le, long,
    cellAt_withPixels wide thick framed (by omega), all]
  simp only [Nat.zero_le, true_and, Nat.zero_add, Nat.sub_zero]
  by_cases titled : line = 0 ∧ place < width * scale
  · rw [if_pos titled, if_pos titled, getD_titleLine titled.2]
  · rw [if_neg titled, if_neg titled]

theorem shows_painted (wide : 0 < width) (thick : 0 < scale)
    (framed : pad.Framed width height scale) (picture : IsPicture width height cells)
    (margin : ∀ line column, height < line ∨ width * scale ≤ column →
      pad.cellAt line column = .untouched) :
    (painted width scale pad title cells).Shows width height scale title cells where
  title column inside := by
    rw [cellAt_painted wide thick framed picture.size, if_pos ⟨rfl, inside⟩]
  picture row below column inside := by
    have spot : row * width + column / scale < width * height := by
      rw [Nat.mul_comm width]
      exact Pad.position_lt below (Nat.div_lt_of_lt_mul (by rwa [Nat.mul_comm]))
    have within : row * width + column / scale < cells.size := picture.size ▸ spot
    rw [cellAt_painted wide thick framed picture.size, if_neg (by omega), Nat.add_sub_cancel,
      if_pos ⟨Nat.le_add_left 1 row, inside, spot⟩, Array.getElem?_eq_getElem within,
      List.getD_eq_getElem _ _ within, Array.getElem_toList]
    obtain dark | lit := picture.darkOrLit _ (Array.getElem_mem within)
    · rw [dark]
      rfl
    · rw [lit]
      rfl
  margin line column outside := by
    have below : ¬ (1 ≤ line ∧ column < width * scale ∧
        (line - 1) * width + column / scale < width * height) := by
      rintro ⟨first, inside, spot⟩
      have low : height ≤ line - 1 := by omega
      have past := Nat.mul_le_mul_right width low
      rw [Nat.mul_comm width] at spot
      exact Nat.not_lt.mpr (Nat.le_trans past (Nat.le_add_right _ _)) spot
    rw [cellAt_painted wide thick framed picture.size, if_neg (by omega), if_neg below,
      margin line column outside]

/-- A terminal that was given a picture's size, and its pad. -/
structure Ready (width height scale : Nat) (terminal : Terminal) (pad : Pad) : Prop where
  sized : terminal.canvas.width = width
  scaled : terminal.scale = scale
  padded : terminal.pad = some pad
  framed : pad.Framed width height scale
  room : Extent.Fits terminal.traits.room ((width * scale : Nat) : Int)
  margin : ∀ line column, height < line ∨ width * scale ≤ column →
    pad.cellAt line column = .untouched

/-- A terminal on which blanks and the characters of a title take one cell each. -/
structure OneCellTitle (traits : TerminalTraits) (title : String) : Prop where
  blank : traits.lettering.cellsOf ' ' = 1
  single : traits.lettering.OneCellEach title.toList

variable {terminal : Terminal}

theorem Ready.setTitle (ready : terminal.Ready width height scale pad) (title : String) :
    (terminal.setTitle title).display.Ready width height scale pad := { ready with }

theorem Ready.drawAll_eq (ready : terminal.Ready width height scale pad)
    (titled : OneCellTitle terminal.traits terminal.title) (wide : 0 < width)
    (size : cells.size = width * height) :
    terminal.drawAll cells pad = .ok () (painted width scale pad terminal.title cells) := by
  have all : 0 + cells.toList.length ≤ width * height := by
    rw [Nat.zero_add]
    exact Nat.le_of_eq size
  have drawn : (withPixels width scale pad 0 cells.toList).Framed width height scale :=
    framed_withPixels ready.framed
  obtain ⟨row, columns⟩ := holds_titleLine drawn terminal.title.toList
  have headed : drawTitle terminal.traits (width * scale) terminal.title
      (withPixels width scale pad 0 cells.toList) =
      .ok () (painted width scale pad terminal.title cells) := by
    have accepted : Extent.check terminal.traits.room ((width : Int) * scale) = .ok () :=
      Extent.check_ok_iff.mpr ready.room
    rw [drawTitle, accepted]
    exact Pad.write_eq (oneCellEach_titleLine titled.blank titled.single _) row columns
  rw [drawAll, ready.sized, ready.scaled]
  exact (bind_ok (drawPixels_eq titled.blank wide ready.framed all)).trans headed

theorem Ready.draw_eq (ready : terminal.Ready width height scale pad)
    (titled : OneCellTitle terminal.traits terminal.title) (wide : 0 < width)
    (size : cells.size = width * height) :
    terminal.draw cells =
      { display :=
          { terminal with
            pad := some (painted width scale pad terminal.title cells)
            canvas := terminal.canvas.countDraw }
        commands := [.refresh (terminal.traits.screen.1 - 1) (terminal.traits.screen.2 - 1)
          (painted width scale pad terminal.title cells).rows]
        unfinished :=
          { terminal with pad := some (painted width scale pad terminal.title cells) } } := by
  rw [Terminal.draw, ready.padded]
  dsimp only
  rw [ready.drawAll_eq titled wide size]

/-- Drawing prepares the terminal for the next picture. -/
theorem Ready.draw (ready : terminal.Ready width height scale pad)
    (titled : OneCellTitle terminal.traits terminal.title) (wide : 0 < width) (thick : 0 < scale)
    (picture : IsPicture width height cells) :
    (terminal.draw cells).display.Ready width height scale
      (painted width scale pad terminal.title cells) := by
  rw [ready.draw_eq titled wide picture.size]
  exact {
    sized := ready.sized
    scaled := ready.scaled
    padded := rfl
    framed := framed_painted ready.framed
    room := ready.room
    margin := (shows_painted wide thick ready.framed picture ready.margin).margin }

/-! ### Sizes -/

theorem resize_eq {width height : Int} (extent : width ≠ 0 ∧ height ≠ 0) :
    terminal.resize width height =
      match checkPad terminal.traits (height + 2) (width * terminal.scale + 1) with
      | .error fault =>
          { display := terminal
            commands := [.newPad (height + 2) (width * terminal.scale + 1)]
            fault := some fault }
      | .ok () =>
          { display :=
              { terminal with
                canvas := terminal.canvas.resize width height
                pad := some (Pad.blank (height + 2).toNat (width * terminal.scale + 1).toNat) }
            commands := [.newPad (height + 2) (width * terminal.scale + 1)]
            unfinished := terminal } :=
  if_pos extent

theorem traits_resize (width height : Int) :
    (terminal.resize width height).display.traits = terminal.traits := by
  rw [resize]
  dsimp only
  split
  · split <;> rfl
  · rfl

theorem resize_fault_iff (wide : 0 < width) (high : 0 < height) :
    (terminal.resize width height).fault = none ↔
      checkPad terminal.traits (height + 2) (width * terminal.scale + 1) = .ok () := by
  have extent : (width : Int) ≠ 0 ∧ (height : Int) ≠ 0 := by omega
  rw [resize_eq extent]
  cases checkPad terminal.traits (height + 2) (width * terminal.scale + 1) with
  | error fault => exact iff_of_false nofun nofun
  | ok made => exact iff_of_true rfl rfl

/-- A picture is given its size where the terminal makes a pad of its extent, and there is room for
its cells. -/
theorem resize_fault (wide : 0 < width) (high : 0 < height) (scaled : terminal.scale = scale)
    (made : terminal.traits.refusesPad (height + 2) (width * scale + 1) = false)
    (room : Extent.Fits terminal.traits.room (((height + 2) * (width * scale + 1) : Nat) : Int)) :
    (terminal.resize width height).fault = none := by
  have rows : height + 2 ≤ (height + 2) * (width * scale + 1) :=
    Nat.le_mul_of_pos_right _ (Nat.succ_pos _)
  have columns : width * scale + 1 ≤ (height + 2) * (width * scale + 1) :=
    Nat.le_mul_of_pos_left _ (Nat.succ_pos _)
  rw [resize_fault_iff wide high, scaled]
  refine (@checkPad_ok_iff _ (height + 2) (width * scale + 1) (Nat.succ_pos _)
    (Nat.succ_pos _)).mpr ⟨made, ?_, ?_, room.2⟩
  · exact room.mono (Int.natCast_nonneg _) (Int.ofNat_le.mpr rows)
  · exact room.mono (Int.natCast_nonneg _) (Int.ofNat_le.mpr columns)

theorem ready_resize (wide : 0 < width) (high : 0 < height) (scaled : terminal.scale = scale)
    (sized : (terminal.resize width height).fault = none) :
    (terminal.resize width height).display.Ready width height scale
      (Pad.blank (height + 2) (width * scale + 1)) := by
  have made := (resize_fault_iff wide high).mp sized
  have extent : (width : Int) ≠ 0 ∧ (height : Int) ≠ 0 := by omega
  rw [scaled] at made
  obtain ⟨-, -, columns, -⟩ := (@checkPad_ok_iff _ (height + 2) (width * scale + 1)
    (Nat.succ_pos _) (Nat.succ_pos _)).mp made
  rw [resize_eq extent, scaled, made]
  exact {
    sized := rfl
    scaled := rfl
    padded := rfl
    framed := ⟨Pad.whole_blank _ _, rfl, rfl⟩
    room := columns.mono (Int.natCast_nonneg _) (Int.ofNat_le.mpr (Nat.le_succ _))
    margin := fun line column _ => Pad.cellAt_blank _ _ line column }

end Terminal

end Display

end Chip8
