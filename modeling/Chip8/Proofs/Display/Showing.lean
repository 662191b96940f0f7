import Chip8.Display.Any
import Chip8.Proofs.Display.Terminal
import Chip8.Proofs.Text.Fields

/-! # What displays show

A window and a terminal that were given a picture's size show the same picture, the one that was
drawn last, whatever they showed before it.
-/

namespace Chip8.Display

variable {width height : Nat} {cells : Array UInt8}

/-- The bytes of an image, three for each pixel. -/
def imageBytes (image : Array Colour) : List UInt8 :=
  image.toList.flatMap fun colour => [colour.red, colour.green, colour.blue]

/-- Bytes show a picture in the two colours of a window. -/
structure BytesShow (width height : Nat) (cells : Array UInt8) (bytes : List UInt8) : Prop where
  length : bytes.length = 3 * (width * height)
  pixel : ∀ position (inside : position < cells.size),
    (bytes.drop (3 * position)).take 3 =
      if cells[position] = 1 then [0xdd, 0xdd, 0xdd] else [0x22, 0x22, 0x22]

namespace Window

variable {window : Window} {pixels : List UInt8}

def shade (pixel : UInt8) : Colour := if pixel = 1 then foreground else background

theorem colour?_eq {pixel : UInt8} (darkOrLit : pixel = 0 ∨ pixel = 1) :
    colour? pixel = some (shade pixel) := by
  obtain rfl | rfl := darkOrLit <;> rfl

/-- Pixels are set in place of those that were there, and the others stay. -/
theorem setPixels_eq {front back : List Colour} (size : back.length = pixels.length)
    (darkOrLit : ∀ pixel ∈ pixels, pixel = 0 ∨ pixel = 1) :
    setPixels front.length pixels (front ++ back).toArray =
      .ok () (front ++ pixels.map shade).toArray := by
  induction pixels generalizing front back with
  | nil =>
    rw [List.length_eq_zero_iff.mp size]
    rfl
  | cons pixel rest ih =>
    obtain ⟨first, others⟩ := List.forall_mem_cons.mp darkOrLit
    cases back with
    | nil => cases size
    | cons old back =>
      have step : setPixels front.length (pixel :: rest) (front ++ old :: back).toArray =
          setPixels (front.length + 1) rest
            (setPixel (front ++ old :: back).toArray front.length (shade pixel)) := by
        rw [setPixels, colour?_eq first]
        rfl
      have inside : front.length < (front ++ old :: back).toArray.size := by simp
      have placed : setPixel (front ++ old :: back).toArray front.length (shade pixel) =
          ((front ++ [shade pixel]) ++ back).toArray := by
        rw [setPixel, if_pos inside, List.setIfInBounds_toArray,
          List.set_append_right _ _ (Nat.le_refl _), Nat.sub_self, List.set_cons_zero,
          List.append_assoc, List.singleton_append]
      have next : front.length + 1 = (front ++ [shade pixel]).length := by simp
      rw [step, placed, next, ih (Nat.succ.inj size) others, List.append_assoc]
      rfl

/-- A window that was given a picture's size, and its image. -/
structure Ready (width height : Nat) (window : Window) (image : Array Colour) : Prop where
  wide : window.canvas.width = width
  high : window.canvas.height = height
  imaged : window.pixels = some image
  size : image.size = width * height

variable {image : Array Colour}

theorem Ready.draw_eq (ready : window.Ready width height image)
    (picture : IsPicture width height cells) :
    window.draw cells =
      { display :=
          { window with
            pixels := some (cells.map shade)
            canvas := window.canvas.countDraw }
        commands := [
          .image (cells.map shade) width height,
          .stretch window.width window.width.half, .place 0 0, .flip]
        unfinished := { window with pixels := some (cells.map shade) } } := by
  have drawn : setPixels 0 cells.toList image = .ok () (cells.map shade) := by
    have all := @setPixels_eq cells.toList [] image.toList (ready.size.trans picture.size.symm)
      (fun cell member => picture.darkOrLit cell (Array.mem_toList_iff.mp member))
    rw [← Array.toList_map] at all
    exact all
  rw [draw, ready.imaged]
  dsimp only
  rw [drawn, ready.wide, ready.high]

theorem Ready.draw (ready : window.Ready width height image)
    (picture : IsPicture width height cells) :
    (window.draw cells).display.Ready width height (cells.map shade) := by
  rw [ready.draw_eq picture]
  exact {
    wide := ready.wide
    high := ready.high
    imaged := rfl
    size := Array.size_map.trans picture.size }

theorem bytesShow_shade (picture : IsPicture width height cells) :
    BytesShow width height cells (imageBytes (cells.map shade)) := by
  have wide : ∀ colour ∈ (cells.map shade).toList,
      [colour.red, colour.green, colour.blue].length = 3 := fun _ _ => rfl
  constructor
  · rw [imageBytes, length_flatMap_field wide, Array.length_toList, Array.size_map, picture.size,
      Nat.mul_comm]
  · intro position inside
    have within : position < (cells.map shade).toList.length := by simpa using inside
    rw [imageBytes, Nat.mul_comm, field_at wide within, Array.getElem_toList, Array.getElem_map,
      shade]
    split <;> rfl

theorem resize_eq {width height : Int} (extent : width ≠ 0 ∧ height ≠ 0) :
    window.resize width height =
      match Extent.check window.room (imageExtent (width * height)) with
      | .error fault => { display := window, fault := some (.extent fault) }
      | .ok () =>
          { display :=
              { window with
                canvas := window.canvas.resize width height
                pixels := some (Array.replicate (width * height).toNat background) } } :=
  if_pos extent

theorem width_resize (width height : Int) :
    (window.resize width height).display.width = window.width := by
  rw [resize]
  split
  · split <;> rfl
  · rfl

theorem resize_fault_iff (wide : 0 < width) (high : 0 < height) :
    (window.resize width height).fault = none ↔
      Extent.Fits window.room ((3 * (width * height) : Nat) : Int) := by
  have extent : (width : Int) ≠ 0 ∧ (height : Int) ≠ 0 := by omega
  have bytes : imageExtent ((width : Int) * height) = ((3 * (width * height) : Nat) : Int) := by
    rw [imageExtent, ← Int.natCast_mul]
    omega
  rw [resize_eq extent, bytes, ← Extent.check_ok_iff]
  cases Extent.check window.room ((3 * (width * height) : Nat) : Int) with
  | error fault => exact iff_of_false nofun nofun
  | ok made => exact iff_of_true rfl rfl

theorem ready_resize (wide : 0 < width) (high : 0 < height)
    (sized : (window.resize width height).fault = none) :
    (window.resize width height).display.Ready width height
      (Array.replicate (width * height) background) := by
  have extent : (width : Int) ≠ 0 ∧ (height : Int) ≠ 0 := by omega
  rw [resize_eq extent] at sized ⊢
  split at sized
  · cases sized
  · exact { wide := rfl, high := rfl, imaged := rfl, size := Array.size_replicate }

end Window

/-! ### Pictures in turn -/

/-- Gives a display a title and then a picture. -/
def present (title : String) (cells : Array UInt8) (display : Display) : Result Display :=
  (display.setTitle title).display.draw cells

/-- The display that is left by pictures in turn, each with its title. -/
def after (display : Display) (earlier : List (String × Array UInt8)) : Display :=
  earlier.foldl (fun display showing => (display.present showing.1 showing.2).display) display

variable {scale : Nat} {title : String} {earlier : List (String × Array UInt8)}

/-- A terminal was given its pad to show, with a picture below its title. -/
def OnTerminal (width height scale : Nat) (screen : Int × Int) (title : String)
    (cells : Array UInt8) (result : Result Display) : Prop :=
  result.fault = none ∧
    ∃ (later : Terminal) (pad : Pad),
      result.display = .terminal later ∧ later.pad = some pad ∧
        pad.Framed width height scale ∧ pad.Shows width height scale title cells ∧
        result.commands = [.refresh (screen.1 - 1) (screen.2 - 1) pad.rows]

/-- A window was given an image to show, whose bytes show a picture. -/
def InWindow (width height : Nat) (length : Length) (cells : Array UInt8)
    (result : Result Display) : Prop :=
  result.fault = none ∧
    ∃ (later : Window) (image : Array Colour),
      result.display = .window later ∧ BytesShow width height cells (imageBytes image) ∧
        result.commands =
          [.image image width height, .stretch length length.half, .place 0 0, .flip]

theorem terminal_after {terminal : Terminal} {pad : Pad} (wide : 0 < width) (thick : 0 < scale)
    (ready : terminal.Ready width height scale pad)
    (pictures : ∀ showing ∈ earlier, IsPicture width height showing.2)
    (titled : ∀ showing ∈ earlier, Terminal.OneCellTitle terminal.traits showing.1) :
    ∃ (later : Terminal) (left : Pad),
      (Display.terminal terminal).after earlier = .terminal later ∧
        later.traits = terminal.traits ∧ later.Ready width height scale left := by
  induction earlier generalizing terminal pad with
  | nil => exact ⟨terminal, pad, rfl, rfl, ready⟩
  | cons showing rest ih =>
    obtain ⟨first, others⟩ := List.forall_mem_cons.mp pictures
    obtain ⟨head, heads⟩ := List.forall_mem_cons.mp titled
    have given := ready.setTitle showing.1
    have same : ((terminal.setTitle showing.1).display.draw showing.2).display.traits =
        terminal.traits := by
      rw [given.draw_eq head wide first.size]
      rfl
    obtain ⟨later, left, drawn, traits, last⟩ :=
      ih (given.draw head wide thick first) others (by rw [same]; exact heads)
    exact ⟨later, left, drawn, traits.trans same, last⟩

theorem window_after {window : Window} {image : Array Colour}
    (ready : window.Ready width height image)
    (pictures : ∀ showing ∈ earlier, IsPicture width height showing.2) :
    ∃ (later : Window) (left : Array Colour),
      (Display.window window).after earlier = .window later ∧
        later.width = window.width ∧ later.Ready width height left := by
  induction earlier generalizing window image with
  | nil => exact ⟨window, image, rfl, rfl, ready⟩
  | cons showing rest ih =>
    obtain ⟨first, others⟩ := List.forall_mem_cons.mp pictures
    obtain ⟨later, left, same, length, last⟩ := ih (ready.draw first) others
    refine ⟨later, left, same, length.trans ?_, last⟩
    rw [ready.draw_eq first]

theorem onTerminal_present {terminal : Terminal} {pad : Pad} (wide : 0 < width) (thick : 0 < scale)
    (ready : terminal.Ready width height scale pad)
    (titled : Terminal.OneCellTitle terminal.traits title)
    (picture : IsPicture width height cells) :
    OnTerminal width height scale terminal.traits.screen title cells
      ((Display.terminal terminal).present title cells) := by
  have given := ready.setTitle title
  have shown := given.draw titled wide thick picture
  have drawn : (Display.terminal terminal).present title cells = _ :=
    congrArg (Result.map Display.terminal) (given.draw_eq titled wide picture.size)
  rw [drawn]
  rw [given.draw_eq titled wide picture.size] at shown
  exact ⟨rfl, _, _, rfl, shown.padded, shown.framed,
    Terminal.shows_painted wide thick ready.framed picture ready.margin, rfl⟩

theorem present_window {window : Window} {image : Array Colour}
    (ready : window.Ready width height image) (picture : IsPicture width height cells) :
    ((Display.window window).present title cells).commands =
      [.image (cells.map Window.shade) width height,
        .stretch window.width window.width.half, .place 0 0, .flip] :=
  congrArg Result.commands (ready.draw_eq picture)

theorem inWindow_present {window : Window} {image : Array Colour}
    (ready : window.Ready width height image) (picture : IsPicture width height cells) :
    InWindow width height window.width cells ((Display.window window).present title cells) := by
  have drawn : (Display.window window).present title cells = _ :=
    congrArg (Result.map Display.window) (ready.draw_eq picture)
  rw [drawn]
  exact ⟨rfl, _, _, rfl, Window.bytesShow_shade picture, rfl⟩

/-- What a terminal is given to show is told by the picture and its title alone. -/
theorem OnTerminal.commands_eq {screen : Int × Int} {result other : Result Display}
    (shown : OnTerminal width height scale screen title cells result)
    (shownToo : OnTerminal width height scale screen title cells other) :
    result.commands = other.commands := by
  obtain ⟨-, _, pad, -, -, framed, shows, commands⟩ := shown
  obtain ⟨-, _, padToo, -, -, framedToo, showsToo, commandsToo⟩ := shownToo
  rw [commands, commandsToo, shows.unique showsToo framed framedToo]

/-- A terminal and a window show the picture that was drawn last. They take any picture of a size
that they were given, and what they are given to show does not depend on the pictures before. On
the terminal, the characters of titles take one cell each. -/
theorem latest_picture_shown (wide : 0 < width) (high : 0 < height) (thick : 0 < scale)
    (terminal : Terminal) (scaled : terminal.scale = scale) (window : Window)
    (pictures : ∀ showing ∈ earlier, IsPicture width height showing.2)
    (picture : IsPicture width height cells) :
    let onTerminal := (Display.terminal terminal).resize width height
    let inWindow := (Display.window window).resize width height
    (terminal.traits.refusesPad (height + 2) (width * scale + 1) = false →
        Extent.Fits terminal.traits.room (((height + 2) * (width * scale + 1) : Nat) : Int) →
          onTerminal.fault = none) ∧
      (Extent.Fits window.room ((3 * (width * height) : Nat) : Int) → inWindow.fault = none) ∧
      (onTerminal.fault = none →
        (∀ showing ∈ (title, cells) :: earlier,
            Terminal.OneCellTitle terminal.traits showing.1) →
          OnTerminal width height scale terminal.traits.screen title cells
              ((onTerminal.display.after earlier).present title cells) ∧
            ((onTerminal.display.after earlier).present title cells).commands =
              (onTerminal.display.present title cells).commands) ∧
      (inWindow.fault = none →
        InWindow width height window.width cells
            ((inWindow.display.after earlier).present title cells) ∧
          ((inWindow.display.after earlier).present title cells).commands =
            (inWindow.display.present title cells).commands) := by
  intro onTerminal inWindow
  refine ⟨Terminal.resize_fault wide high scaled, (Window.resize_fault_iff wide high).mpr, ?_, ?_⟩
  · intro sized titles
    have ready := Terminal.ready_resize wide high scaled sized
    have traits : (terminal.resize width height).display.traits = terminal.traits :=
      Terminal.traits_resize width height
    obtain ⟨titled, titledBefore⟩ := List.forall_mem_cons.mp titles
    rw [← traits] at titled titledBefore
    obtain ⟨later, left, same, kept, last⟩ :=
      terminal_after wide thick ready pictures titledBefore
    have first := onTerminal_present wide thick ready titled picture
    rw [← kept] at titled
    have shown := onTerminal_present wide thick last titled picture
    rw [traits] at first
    rw [kept, traits] at shown
    change OnTerminal _ _ _ _ _ _ (((Display.terminal _).after earlier).present title cells) ∧
      (((Display.terminal _).after earlier).present title cells).commands = _
    rw [same]
    exact ⟨shown, shown.commands_eq first⟩
  · intro sized
    have ready := Window.ready_resize wide high sized
    have kept : (window.resize width height).display.width = window.width :=
      Window.width_resize width height
    obtain ⟨later, left, same, length, last⟩ := window_after ready pictures
    have shown := @inWindow_present _ _ _ title _ _ last picture
    rw [length, kept] at shown
    change InWindow _ _ _ _ (((Display.window _).after earlier).present title cells) ∧
      (((Display.window _).after earlier).present title cells).commands =
        ((Display.window _).present title cells).commands
    rw [same, present_window last picture, present_window ready picture, length]
    exact ⟨shown, rfl⟩

/-- A terminal on which accents take no cell of their own and ideographs take two, and whose pads
have fewer than 32768 rows and columns. -/
def wideTerminal : TerminalTraits where
  lettering := {
    cellsOf := fun c =>
      if 0x300 ≤ c.toNat ∧ c.toNat < 0x370 then 0
      else if 0x4e00 ≤ c.toNat ∧ c.toNat < 0xa000 then 2
      else 1
    wraps := true }
  refusesPad rows columns := rows ≤ 0 || columns ≤ 0 || 0x8000 ≤ rows || 0x8000 ≤ columns

/-- A picture of six pixels after two others. -/
theorem latest_picture_shown_third :
    OnTerminal 3 2 2 (24, 80) "Third" #[1, 0, 0, 0, 0, 1]
        ((((Display.terminal { scale := 2, traits := wideTerminal }).resize 3 2).display.after
            [("", #[1, 1, 1, 1, 1, 1]), ("The second one", #[0, 1, 0, 1, 0, 1])]).present
          "Third" #[1, 0, 0, 0, 0, 1]) ∧
      InWindow 3 2 (.whole 640) #[1, 0, 0, 0, 0, 1]
        ((((Display.window { width := .whole 640 }).resize 3 2).display.after
            [("", #[1, 1, 1, 1, 1, 1]), ("The second one", #[0, 1, 0, 1, 0, 1])]).present
          "Third" #[1, 0, 0, 0, 0, 1]) := by
  have lit : IsPicture 3 2 #[1, 1, 1, 1, 1, 1] := ⟨rfl, by simp⟩
  have striped : IsPicture 3 2 #[0, 1, 0, 1, 0, 1] := ⟨rfl, by simp⟩
  have corners : IsPicture 3 2 #[1, 0, 0, 0, 0, 1] := ⟨rfl, by simp⟩
  have titles : ∀ title ∈ ["Third", "", "The second one"],
      wideTerminal.lettering.OneCellEach title.toList := by
    simp [Lettering.OneCellEach, wideTerminal]
  obtain ⟨made, imaged, onTerminal, inWindow⟩ :=
    @latest_picture_shown 3 2 _ 2 "Third"
      [("", #[1, 1, 1, 1, 1, 1]), ("The second one", #[0, 1, 0, 1, 0, 1])]
      (by decide) (by decide) (by decide) { scale := 2, traits := wideTerminal } rfl
      { width := .whole 640 }
      (List.forall_mem_cons.mpr ⟨lit, List.forall_mem_singleton.mpr striped⟩) corners
  have padded := made rfl ⟨by decide, by decide⟩
  have shown := onTerminal padded fun showing member =>
    ⟨rfl, titles showing.1 (List.mem_map.mpr ⟨showing, member, rfl⟩)⟩
  exact ⟨shown.1, (inWindow (imaged ⟨by decide, by decide⟩)).1⟩

/-- A title of six ideographs, cut to as many characters as the picture has columns, reaches beyond
the picture and into the row below it. -/
example :
    (match Pad.write wideTerminal.lettering 0 0 true
        (Terminal.titleLine (List.replicate 6 '漢') 6) (Pad.blank 4 7) with
      | .ok _ pad => some (pad.cellAt 0 6, pad.cellAt 1 0)
      | .error _ _ => none) = some (.written '漢' true, .written '漢' true) := by
  decide +kernel

end Chip8.Display
