import Chip8.Proofs.Action
import Chip8.Proofs.Framebuffer.Basic

/-! # Updates and displays

A framebuffer is written and presented in any order, and to displays that may fail. Whatever
writes it marks it, and only a display that showed its cells clears the mark. So the cells of a
framebuffer without a mark are those that a display was handed last.
-/

namespace Chip8

namespace Framebuffer

/-- What something leaves of a framebuffer: the framebuffer as it was, or one marked as written. -/
def Marked (before after : Framebuffer) : Prop := after = before ∨ after.dirty = true

instance : Std.Refl Marked := ⟨fun _ => .inl rfl⟩

instance : Trans Marked Marked Marked where
  trans {first second third} early late := by
    rcases late with rfl | dirty
    · exact early
    · exact .inr dirty

theorem Marked.refl (framebuffer : Framebuffer) : Marked framebuffer framebuffer := .inl rfl

theorem Marked.dirty {before after : Framebuffer} (marked : Marked before after)
    (changed : after.cells ≠ before.cells) : after.dirty = true := by
  rcases marked with rfl | dirty
  · exact absurd rfl changed
  · exact dirty

theorem marked_xorPixel (x y : Int) : Relates Marked (xorPixel x y) := by
  intro framebuffer
  simp only [leftBy, xorPixel]
  cases framebuffer.locate x y with
  | error fault => exact .refl framebuffer
  | ok location =>
    cases held : framebuffer.cells.read location with
    | error fault =>
      simp only [held]
      exact .refl framebuffer
    | ok pixel =>
      cases checked : framebuffer.cells.check location with
      | error fault =>
        simp only [held, checked]
        exact .refl framebuffer
      | ok =>
        simp only [held, checked]
        exact .inr rfl

theorem marked_xorPixels (pixels : List (Int × Int)) : Relates Marked (xorPixels pixels) := by
  induction pixels with
  | nil => exact .pure false
  | cons pixel rest ih =>
    obtain ⟨x, y⟩ := pixel
    refine (marked_xorPixel x y).bind fun lit => ih.bind fun more => ?_
    exact .pure (lit || more)

theorem marked_drawSprite (x y : Int) (rows : List UInt8) :
    Relates Marked (drawSprite x y rows) := by
  intro framebuffer
  by_cases extent : framebuffer.width = 0 ∨ framebuffer.height = 0
  · simp only [leftBy, drawSprite, if_pos extent]
    exact .refl framebuffer
  · simp only [leftBy, drawSprite, if_neg extent]
    exact marked_xorPixels _ framebuffer

/-- A picture that a display was handed, and whether it showed it. -/
structure Handover where
  cells : Array UInt8
  shown : Bool
deriving DecidableEq, Repr

variable {ε σ : Type}

/-- A display that takes note of every picture that it is handed, the latest first. -/
def recording (draw : Array UInt8 → EStateM ε σ Unit) (cells : Array UInt8) :
    EStateM ε (σ × List Handover) Unit := fun (display, handed) =>
  match draw cells display with
  | .ok () display => .ok () (display, ⟨cells, true⟩ :: handed)
  | .error fault display => .error fault (display, ⟨cells, false⟩ :: handed)

end Framebuffer

/-- A framebuffer and its display, with the pictures that the display was handed. -/
structure Screen (σ : Type) where
  framebuffer : Framebuffer
  display : σ
  handed : List Framebuffer.Handover := []

namespace Screen

open Framebuffer (Handover recording Marked)

variable {ε σ : Type} {screen : Screen σ} {draw : Array UInt8 → EStateM ε σ Unit}

/-- Presents the framebuffer, and tells how that ended. -/
def present (screen : Screen σ) (draw : Array UInt8 → EStateM ε σ Unit) :
    Except ε Bool × Screen σ :=
  match screen.framebuffer.present (recording draw) (screen.display, screen.handed) with
  | .ok (drawn, framebuffer) (display, handed) => (.ok drawn, { framebuffer, display, handed })
  | .error fault (display, handed) => (.error fault, { screen with display, handed })

/-- What is done to a framebuffer. Each time it is presented, a display may draw differently. -/
inductive Operation (ε σ : Type) where
  | clear
  | xorPixel (x y : Int)
  | drawSprite (x y : Int) (rows : List UInt8)
  | present (draw : Array UInt8 → EStateM ε σ Unit)

def write (screen : Screen σ) (framebuffer : Framebuffer) : Screen σ := { screen with framebuffer }

/-- The screen that an operation leaves, whether or not it fails. -/
def perform (screen : Screen σ) : Operation ε σ → Screen σ
  | .clear => screen.write screen.framebuffer.clear
  | .xorPixel x y => screen.write (leftBy (Framebuffer.xorPixel x y) screen.framebuffer)
  | .drawSprite x y rows =>
      screen.write (leftBy (Framebuffer.drawSprite x y rows) screen.framebuffer)
  | .present draw => (screen.present draw).2

def run (screen : Screen σ) (operations : List (Operation ε σ)) : Screen σ :=
  operations.foldl perform screen

/-- The cells are those that the display was handed last, and it showed them; all of them are dark
if it was never handed any. -/
def UpToDate (screen : Screen σ) : Prop :=
  screen.handed.head? = some ⟨screen.framebuffer.view, true⟩ ∨
    (screen.handed = [] ∧ ∀ cell ∈ screen.framebuffer.view, cell = 0)

/-! ### Presenting once -/

theorem present_clean (clean : screen.framebuffer.dirty = false) :
    screen.present draw = (.ok false, screen) := by
  simp only [present, Framebuffer.present, clean, Bool.false_eq_true, if_false]
  rfl

theorem present_shown {shown : σ} (dirty : screen.framebuffer.dirty = true)
    (drew : draw screen.framebuffer.view screen.display = .ok () shown) :
    screen.present draw =
      (.ok true,
        { framebuffer := { screen.framebuffer with dirty := false }
          display := shown
          handed := ⟨screen.framebuffer.view, true⟩ :: screen.handed }) := by
  simp only [present, Framebuffer.present, dirty, if_true, bind, EStateM.bind, recording, drew]
  rfl

theorem present_failed {fault : ε} {failed : σ} (dirty : screen.framebuffer.dirty = true)
    (failure : draw screen.framebuffer.view screen.display = .error fault failed) :
    screen.present draw =
      (.error fault,
        { screen with
          display := failed
          handed := ⟨screen.framebuffer.view, false⟩ :: screen.handed }) := by
  simp only [present, Framebuffer.present, dirty, if_true, bind, EStateM.bind, recording, failure]

/-- A framebuffer that was written is handed over, whether or not the display shows it. -/
theorem handed_present (dirty : screen.framebuffer.dirty = true) :
    ∃ shown, (screen.present draw).2.handed =
      ⟨screen.framebuffer.view, shown⟩ :: screen.handed := by
  cases drew : draw screen.framebuffer.view screen.display with
  | ok _ shown => exact ⟨true, by rw [present_shown dirty drew]⟩
  | error fault failed => exact ⟨false, by rw [present_failed dirty drew]⟩

/-! ### Runs -/

/-- A framebuffer without a mark is up to date. -/
def Faithful (screen : Screen σ) : Prop := screen.framebuffer.dirty = false → screen.UpToDate

theorem faithful_of_dirty (dirty : screen.framebuffer.dirty = true) : screen.Faithful := by
  intro clean
  rw [dirty] at clean
  cases clean

theorem Faithful.write (faithful : screen.Faithful) {framebuffer : Framebuffer}
    (marked : Marked screen.framebuffer framebuffer) : (screen.write framebuffer).Faithful := by
  rcases marked with rfl | dirty
  · exact faithful
  · exact faithful_of_dirty dirty

theorem Faithful.present (faithful : screen.Faithful) (draw : Array UInt8 → EStateM ε σ Unit) :
    (screen.present draw).2.Faithful := by
  cases marked : screen.framebuffer.dirty with
  | false =>
    rw [present_clean marked]
    exact faithful
  | true =>
    cases drew : draw screen.framebuffer.view screen.display with
    | ok _ shown =>
      rw [present_shown marked drew]
      exact fun _ => .inl rfl
    | error fault failed =>
      rw [present_failed marked drew]
      exact faithful_of_dirty marked

theorem Faithful.perform (faithful : screen.Faithful) (operation : Operation ε σ) :
    (screen.perform operation).Faithful := by
  cases operation with
  | clear => exact faithful.write (.inr rfl)
  | xorPixel x y => exact faithful.write (Framebuffer.marked_xorPixel x y _)
  | drawSprite x y rows => exact faithful.write (Framebuffer.marked_drawSprite x y rows _)
  | present draw => exact faithful.present draw

theorem Faithful.run (faithful : screen.Faithful) (operations : List (Operation ε σ)) :
    (screen.run operations).Faithful := by
  induction operations generalizing screen with
  | nil => exact faithful
  | cons operation rest ih => exact ih (faithful.perform operation)

/-- A framebuffer is built dark. -/
theorem faithful_of_ofSize {width height room : Int} {framebuffer : Framebuffer}
    (built : Framebuffer.ofSize width height room = .ok framebuffer) (display : σ) :
    Faithful { framebuffer, display } := by
  intro clean
  refine .inr ⟨rfl, ?_⟩
  simp only [Framebuffer.ofSize, Memory.ofSize] at built
  split at built
  · next cells sized =>
    cases built
    split at sized
    · cases sized
    · split at sized
      · cases sized
      · cases sized
        intro cell member
        exact Array.eq_of_mem_replicate member
  · cases built

end Screen

end Chip8
