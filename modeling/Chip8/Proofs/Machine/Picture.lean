import Chip8.Proofs.Machine.Operations
import Chip8.Proofs.Machine.Sparing

/-! # The picture of a machine

On any machine, whatever its parts are like, the picture is only written by what marks it: by the
instructions that clear it and draw on it, and by a reset. Together with what presenting does this
means that no change of the picture is kept from the display.
-/

namespace Chip8

namespace Machine

open Framebuffer (Marked)

variable {machine : Machine}

/-- The picture is as it was, or marked as written. -/
def PictureMarked (before after : Machine) : Prop := Marked before.framebuffer after.framebuffer

instance : Std.Refl PictureMarked := ⟨fun machine => .refl machine.framebuffer⟩

instance : Trans PictureMarked PictureMarked PictureMarked where
  trans {first _ third} early late :=
    (Trans.trans early late : Marked first.framebuffer third.framebuffer)

theorem pictureMarked_execute (instruction : Instruction) :
    Relates PictureMarked (execute instruction) := by
  intro machine
  cases tests : instruction.testsKey with
  | false => exact (sparesKeys_execute tests machine).picture
  | true =>
    obtain ⟨x, skipsWhenDown, -, ran⟩ := execute_of_testsKey tests machine
    rw [leftBy_ok ran]
    exact .refl machine.framebuffer

theorem pictureMarked_cycle (machine : Machine) :
    PictureMarked machine machine.cycle.machine := by
  cases executes : machine.executing? with
  | none => exact (sparesKeys_cycle executes).picture
  | some execution =>
    obtain ⟨fetches, left⟩ := cycle_of_executing executes
    have fetched : PictureMarked machine execution.2 := fetches.picture
    rw [left]
    exact Trans.trans fetched (pictureMarked_execute execution.1 execution.2)

/-- An operation that changes a cell marks the picture. -/
theorem dirty_perform (operation : Operation)
    (changed : (machine.perform operation).machine.framebuffer.cells ≠
      machine.framebuffer.cells) :
    (machine.perform operation).machine.framebuffer.dirty = true := by
  cases operation with
  | load program =>
    rw [perform, machine_outcome] at changed ⊢
    exact (sparesKeys_load program machine).picture.dirty changed
  | reset =>
    rw [perform, machine_outcome] at changed ⊢
    exact (sparesKeys_reset machine).picture.dirty changed
  | cycle => exact (pictureMarked_cycle machine).dirty changed
  | tick | keys => exact absurd rfl changed
  | present shows =>
    rw [perform, Framebuffer.afterPresent_eq] at changed
    exact absurd rfl changed

end Machine

namespace Screen

open Framebuffer (Handover)

variable {ε σ : Type}

/-- However a framebuffer is written and presented after it was built, its display was handed the
latest cells unless the framebuffer is marked. Presenting hands the cells over once if it is
marked, and clears the mark if the display shows them; a display that fails is handed them again.
No operation of a machine changes a cell without a mark. -/
theorem no_update_lost {width height room : Int} {framebuffer : Framebuffer}
    (built : Framebuffer.ofSize width height room = .ok framebuffer) (display : σ)
    (operations : List (Operation ε σ)) :
    let screen := run { framebuffer, display } operations
    (screen.framebuffer.dirty = false → screen.UpToDate) ∧
    (∀ draw : Array UInt8 → EStateM ε σ Unit,
      (screen.framebuffer.dirty = false → screen.present draw = (.ok false, screen)) ∧
      (∀ shown, screen.framebuffer.dirty = true →
        draw screen.framebuffer.view screen.display = .ok () shown →
        screen.present draw =
          (.ok true,
            { framebuffer := { screen.framebuffer with dirty := false }
              display := shown
              handed := ⟨screen.framebuffer.view, true⟩ :: screen.handed })) ∧
      (∀ fault failed, screen.framebuffer.dirty = true →
        draw screen.framebuffer.view screen.display = .error fault failed →
        let left : Screen σ :=
          { framebuffer := screen.framebuffer
            display := failed
            handed := ⟨screen.framebuffer.view, false⟩ :: screen.handed }
        screen.present draw = (.error fault, left) ∧
        ∀ again : Array UInt8 → EStateM ε σ Unit, ∃ shown,
          (left.present again).2.handed = ⟨screen.framebuffer.view, shown⟩ :: left.handed)) ∧
    (∀ (machine : Machine) (operation : Machine.Operation),
      (machine.perform operation).machine.framebuffer.cells ≠ machine.framebuffer.cells →
      (machine.perform operation).machine.framebuffer.dirty = true) := by
  intro screen
  have faithful : screen.Faithful := (faithful_of_ofSize built display).run operations
  refine ⟨faithful, ?_, fun machine operation => Machine.dirty_perform operation⟩
  intro draw
  refine ⟨present_clean, fun shown => present_shown, ?_⟩
  intro fault failed dirty failure left
  exact ⟨present_failed dirty failure, fun again => handed_present dirty⟩

/-- A display that fails on the first picture and counts the others. -/
def slowStarter : Array UInt8 → EStateM Unit Nat Unit := fun _ pictures =>
  if pictures = 0 then .error () 1 else .ok () (pictures + 1)

/-- Sprites that meet themselves at the edges of a narrow picture, which is shown in the end. -/
def narrowDrawing : List (Operation Unit Nat) :=
  [.present slowStarter, .xorPixel (-1) 7, .drawSprite (-2) 4 [0xff, 0x81], .present slowStarter,
    .drawSprite 1 1 [0, 0x70], .present slowStarter, .drawSprite 3 3 []]

theorem no_update_lost_narrowDrawing :
    ∃ framebuffer, Framebuffer.ofSize 5 3 = .ok framebuffer ∧
      let screen := run { framebuffer, display := 0 } narrowDrawing
      screen.framebuffer.dirty = false ∧ screen.handed.length = 2 ∧
      screen.handed.head? = some ⟨screen.framebuffer.view, true⟩ := by
  refine ⟨⟨5, 3, Memory.zeros 15, false⟩, rfl, ?_⟩
  intro screen
  obtain ⟨clean, pictures⟩ : screen.framebuffer.dirty = false ∧ screen.handed.length = 2 := by
    decide +kernel
  have built : Framebuffer.ofSize 5 3 = .ok ⟨5, 3, Memory.zeros 15, false⟩ := rfl
  refine ⟨clean, pictures, ?_⟩
  rcases (no_update_lost built 0 narrowDrawing).1 clean with latest | ⟨none, -⟩
  · exact latest
  · rw [none] at pictures
    cases pictures

end Screen

end Chip8
