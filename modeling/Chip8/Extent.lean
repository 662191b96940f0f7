import Chip8.Width

/-! # Extents

How many bytes, characters or cells something is to have. An extent that the host cannot count is
refused, and so is one that it has no room for. An extent below zero is not refused here, since
some things are empty then and others cannot be.
-/

namespace Chip8.Extent

inductive Fault where
  /-- The host's counts are too narrow. -/
  | tooWide (extent : Int)
  /-- The host's memory is too small. -/
  | tooLarge (extent : Int)
deriving DecidableEq, Repr

/-- The room of a host unless it is told. -/
def commonRoom : Int := 0x10000000000

/-- An extent that a host can count and has room for. -/
def Fits (room extent : Int) : Prop := Width.fits64 extent = true ∧ extent < room

/-- Refuses an extent that nothing can have in a room. -/
def check (room extent : Int) : Except Fault Unit :=
  if !Width.fits64 extent then .error (.tooWide extent)
  else if room ≤ extent then .error (.tooLarge extent)
  else .ok ()

def Fault.message : Fault → String
  | tooWide extent => s!"{extent} is too large to count"
  | tooLarge extent => s!"There is no room for {extent}"

theorem check_ok_iff {room extent : Int} : check room extent = .ok () ↔ Fits room extent := by
  rw [check, Fits]
  cases Width.fits64 extent with
  | false => simp
  | true =>
    by_cases large : room ≤ extent
    · simp [large]
    · simp [large, Int.not_le.mp large]

/-- What is not below zero fits where something larger does. -/
theorem Fits.mono {room extent larger : Int} (fits : Fits room larger) (least : 0 ≤ extent)
    (most : extent ≤ larger) : Fits room extent := by
  obtain ⟨countable, small⟩ := fits
  have bounds := Width.fits64_iff.mp countable
  exact ⟨Width.fits64_iff.mpr (by omega), by omega⟩

end Chip8.Extent
