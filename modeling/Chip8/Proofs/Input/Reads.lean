import Chip8.Input.Typing

/-! # Reading characters

What a reader does with a character: it puts the mark for quitting or a key into the queue, or
nothing. Whether a character asks to quit, and which key it stands for, does not depend on the
queue; what happens then depends on whether there is room.
-/

namespace Chip8

/-- Control characters are the lower-case forms of themselves alone. -/
theorem LowerCase.ofCodePoint_eq_iff {number code : Nat} (control : code < 32) :
    ofCodePoint number = code ↔ number = code := by
  have above : ∀ span ∈ spans, 32 ≤ span.first ∧ 32 ≤ span.first + span.offset := by
    decide +kernel
  rw [ofCodePoint]
  split
  · next span found =>
    have least := above span (List.mem_of_find?_eq_some found)
    have covered := List.find?_some found
    simp only [Span.covers, Bool.and_eq_true, decide_eq_true_eq] at covered
    omega
  · exact Iff.rfl

theorem LowerCase.ofCode_eq_ok_iff {character : Int} {code : Nat} (control : code < 32) :
    ofCode character = .ok code ↔ character = code := by
  rw [ofCode]
  split
  · next wide =>
    simp only [Bool.not_eq_true', ← Bool.not_eq_true, Width.fits32_iff] at wide
    simp only [reduceCtorEq, false_iff]
    omega
  · split
    · simp only [reduceCtorEq, false_iff]
      omega
    · split
      · simp only [reduceCtorEq, false_iff]
        omega
      · rw [Except.ok.injEq, Int.ofNat_inj, ofCodePoint_eq_iff control]
        omega

namespace Typing

/-- Characters that end the reader. -/
def asksToQuit (character : Int) : Bool := character == escape || character == controlC

/-- The key that the lower-case form of a character is bound to. -/
def keyFor? (keymap : Keymap) (character : Int) : Option Key :=
  match LowerCase.ofCode character with
  | .ok code => keymap.key? code
  | .error _ => none

variable {keymap : Keymap} {queue : List TypedItem} {character : Int}

theorem asksToQuit_iff {code : Int} (lower : LowerCase.ofCode character = .ok code) :
    asksToQuit character = true ↔ code = escape ∨ code = controlC := by
  have escapes := @LowerCase.ofCode_eq_ok_iff character 27 (by decide)
  have stops := @LowerCase.ofCode_eq_ok_iff character 3 (by decide)
  rw [lower, Except.ok.injEq] at escapes stops
  rw [asksToQuit, Bool.or_eq_true, beq_iff_eq, beq_iff_eq]
  exact (or_congr escapes stops).symm

theorem ofCode_of_asksToQuit (asks : asksToQuit character = true) :
    LowerCase.ofCode character = .ok character := by
  rw [asksToQuit, Bool.or_eq_true, beq_iff_eq, beq_iff_eq] at asks
  rcases asks with rfl | rfl
  · exact (@LowerCase.ofCode_eq_ok_iff escape 27 (by decide)).mpr rfl
  · exact (@LowerCase.ofCode_eq_ok_iff controlC 3 (by decide)).mpr rfl

/-- What reading a character does, with some items queued: the state that it leaves the reader in,
and the items that it puts into the queue. -/
inductive Reads (keymap : Keymap) (queued : Nat) (character : Int) :
    ReaderState → List TypedItem → Prop
  | quits (asks : asksToQuit character = true) (room : queued < queueCapacity) :
      Reads keymap queued character .ended [.quit]
  | waits (asks : asksToQuit character = true) (full : queueCapacity ≤ queued) :
      Reads keymap queued character .waiting []
  | puts {key : Key} (goesOn : asksToQuit character = false) (room : queued < queueCapacity)
      (bound : keyFor? keymap character = some key) :
      Reads keymap queued character .reading [.key key]
  | drops (goesOn : asksToQuit character = false) (full : queueCapacity ≤ queued) :
      Reads keymap queued character .reading []
  | ignores (goesOn : asksToQuit character = false) (unbound : keyFor? keymap character = none) :
      Reads keymap queued character .reading []
  | fails {fault : LowerCase.Fault} (goesOn : asksToQuit character = false)
      (unbound : keyFor? keymap character = none) :
      Reads keymap queued character (.failed fault) []

theorem reads_of_error {fault : LowerCase.Fault}
    (failed : readInto keymap queue character = .error fault) :
    Reads keymap queue.length character (.failed fault) [] := by
  rw [readInto] at failed
  cases lower : LowerCase.ofCode character with
  | error other =>
    refine .fails ?_ (by rw [keyFor?, lower])
    rw [← Bool.not_eq_true]
    intro asks
    rw [ofCode_of_asksToQuit asks] at lower
    cases lower
  | ok code =>
    rw [lower] at failed
    dsimp only at failed
    split at failed
    · split at failed <;> cases failed
    · split at failed
      · split at failed <;> cases failed
      · cases failed

theorem reads_of_ok {state : ReaderState} {left : List TypedItem}
    (ran : readInto keymap queue character = .ok (state, left)) :
    ∃ items, left = queue ++ items ∧ Reads keymap queue.length character state items := by
  rw [readInto] at ran
  cases lower : LowerCase.ofCode character with
  | error fault =>
    rw [lower] at ran
    cases ran
  | ok code =>
    have asks := asksToQuit_iff lower
    have bound : keyFor? keymap character = keymap.key? code := by rw [keyFor?, lower]
    rw [lower] at ran
    dsimp only at ran
    split at ran
    · next quits =>
      split at ran <;> cases ran
      · next room => exact ⟨_, rfl, .quits (asks.mpr quits) room⟩
      · next full =>
        exact ⟨[], (List.append_nil queue).symm, .waits (asks.mpr quits) (Nat.not_lt.mp full)⟩
    · next stays =>
      have goesOn : asksToQuit character = false := by
        rw [← Bool.not_eq_true, asks]
        exact stays
      split at ran
      · next key found =>
        split at ran <;> cases ran
        · next room => exact ⟨_, rfl, .puts goesOn room (bound.trans found)⟩
        · next full => exact ⟨[], (List.append_nil queue).symm, .drops goesOn (Nat.not_lt.mp full)⟩
      · next unbound =>
        cases ran
        exact ⟨[], (List.append_nil queue).symm, .ignores goesOn (bound.trans unbound)⟩

end Typing

end Chip8
