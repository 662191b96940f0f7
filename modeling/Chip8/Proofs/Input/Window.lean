import Chip8.Input.Window
import Chip8.Proofs.Keymap.Parsing
import Chip8.Proofs.Keypad

/-! # Keys of a window

A key is down or up as the last event of its code says, whichever poll handled it. The escape key
says nothing when it is let go, and no event of another code has to do with the key.
-/

namespace Chip8

variable {keymap : Keymap} {key : Key} {code : Int}

namespace WindowEvent

/-- What an event says of the key with a code, if it says anything: whether the key is down. -/
def write? (code : Int) : WindowEvent → Option Bool
  | keyDown pressed => if pressed = code then some true else none
  | keyUp released => if released = code ∧ released ≠ escape then some false else none
  | closed => none
  | other => none

/-- Setting the key that a code is bound to sets no key with another code. -/
theorem holds_bound (complete : keymap.Complete) (bound : keymap.key? code = some key)
    (keypad : Keypad) (pressed : Int) (isDown : Bool) :
    (match keymap.key? pressed with
      | some key => keypad.set key isDown
      | none => keypad).holds key =
      (if pressed = code then some isDown else none).getD (keypad.holds key) := by
  by_cases same : pressed = code
  · rw [if_pos same, same, bound, Option.getD_some]
    simp only [Keypad.holds_set, if_true]
  · rw [if_neg same, Option.getD_none]
    cases found : keymap.key? pressed with
    | none => rfl
    | some other =>
      have apart : key ≠ other := by
        rintro rfl
        rw [complete.key?_iff] at bound found
        exact same (Option.some.inj (found.symm.trans bound))
      simp only [Keypad.holds_set, if_neg apart]

theorem holds_handle (complete : keymap.Complete) (bound : keymap.key? code = some key)
    (keypad : Keypad) (event : WindowEvent) :
    (handle keymap keypad event).holds key = (event.write? code).getD (keypad.holds key) := by
  cases event with
  | closed | other => rfl
  | keyDown pressed => exact holds_bound complete bound keypad pressed true
  | keyUp released =>
    rw [handle, write?]
    by_cases escapes : released = escape
    · rw [if_pos escapes, if_neg (fun both => both.2 escapes), Option.getD_none]
    · rw [if_neg escapes]
      simp only [escapes, ne_eq, not_false_eq_true, and_true]
      exact holds_bound complete bound keypad released false

theorem any_asksToQuit (batch : List WindowEvent) :
    batch.any asksToQuit = decide (.closed ∈ batch ∨ .keyUp escape ∈ batch) := by
  rw [Bool.eq_iff_iff, List.any_eq_true, decide_eq_true_iff]
  constructor
  · rintro ⟨event, member, asks⟩
    cases event with
    | closed => exact .inl member
    | keyUp released =>
      obtain rfl : released = escape := by simpa [asksToQuit] using asks
      exact .inr member
    | keyDown | other => cases asks
  · rintro (closes | escapes)
    · exact ⟨_, closes, rfl⟩
    · exact ⟨_, escapes, rfl⟩

end WindowEvent

namespace WindowInput

open WindowEvent

/-- Polls one after another: what each of them tells, and what they leave. -/
def polls : Nat → Keypad → WindowInput → List Bool × Keypad × WindowInput
  | 0, keypad, input => ([], keypad, input)
  | count + 1, keypad, input =>
      let (quit, keypad, input) := input.poll keypad
      let (quits, keypad, input) := polls count keypad input
      (quit :: quits, keypad, input)

/-- Each poll handles a whole batch. -/
theorem polls_eq (keymap : Keymap) (batches later : List (List WindowEvent)) (keypad : Keypad) :
    polls batches.length keypad { keymap, batches := batches ++ later } =
      (batches.map (·.any asksToQuit), batches.flatten.foldl (handle keymap) keypad,
        { keymap, batches := later }) := by
  induction batches generalizing keypad with
  | nil => rfl
  | cons batch rest ih =>
    have first : poll keypad { keymap, batches := batch :: rest ++ later } =
        (batch.any asksToQuit, batch.foldl (handle keymap) keypad,
          { keymap, batches := rest ++ later }) := rfl
    rw [List.length_cons, polls, first]
    simp only [ih]
    rw [List.map_cons, List.flatten_cons, List.foldl_append]

/-- Whatever keymap a window has, whatever its keys were and however the events are spread over
polls, a poll asks to quit exactly if its batch closes the window or lets the escape key go, and a
key is then as the last event said that said anything of it, or else as it was. -/
theorem keys_follow_events {text : String} (parsed : Keymap.parse false text = .ok keymap)
    (keypad : Keypad) (batches later : List (List WindowEvent)) :
    ∃ left, polls batches.length keypad { keymap, batches := batches ++ later } =
        (batches.map fun batch => decide (.closed ∈ batch ∨ .keyUp escape ∈ batch),
          left, { keymap, batches := later }) ∧
      ∀ key code, keymap.key? code = some key →
        left.holds key =
          (batches.flatten.filterMap (write? code)).getLast?.getD (keypad.holds key) := by
  obtain ⟨-, complete⟩ := Keymap.complete_of_parse parsed
  refine ⟨batches.flatten.foldl (handle keymap) keypad, ?_, ?_⟩
  · rw [polls_eq]
    simp only [any_asksToQuit]
  · intro key code bound
    exact observe_foldl (fun keypad => keypad.holds key) (holds_handle complete bound)
      batches.flatten keypad

/-- The first code is that of the escape key. -/
def escapeBound : String := "27,49,50,51,113,119,101,97,115,100,122,99,52,114,102,118"

/-- Key 1 goes down behind an event that asks to quit, and key 0 goes down and is let go. -/
def leaving : List (List WindowEvent) :=
  [[.keyDown 27, .closed, .keyDown 49], [.other, .keyUp 27], [.keyUp 50, .keyDown 5]]

theorem keys_follow_leaving :
    ∃ keymap left, Keymap.parse false escapeBound = .ok keymap ∧
      polls 3 (Keypad.ofMask 4) { keymap, batches := leaving } =
        ([true, true, false], left, { keymap }) ∧
      left.holds 0 = true ∧ left.holds 1 = true ∧ left.holds 2 = false := by
  have parsed : Keymap.parse false escapeBound =
      .ok ⟨[27, 49, 50, 51, 113, 119, 101, 97, 115, 100, 122, 99, 52, 114, 102, 118]⟩ := by
    decide +kernel
  obtain ⟨left, polled, keys⟩ := keys_follow_events parsed (Keypad.ofMask 4) leaving []
  refine ⟨_, left, parsed, polled, ?_, ?_, ?_⟩
  · rw [keys 0 27 rfl]
    rfl
  · rw [keys 1 49 rfl]
    rfl
  · rw [keys 2 50 rfl]
    rfl

end WindowInput

end Chip8
