import Chip8.Proofs.Machine.Operations
import Mathlib.Data.Int.Bitwise

/-! # Writes to keys

A write to a keypad sets some keys down or up and leaves the others alone. What is written last to
a key is what it keeps, and what is told of it under any number that has its lowest four bits.
-/

namespace Chip8

/-- If every event either writes what is observed or leaves it alone, the last write stays. -/
theorem observe_foldl {σ ε α : Type} {step : σ → ε → σ} {write? : ε → Option α} (observe : σ → α)
    (writes : ∀ state event, observe (step state event) = (write? event).getD (observe state))
    (events : List ε) (state : σ) :
    observe (events.foldl step state) =
      (events.filterMap write?).getLast?.getD (observe state) := by
  induction events generalizing state with
  | nil => rfl
  | cons event rest ih =>
    rw [List.foldl_cons, ih, writes]
    cases written : write? event with
    | none => rw [List.filterMap_cons_none written, Option.getD_none]
    | some value =>
      rw [List.filterMap_cons_some written, List.getLast?_cons, Option.getD_some]
      rfl

theorem getLast?_filterMap_eq_some_iff {ε α : Type} {write? : ε → Option α} {events : List ε}
    {value : α} :
    (events.filterMap write?).getLast? = some value ↔
      ∃ earlier event later, events = earlier ++ event :: later ∧ write? event = some value ∧
        ∀ other ∈ later, write? other = none := by
  rw [List.getLast?_filterMap, List.findSome?_eq_some_iff]
  constructor
  · rintro ⟨later, event, earlier, order, written, silent⟩
    refine ⟨earlier.reverse, event, later.reverse, ?_, written, ?_⟩
    · rw [← List.reverse_reverse events, order]
      simp
    · intro other member
      exact silent other (List.mem_reverse.mp member)
  · rintro ⟨earlier, event, later, rfl, written, silent⟩
    refine ⟨later.reverse, event, earlier.reverse, by simp, written, ?_⟩
    intro other member
    exact silent other (List.mem_reverse.mp member)

/-- The lowest four bits of a number are its remainder, also below zero, where the bits are those of
the two's complement. -/
theorem Key.land_eq_emod (number : Int) : Int.land number 0xf = number % 16 := by
  cases number with
  | ofNat natural =>
    have low : natural &&& 2 ^ 4 - 1 = natural % 2 ^ 4 := Nat.and_two_pow_sub_one_eq_mod natural 4
    exact congrArg Int.ofNat low
  | negSucc natural =>
    have low : Nat.ldiff (2 ^ 4 - 1) natural = 2 ^ 4 - (natural % 2 ^ 4 + 1) := by
      apply Nat.eq_of_testBit_eq
      intro bit
      rw [Nat.testBit_ldiff, Nat.testBit_two_pow_sub_one,
        Nat.testBit_two_pow_sub_succ (Nat.mod_lt _ (by decide)), Nat.testBit_mod_two_pow]
      cases decide (bit < 4) <;> rfl
    have landed : Int.land (Int.negSucc natural) 0xf = (Nat.ldiff (2 ^ 4 - 1) natural : ℕ) := rfl
    rw [landed, low, Int.negSucc_emod natural (by decide)]
    omega

theorem Key.ofInt_eq_iff {number : Int} {key : Key} :
    Key.ofInt number = key ↔ number % 16 = key.val := by
  rw [Fin.ext_iff]
  simp only [Key.ofInt]
  omega

namespace Keypad

/-- What an operation writes to a key, if it does: whether the key is down. -/
def Operation.write? (key : Key) : Operation → Option Bool
  | press number => if number % 16 = key.val then some true else none
  | release number => if number % 16 = key.val then some false else none
  | setKey number isDown => if number % 16 = key.val then some isDown else none
  | releaseAll => some false

theorem holds_setKey (keypad : Keypad) (number : Int) (isDown : Bool) (key : Key) :
    (keypad.setKey number isDown).holds key =
      (if number % 16 = key.val then some isDown else none).getD (keypad.holds key) := by
  rw [setKey, holds_set]
  by_cases named : number % 16 = key.val
  · rw [if_pos named, if_pos (Key.ofInt_eq_iff.mpr named).symm, Option.getD_some]
  · rw [if_neg named, if_neg (fun same => named (Key.ofInt_eq_iff.mp same.symm)), Option.getD_none]

theorem holds_apply (keypad : Keypad) (operation : Operation) (key : Key) :
    (keypad.apply operation).holds key = (operation.write? key).getD (keypad.holds key) := by
  cases operation with
  | press number => exact keypad.holds_setKey number true key
  | release number => exact keypad.holds_setKey number false key
  | setKey number isDown => exact keypad.holds_setKey number isDown key
  | releaseAll => exact holds_releaseAll keypad key

theorem Operation.write?_eq_some_true_iff {operation : Operation} {key : Key} :
    operation.write? key = some true ↔
      ∃ number : Int, number % 16 = key.val ∧
        (operation = .press number ∨ operation = .setKey number true) := by
  cases operation with
  | press number | release number | releaseAll => simp [write?]
  | setKey number isDown => simp [write?, and_left_comm]

/-- Whatever is written to keys that are up at first, a key is down if and only if the last operation
that writes it sets it down. That is what is told of it under any number that has its lowest four
bits, and the lowest key that is down is found if there is one. -/
theorem last_write_stays (operations : List Operation) :
    let keypad : Keypad := operations.foldl apply {}
    (∀ key, keypad.holds key = true ↔
      ∃ earlier operation later, operations = earlier ++ operation :: later ∧
        operation.write? key = some true ∧ ∀ other ∈ later, other.write? key = none) ∧
    (∀ number, ∃ key : Key, Int.land number 0xf = key.val ∧
      keypad.isDown number = keypad.holds key) ∧
    (∀ key, keypad.firstDown = some key ↔
      keypad.holds key = true ∧ ∀ lower < key, keypad.holds lower = false) ∧
    (keypad.firstDown = none ↔ ∀ key, keypad.holds key = false) := by
  intro keypad
  refine ⟨?_, ?_, fun key => firstDown_eq_some_iff, firstDown_eq_none_iff⟩
  · intro key
    have up : holds {} key = false := holds_releaseAll {} key
    have written : keypad.holds key =
        (operations.filterMap (Operation.write? key)).getLast?.getD (holds {} key) :=
      observe_foldl (fun keypad : Keypad => keypad.holds key)
        (fun keypad operation => keypad.holds_apply operation key) operations {}
    rw [written, up, ← getLast?_filterMap_eq_some_iff]
    cases (operations.filterMap (Operation.write? key)).getLast? <;> simp
  · intro number
    refine ⟨Key.ofInt number, ?_, rfl⟩
    rw [Key.land_eq_emod]
    exact Key.ofInt_eq_iff.mp rfl

example :
    (([.press 0x1c, .press (-1), .setKey (-4) false] : List Operation).foldl apply {}).firstDown =
      some 15 := by
  decide

end Keypad

end Chip8
