/-! # Keypad

Sixteen keys, each up or down. Key numbers are integers of any size, of which only the lowest
four bits name a key.
-/

namespace Chip8

abbrev Key := Fin 16

theorem Key.val_lt (key : Key) : key.val < 16 := key.isLt

theorem Key.toNat_mod_lt (number : Int) : (number % 16).toNat < 16 := by omega

/-- The key that a number names. -/
def Key.ofInt (number : Int) : Key := ⟨(number % 16).toNat, Key.toNat_mod_lt number⟩

def Key.all : List Key := List.finRange 16

structure Keypad where
  down : Vector Bool 16 := Vector.replicate 16 false
deriving DecidableEq, Repr

namespace Keypad

def set (keypad : Keypad) (key : Key) (isDown : Bool) : Keypad :=
  ⟨keypad.down.set key isDown (Key.val_lt key)⟩

def holds (keypad : Keypad) (key : Key) : Bool := keypad.down.get key

def setKey (keypad : Keypad) (number : Int) (isDown : Bool) : Keypad :=
  keypad.set (Key.ofInt number) isDown

def press (keypad : Keypad) (number : Int) : Keypad := keypad.setKey number true

def release (keypad : Keypad) (number : Int) : Keypad := keypad.setKey number false

def releaseAll (_ : Keypad) : Keypad := {}

def isDown (keypad : Keypad) (number : Int) : Bool := keypad.holds (Key.ofInt number)

/-- The lowest key that is down. -/
def firstDown (keypad : Keypad) : Option Key := Key.all.find? keypad.holds

/-- The keypad with each key as a function says. -/
def ofKeys (isDown : Key → Bool) : Keypad := ⟨Vector.ofFn isDown⟩

/-- The keypad whose key `k` is down where bit `k` of a number is set. -/
def ofMask (mask : Int) : Keypad := ofKeys fun key => (mask % 0x10000).toNat.testBit key

/-- The number whose bit `k` is set where key `k` is down. -/
def mask (keypad : Keypad) : Nat :=
  Key.all.foldr (fun key higher => 2 * higher + if keypad.holds key then 1 else 0) 0

theorem holds_eq_getElem (keypad : Keypad) (key : Key) :
    keypad.holds key = keypad.down[key.val] := rfl

theorem holds_set (keypad : Keypad) (key other : Key) (isDown : Bool) :
    (keypad.set key isDown).holds other = if other = key then isDown else keypad.holds other := by
  simp only [holds_eq_getElem, set, Vector.getElem_set]
  by_cases same : other = key
  · simp [same]
  · rw [if_neg same, if_neg (fun equal => same (Fin.ext equal.symm))]

@[simp] theorem holds_releaseAll (keypad : Keypad) (key : Key) :
    keypad.releaseAll.holds key = false := by
  simp [holds_eq_getElem, releaseAll]

@[simp] theorem holds_ofKeys (isDown : Key → Bool) (key : Key) :
    (ofKeys isDown).holds key = isDown key := by
  simp [holds_eq_getElem, ofKeys]

theorem firstDown_eq_none_iff {keypad : Keypad} :
    keypad.firstDown = none ↔ ∀ key, keypad.holds key = false := by
  simp [firstDown, Key.all]

theorem firstDown_eq_some_iff {keypad : Keypad} {key : Key} :
    keypad.firstDown = some key ↔
      keypad.holds key = true ∧ ∀ lower < key, keypad.holds lower = false := by
  rw [firstDown, Key.all, List.find?_eq_some_iff_getElem]
  simp only [List.getElem_finRange, List.length_finRange, Bool.not_eq_true']
  constructor
  · rintro ⟨down, position, inside, rfl, up⟩
    exact ⟨down, fun lower below => up lower.val below⟩
  · rintro ⟨down, up⟩
    exact ⟨down, key.val, key.isLt, rfl, fun position below => up ⟨position, by omega⟩ below⟩

end Keypad

end Chip8
