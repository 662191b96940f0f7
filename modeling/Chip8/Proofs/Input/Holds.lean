import Chip8.Input.Typing
import Chip8.Proofs.Host.ExactTime
import Mathlib.Order.Fin.Basic

/-! # How long typed keys are held

At every poll each key of the keypad is set to whether the latest poll that took it from the queue
is less than a fifth of a second ago. What others do to the keypad between two polls does not
matter, and neither does what polls found before the latest one that took the key.
-/

namespace Chip8.Typing

variable {τ : Type}

/-! ### What a poll takes -/

/-- What a poll takes from a queue. -/
def takenFrom (queue : List TypedItem) : List TypedItem :=
  (takeKeys queue).1.map .key ++ if (takeKeys queue).2.1 then [.quit] else []

theorem takenFrom_append (queue : List TypedItem) :
    takenFrom queue ++ (takeKeys queue).2.2 = queue := by
  induction queue with
  | nil => rfl
  | cons item rest ih =>
    cases item with
    | quit => rfl
    | key key => exact congrArg (List.cons (.key key)) ih

/-- Nothing is left behind but what is behind a mark for quitting. -/
theorem left_eq_nil {queue : List TypedItem} (stays : (takeKeys queue).2.1 = false) :
    (takeKeys queue).2.2 = [] := by
  induction queue with
  | nil => rfl
  | cons item rest ih =>
    cases item with
    | quit => cases stays
    | key key => exact ih stays

theorem quit_mem_takenFrom_iff (queue : List TypedItem) :
    .quit ∈ takenFrom queue ↔ (takeKeys queue).2.1 = true := by
  rw [takenFrom, List.mem_append]
  cases (takeKeys queue).2.1 <;> simp

/-- The keys among some items. -/
def keysIn (items : List TypedItem) : List Key :=
  items.filterMap fun
    | .key key => some key
    | .quit => none

theorem keysIn_append (items more : List TypedItem) :
    keysIn (items ++ more) = keysIn items ++ keysIn more :=
  List.filterMap_append

theorem keysIn_map_key (keys : List Key) : keysIn (keys.map .key) = keys := by
  induction keys with
  | nil => rfl
  | cons key rest ih => exact congrArg (List.cons key) ih

theorem keysIn_takenFrom (queue : List TypedItem) :
    keysIn (takenFrom queue) = (takeKeys queue).1 := by
  rw [takenFrom, keysIn_append, keysIn_map_key]
  cases (takeKeys queue).2.1 <;> exact List.append_nil _

theorem get_holdKeys (target : τ) (held : Vector τ 16) (keys : List Key) (key : Key) :
    (holdKeys target held keys).get key = if key ∈ keys then target else held.get key := by
  induction keys generalizing held with
  | nil => rfl
  | cons first rest ih =>
    have get_set : (held.set first.val target (Key.val_lt first)).get key =
        if key = first then target else held.get key := by
      change (held.set first.val target (Key.val_lt first))[key.val] =
        if key = first then target else held[key.val]
      simp only [Vector.getElem_set, Fin.ext_iff, eq_comm]
    rw [holdKeys, List.foldl_cons, ← holdKeys, ih, get_set]
    by_cases later : key ∈ rest <;> by_cases now : key = first <;> simp [later, now]

section Polls

variable [TimeScale τ]

theorem poll_eq (now : τ) (keypad : Keypad) (typing : Typing τ) :
    typing.poll now keypad =
      let heldUntil :=
        holdKeys (now + TimeScale.hold) typing.heldUntil (takeKeys typing.queue).1
      ((takeKeys typing.queue).2.1,
        if (takeKeys typing.queue).2.1 then keypad
        else .ofKeys fun key => decide (now < heldUntil.get key),
        { typing with queue := (takeKeys typing.queue).2.2, heldUntil }) := by
  rcases taken : takeKeys typing.queue with ⟨keys, quit, queue⟩
  simp only [poll, taken]
  cases quit <;> rfl

theorem heldUntil_poll (now : τ) (keypad : Keypad) (typing : Typing τ) (key : Key) :
    (typing.poll now keypad).2.2.heldUntil.get key =
      if key ∈ (takeKeys typing.queue).1 then now + TimeScale.hold
      else typing.heldUntil.get key := by
  rw [poll_eq]
  exact get_holdKeys _ _ _ key

/-- The keypad is rewritten as a whole, unless the poll asks to quit. -/
theorem holds_poll {now : τ} {keypad : Keypad} {typing : Typing τ}
    (stays : (takeKeys typing.queue).2.1 = false) (key : Key) :
    (typing.poll now keypad).2.1.holds key = true ↔
      now < (typing.poll now keypad).2.2.heldUntil.get key := by
  rw [poll_eq, stays]
  simp

end Polls

/-! ### Polls one after another -/

/-- What a poll finds: the queue, the keypad as others left it, and the time. -/
structure Round (τ : Type) where
  queue : List TypedItem
  keypad : Keypad
  now : τ
deriving DecidableEq, Repr

/-- The keys that a poll takes. -/
def Round.keys (round : Round τ) : List Key := (takeKeys round.queue).1

section Rounds

variable [TimeScale τ]

/-- A poll of what it finds. -/
def visit (typing : Typing τ) (round : Round τ) : Bool × Keypad × Typing τ :=
  { typing with queue := round.queue }.poll round.now round.keypad

/-- What polls leave, the latest of them first. -/
def after (typing : Typing τ) : List (Round τ) → Typing τ
  | [] => typing
  | latest :: earlier => ((typing.after earlier).visit latest).2.2

/-- The latest poll that took a key, of polls of which the latest is first. -/
def latestSighting? (key : Key) (rounds : List (Round τ)) : Option (Round τ) :=
  rounds.find? fun round => key ∈ round.keys

variable {keymap : Keymap} {key : Key}

theorem heldUntil_after (keymap : Keymap) (rounds : List (Round τ)) (key : Key) :
    ((start keymap).after rounds).heldUntil.get key =
      match latestSighting? key rounds with
      | some sighting => sighting.now + TimeScale.hold
      | none => TimeScale.zero := by
  induction rounds with
  | nil => exact Vector.getElem_replicate key.isLt
  | cons latest earlier ih =>
    rw [after, visit, heldUntil_poll, latestSighting?, List.find?_cons]
    change (if key ∈ latest.keys then _ else _) = _
    by_cases taken : key ∈ latest.keys
    · rw [if_pos taken, decide_eq_true taken]
    · rw [if_neg taken, decide_eq_false taken, ih]
      rfl

/-- At a time that is not before the beginning, the keys still held are those seen lately. -/
theorem lt_heldUntil_after_iff {now : τ} (time : ¬ now < TimeScale.zero)
    (rounds : List (Round τ)) :
    now < ((start keymap).after rounds).heldUntil.get key ↔
      ∃ sighting, latestSighting? key rounds = some sighting ∧
        now < sighting.now + TimeScale.hold := by
  rw [heldUntil_after]
  cases latestSighting? key rounds with
  | none => simp [time]
  | some sighting => simp

/-- After a poll that does not ask to quit, a key is down exactly if less than a fifth of a second
passed since the latest poll that took it. The queue, the keypad and the time that each poll finds
are arbitrary. -/
theorem key_held_iff {earlier : List (Round τ)} {round : Round τ}
    (time : ¬ round.now < TimeScale.zero)
    (stays : (((start keymap).after earlier).visit round).1 = false) (key : Key) :
    (((start keymap).after earlier).visit round).2.1.holds key = true ↔
      ∃ sighting, latestSighting? key (round :: earlier) = some sighting ∧
        round.now < sighting.now + TimeScale.hold := by
  rw [visit, poll_eq] at stays
  rw [visit, holds_poll stays, ← lt_heldUntil_after_iff time]
  rfl

end Rounds

/-- The keymap that `Keymap.standard` spells out. -/
def standardKeymap : Keymap :=
  ⟨[120, 49, 50, 51, 113, 119, 101, 97, 115, 100, 122, 99, 52, 114, 102, 118]⟩

example : Keymap.parse true Keymap.standard = .ok standardKeymap := by decide +kernel

/-- Polls that took keys 3 and 5 together, and then key 5 once more. -/
def twoSightings : List (Round ℚ) :=
  [⟨[.key (Key.ofInt 5)], .ofMask 0xffff, 11 / 10⟩,
    ⟨[.key (Key.ofInt 3), .key (Key.ofInt 5)], {}, 1⟩]

/-- A poll that finds no key in the queue, and all keys pressed by others. -/
def pollAtDeadline : Round ℚ := ⟨[], .ofMask 0xffff, 6 / 5⟩

theorem key_held_iff_pollAtDeadline :
    let keypad := (((start standardKeymap).after twoSightings).visit pollAtDeadline).2.1
    keypad.holds 3 = false ∧ keypad.holds 5 = true := by
  have time : ¬ pollAtDeadline.now < TimeScale.zero := by decide +kernel
  have held := @key_held_iff ℚ _ standardKeymap twoSightings pollAtDeadline time rfl
  have third : latestSighting? 3 (pollAtDeadline :: twoSightings) =
      some ⟨[.key 3, .key 5], {}, 1⟩ := rfl
  have fifth : latestSighting? 5 (pollAtDeadline :: twoSightings) =
      some ⟨[.key 5], .ofMask 0xffff, 11 / 10⟩ := rfl
  constructor
  · rw [← Bool.not_eq_true, held 3, third]
    rintro ⟨sighting, same, before⟩
    cases same
    exact absurd before (by decide +kernel)
  · rw [held 5, fifth]
    exact ⟨_, rfl, by decide +kernel⟩

end Chip8.Typing
