import Chip8.Proofs.Input.Relay
import Chip8.Proofs.Machine.Frame
import Chip8.Proofs.Machine.KeyTests

/-! # How often a press is seen

On the variant that releases the keys it tests, a test that finds a key down sets it up. The polls
of a terminal set the key down again while it counts as held, so that one character can be found
down more than once: as often as polls find its hold running. Only where every poll comes after
the holds of the polls before it is no character found down twice.
-/

namespace Chip8

namespace Typing

variable {τ : Type} [TimeScale τ] {key : Key}

def Round.quits (round : Round τ) : Bool := (takeKeys round.queue).2.1

/-- A key counts as held at a time, after polls of which the latest is first. -/
def held (key : Key) (now : τ) (rounds : List (Round τ)) : Bool :=
  (latestSighting? key rounds).any fun sighting => now < sighting.now + TimeScale.hold

theorem held_eq_true_iff {now : τ} {rounds : List (Round τ)} :
    held key now rounds = true ↔
      ∃ sighting, latestSighting? key rounds = some sighting ∧
        now < sighting.now + TimeScale.hold := by
  simp only [held, Option.any_eq_true, decide_eq_true_eq]

/-- How many polls set a key down. -/
def presses (key : Key) : List (Round τ) → Nat
  | [] => 0
  | latest :: earlier =>
      presses key earlier + (!latest.quits && held key latest.now (latest :: earlier)).toNat

/-- How many polls set a key down that they did not take. -/
def renewals (key : Key) : List (Round τ) → Nat
  | [] => 0
  | latest :: earlier =>
      renewals key earlier +
        (!latest.quits && !latest.keys.contains key && held key latest.now earlier).toNat

theorem held_cons_of_not_mem {latest : Round τ} {earlier : List (Round τ)} {now : τ}
    (other : key ∉ latest.keys) : held key now (latest :: earlier) = held key now earlier := by
  rw [held, latestSighting?, List.find?_cons, decide_eq_false other]
  rfl

/-- A poll that sets a key down takes the key or renews its hold. -/
theorem presses_le (key : Key) (rounds : List (Round τ)) :
    presses key rounds ≤ (rounds.flatMap Round.keys).count key + renewals key rounds := by
  induction rounds with
  | nil => exact Nat.le_refl 0
  | cons latest earlier ih =>
    rw [presses, renewals, List.flatMap_cons, List.count_append]
    -- A poll that takes the key is counted among the keys taken, whatever it was held until.
    by_cases taken : key ∈ latest.keys
    · have once : 0 < latest.keys.count key := List.count_pos_iff.mpr taken
      have most := Bool.toNat_le (!latest.quits && held key latest.now (latest :: earlier))
      omega
    · have other : latest.keys.contains key = false := by simpa using taken
      rw [held_cons_of_not_mem taken, other, Bool.not_false, Bool.and_true]
      omega

/-- Of polls that come after each other's holds, none renews a hold. -/
theorem renewals_eq_zero {rounds : List (Round τ)}
    (spaced : rounds.Pairwise fun later earlier => ¬ later.now < earlier.now + TimeScale.hold) :
    renewals key rounds = 0 := by
  induction rounds with
  | nil => rfl
  | cons latest earlier ih =>
    obtain ⟨after, spaced⟩ := List.pairwise_cons.mp spaced
    have lapsed : held key latest.now earlier = false := by
      rw [← Bool.not_eq_true, held_eq_true_iff]
      rintro ⟨sighting, found, running⟩
      exact after sighting (List.mem_of_find?_eq_some found) running
    rw [renewals, ih spaced, lapsed, Bool.and_false]
    rfl

end Typing

namespace Relay

variable {τ : Type} {keymap : Keymap} {typed : List Int} {relay : Relay τ}

/-- What the polls so far found, the latest first. -/
def rounds (relay : Relay τ) : List (Typing.Round τ) := relay.polls.reverse.map Poll.round

theorem rounds_read (relay : Relay τ) : relay.read.rounds = relay.rounds := by
  rw [rounds, relay.acts_read.frame.1, ← rounds]

theorem rounds_poll [TimeScale τ] (now : τ) (keypad : Keypad) (relay : Relay τ) :
    (relay.poll now keypad).rounds = ⟨relay.typing.queue, keypad, now⟩ :: relay.rounds := by
  rw [rounds, poll, List.reverse_append]
  rfl

theorem Consistent.count_taken (consistent : relay.Consistent keymap typed) (key : Key) :
    (relay.rounds.flatMap Typing.Round.keys).count key =
      (Typing.keysIn relay.taken).count key := by
  have taken : Typing.keysIn relay.taken =
      relay.polls.flatMap fun poll => poll.round.keys := by
    rw [Typing.keysIn, Relay.taken, List.filterMap_flatMap]
    apply List.flatMap_congr
    intro poll member
    exact (consistent.polls poll member).2.1
  rw [taken, rounds, List.flatMap_map]
  exact ((List.reverse_perm relay.polls).flatMap_right _).count_eq key

/-- The keys are held until the times that the polls so far left. -/
def Remembers [TimeScale τ] (keymap : Keymap) (relay : Relay τ) : Prop :=
  relay.typing.heldUntil = ((Typing.start keymap : Typing τ).after relay.rounds).heldUntil

namespace Remembers

variable [TimeScale τ]

theorem read (remembers : relay.Remembers keymap) : relay.read.Remembers keymap := by
  rw [Remembers, rounds_read, relay.acts_read.frame.2]
  exact remembers

theorem poll (remembers : relay.Remembers keymap) (now : τ) (keypad : Keypad) :
    (relay.poll now keypad).Remembers keymap := by
  rw [Remembers, rounds_poll, Typing.after, Typing.visit, Typing.poll_eq, ← remembers,
    typing_poll, Typing.poll_eq]

/-- A poll that does not ask to quit sets down the keys that count as held then. -/
theorem holds_poll (remembers : relay.Remembers keymap) {now : τ} (keypad : Keypad)
    (time : ¬ now < TimeScale.zero) (stays : (Typing.takeKeys relay.typing.queue).2.1 = false)
    (key : Key) :
    (relay.typing.poll now keypad).2.1.holds key =
      Typing.held key now (relay.poll now keypad).rounds := by
  have left : (relay.typing.poll now keypad).2.2.heldUntil =
      ((Typing.start keymap : Typing τ).after (relay.poll now keypad).rounds).heldUntil :=
    remembers.poll now keypad
  rw [Bool.eq_iff_iff, Typing.holds_poll stays, left, Typing.lt_heldUntil_after_iff time,
    Typing.held_eq_true_iff]

end Remembers

end Relay

/-! ### A machine at a terminal -/

/-- A machine whose keypad the polls of a terminal write. -/
structure Console (τ : Type) where
  relay : Relay τ
  machine : Machine
  /-- The keys that tests found down, the latest first. -/
  seen : List Key := []

namespace Console

variable {τ : Type}

inductive Step (τ : Type) where
  /-- A turn of the reader. -/
  | read
  /-- A poll at a time. -/
  | poll (now : τ)
  /-- A cycle of the machine. -/
  | cycle

variable [TimeScale τ]

def start (keymap : Keymap) (typed : List Int) (machine : Machine) : Console τ where
  relay := .start keymap typed
  machine

def step (console : Console τ) : Step τ → Console τ
  | .read => { console with relay := console.relay.read }
  | .poll now =>
      let keypad := console.machine.keypad
      { console with
        relay := console.relay.poll now keypad
        machine :=
          { console.machine with keypad := (console.relay.typing.poll now keypad).2.1 } }
  | .cycle =>
      { console with
        machine := console.machine.cycle.machine
        seen := console.machine.foundDown?.toList ++ console.seen }

def run (console : Console τ) (steps : List (Step τ)) : Console τ := steps.foldl step console

variable {keymap : Keymap} {typed : List Int} {key : Key} {console : Console τ}

/-- Tests found a key down at most as often as polls set it down, less one if it is still down. -/
structure Tallied (keymap : Keymap) (typed : List Int) (key : Key) (console : Console τ) :
    Prop where
  relay : console.relay.Consistent keymap typed
  valid : console.machine.Valid
  releases : console.machine.variant.testsRelease = true
  remembers : console.relay.Remembers keymap
  seen : console.seen.count key + (console.machine.keypad.holds key).toNat ≤
    Typing.presses key console.relay.rounds

namespace Tallied

theorem start {machine : Machine} (valid : machine.Valid)
    (releases : machine.variant.testsRelease = true)
    (up : ∀ key, machine.keypad.holds key = false) :
    (Console.start keymap typed machine : Console τ).Tallied keymap typed key where
  relay := .start keymap typed
  valid
  releases
  remembers := rfl
  seen := by
    change 0 + (machine.keypad.holds key).toNat ≤ 0
    rw [up key]
    exact Nat.le_refl 0

theorem read (tallied : console.Tallied keymap typed key) :
    (console.step .read).Tallied keymap typed key :=
  { tallied with
    relay := tallied.relay.acts console.relay.acts_read
    remembers := tallied.remembers.read
    seen := by
      change _ ≤ Typing.presses key console.relay.read.rounds
      rw [Relay.rounds_read]
      exact tallied.seen }

theorem cycle (tallied : console.Tallied keymap typed key) :
    (console.step .cycle).Tallied keymap typed key := by
  have found := tallied.valid.count_foundDown tallied.releases key
  have settings := tallied.valid.confined_cycle.variant
  refine { tallied with valid := tallied.valid.cycle, releases := ?_, seen := ?_ }
  · change console.machine.cycle.machine.variant.testsRelease = true
    rw [settings]
    exact tallied.releases
  · have before := tallied.seen
    change (console.machine.foundDown?.toList ++ console.seen).count key +
      (console.machine.cycle.machine.keypad.holds key).toNat ≤ _
    rw [List.count_append]
    change _ ≤ Typing.presses key console.relay.rounds
    omega

theorem poll (tallied : console.Tallied keymap typed key) {now : τ}
    (time : ¬ now < TimeScale.zero) : (console.step (.poll now)).Tallied keymap typed key := by
  refine {
    relay := tallied.relay.poll now console.machine.keypad
    valid := { tallied.valid with }
    releases := tallied.releases
    remembers := tallied.remembers.poll now console.machine.keypad
    seen := ?_ }
  have before := tallied.seen
  change console.seen.count key +
    ((console.relay.typing.poll now console.machine.keypad).2.1.holds key).toNat ≤
      Typing.presses key (console.relay.poll now console.machine.keypad).rounds
  cases quits : (Typing.takeKeys console.relay.typing.queue).2.1 with
  | true =>
    -- A poll that asks to quit leaves the keypad to whoever wrote it last.
    have kept : (console.relay.typing.poll now console.machine.keypad).2.1 =
        console.machine.keypad := by
      rw [Typing.poll_eq]
      exact if_pos quits
    rw [kept, Relay.rounds_poll, Typing.presses]
    omega
  | false =>
    rw [tallied.remembers.holds_poll console.machine.keypad time quits, Relay.rounds_poll,
      Typing.presses, Typing.Round.quits, quits, Bool.not_false, Bool.true_and]
    dsimp only
    omega

theorem run (tallied : console.Tallied keymap typed key) {steps : List (Step τ)}
    (timed : ∀ now, .poll now ∈ steps → ¬ now < TimeScale.zero) :
    (console.run steps).Tallied keymap typed key := by
  induction steps generalizing console with
  | nil => exact tallied
  | cons first rest ih =>
    have later : ∀ now, .poll now ∈ rest → ¬ now < TimeScale.zero :=
      fun now member => timed now (List.mem_cons_of_mem first member)
    cases first with
    | read => exact ih tallied.read later
    | poll now => exact ih (tallied.poll (timed now List.mem_cons_self)) later
    | cycle => exact ih tallied.cycle later

theorem seen_le (tallied : console.Tallied keymap typed key) :
    console.seen.count key ≤ Typing.presses key console.relay.rounds :=
  le_of_add_le_left tallied.seen

theorem presses_le (tallied : console.Tallied keymap typed key) :
    Typing.presses key console.relay.rounds ≤
      (Typing.keysIn console.relay.taken).count key +
        Typing.renewals key console.relay.rounds := by
  rw [← tallied.relay.count_taken]
  exact Typing.presses_le key console.relay.rounds

end Tallied

/-- Each poll lets a key be found down once, so that beyond the characters that polls took only
renewed holds let tests find a key down. If polls come after each other's holds, every character
is found down at most once. -/
theorem press_seen_once_a_poll {machine : Machine} (valid : machine.Valid)
    (releases : machine.variant.testsRelease = true)
    (up : ∀ key, machine.keypad.holds key = false) {steps : List (Step τ)}
    (timed : ∀ now, .poll now ∈ steps → ¬ now < TimeScale.zero) (keymap : Keymap)
    (typed : List Int) (key : Key) :
    let console := (Console.start keymap typed machine).run steps
    let rounds := console.relay.rounds
    let taken := Typing.keysIn console.relay.taken
    console.seen.count key ≤ Typing.presses key rounds ∧
      Typing.presses key rounds ≤ taken.count key + Typing.renewals key rounds ∧
      ((rounds.Pairwise fun later earlier => ¬ later.now < earlier.now + TimeScale.hold) →
        console.seen.count key ≤ taken.count key) := by
  intro console rounds taken
  have tallied : console.Tallied keymap typed key := (Tallied.start valid releases up).run timed
  refine ⟨tallied.seen_le, tallied.presses_le, ?_⟩
  intro spaced
  have most := tallied.presses_le
  rw [Typing.renewals_eq_zero spaced] at most
  exact tallied.seen_le.trans most

/-- A machine with a program that tests key 0 twice. -/
def keyTester : Machine :=
  (Machine.unpowered { testsRelease := true } false {}).restarted.loaded [0xe0, 0xa1, 0xe0, 0xa1]

theorem valid_keyTester : keyTester.Valid :=
  (Machine.valid_unpowered { testsRelease := true } false {}).restarted.loaded _

/-- A character that is taken by the first of two polls, each before a test. -/
def testsAfterPolls (first second : ℚ) : List (Step ℚ) :=
  [.read, .poll first, .cycle, .poll second, .cycle]

theorem press_seen_once_a_poll_keyTester :
    ((Console.start Typing.standardKeymap [120] keyTester).run
      (testsAfterPolls 0 (1 / 4))).seen.count 0 ≤ 1 := by
  have up : ∀ key, keyTester.keypad.holds key = false := by decide +kernel
  have timed : ∀ now, .poll now ∈ testsAfterPolls 0 (1 / 4) → ¬ now < TimeScale.zero := by
    intro now member
    have cases : now = 0 ∨ now = 1 / 4 := by simpa [testsAfterPolls] using member
    rcases cases with rfl | rfl <;> decide +kernel
  obtain ⟨-, -, spaced⟩ := press_seen_once_a_poll valid_keyTester rfl up timed
    Typing.standardKeymap [120] 0
  have taken : (Typing.keysIn ((Console.start Typing.standardKeymap [120] keyTester).run
      (testsAfterPolls 0 (1 / 4))).relay.taken).count 0 = 1 := by
    decide +kernel
  rw [taken] at spaced
  exact spaced (by decide +kernel)

/-- Two polls within a fifth of a second let one character be found down twice. -/
theorem press_seen_twice_keyTester :
    let console := (Console.start Typing.standardKeymap [120] keyTester).run
      (testsAfterPolls 0 (1 / 60))
    keyTester.variant.testsRelease = true ∧ (∀ key, keyTester.keypad.holds key = false) ∧
      (Typing.keysIn console.relay.taken).count 0 = 1 ∧ console.seen.count 0 = 2 := by
  decide +kernel

end Console

end Chip8
