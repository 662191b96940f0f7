import Chip8.Proofs.Host.ExactTime
import Chip8.Proofs.Host.Iteration
import Mathlib.Tactic.Linarith
import Mathlib.Tactic.Ring

/-! # Timers in exact time

In exact time the timers tick once for every sixtieth of a second that passed since the run began,
however the calls that bring them up to date are spaced. Only a call that finds more than eight
ticks due drops some of them, and counts the sixtieths from its own time on. So timers never run
fast, and they lose nothing as long as the host does not stall.
-/

namespace Chip8

theorem Machine.ticks_eq {machine : Machine} (delay : 0 ≤ machine.delay)
    (sound : 0 ≤ machine.sound) (count : ℕ) :
    Machine.ticks count machine =
      { machine with
        delay := max 0 (machine.delay - count)
        sound := max 0 (machine.sound - count) } := by
  induction count generalizing machine with
  | zero =>
    have still : max 0 (machine.delay - (0 : ℕ)) = machine.delay ∧
        max 0 (machine.sound - (0 : ℕ)) = machine.sound := by omega
    rw [still.1, still.2]
    rfl
  | succ count ih =>
    have down : ∀ timer : Int, 0 ≤ timer → 0 ≤ tickDown timer ∧
        max 0 (tickDown timer - count) = max 0 (timer - (count + 1 : ℕ)) := by
      intro timer least
      rw [tickDown]
      split <;> omega
    obtain ⟨delayed, delays⟩ := down machine.delay delay
    obtain ⟨sounded, sounds⟩ := down machine.sound sound
    rw [Machine.ticks, ih delayed sounded]
    simp only [Machine.tick, delays, sounds]

namespace Host

open Machine (ticks)

variable {σ : Type}

/-- How many of the ticks that come every sixtieth of a second, the next one at `next`, are due. -/
def ticksDue (next now : ℚ) : ℕ := (⌊60 * (now - next)⌋ + 1).toNat

theorem lt_ticksDue_iff {next now : ℚ} {count : ℕ} :
    count < ticksDue next now ↔ next + count / 60 ≤ now := by
  have scaled : (count : ℚ) ≤ 60 * (now - next) ↔ next + count / 60 ≤ now := by
    constructor <;> intro due <;> linarith
  rw [ticksDue, Int.lt_toNat, Int.lt_add_one_iff, Int.le_floor, Int.cast_natCast, scaled]

theorem ticksDue_eq_zero {next now : ℚ} (early : now < next) : ticksDue next now = 0 := by
  by_contra some
  have due := lt_ticksDue_iff.mp (Nat.pos_of_ne_zero some)
  rw [Nat.cast_zero, zero_div, add_zero] at due
  exact absurd due (not_le.mpr early)

theorem ticksDue_of_le {next now : ℚ} (due : next ≤ now) :
    ticksDue next now = ticksDue (next + 1 / 60) now + 1 := by
  have whole : 0 ≤ ⌊60 * (now - next)⌋ := by
    rw [Int.floor_nonneg]
    linarith
  have shifted : 60 * (now - (next + 1 / 60)) = 60 * (now - next) - 1 := by ring
  rw [ticksDue, ticksDue, shifted, Int.floor_sub_one]
  omega

/-- The loop runs once for each tick that is due, as far as there is room. -/
theorem tickDue_eq (now : ℚ) (room : ℕ) (host : Host ℚ σ) :
    tickDue now room host =
      let count := min room (ticksDue host.nextTimer now)
      (count,
        { host with
          machine := ticks count host.machine
          nextTimer := host.nextTimer + count / 60 }) := by
  induction room generalizing host with
  | zero => simp [tickDue, ticks]
  | succ room ih =>
    rw [tickDue]
    by_cases due : host.nextTimer ≤ now
    · have moved : ∀ count : ℕ, host.nextTimer + 1 / 60 + (count : ℚ) / 60 =
          host.nextTimer + ((count + 1 : ℕ) : ℚ) / 60 := by
        intro count
        push_cast
        ring
      rw [if_pos due, ih, ticksDue_of_le due, Nat.add_min_add_right]
      simp only [ExactTime.frame_eq, moved]
      rfl
    · rw [if_neg due, ticksDue_eq_zero (not_le.mp due)]
      simp [ticks]

/-- How often a call at a time ticks. -/
def ticksAt (host : Host ℚ σ) (now : ℚ) : ℕ := min maxCatchUp (ticksDue host.nextTimer now)

/-- The next tick after a call at a time. The ticks that a call drops move it. -/
def nextTickAfter (host : Host ℚ σ) (now : ℚ) : ℚ :=
  if ticksDue host.nextTimer now ≤ maxCatchUp then
    host.nextTimer + ticksDue host.nextTimer now / 60
  else now + 1 / 60

/-- The host after its timers were brought up to a time. -/
def serviced (host : Host ℚ σ) (now : ℚ) : Host ℚ σ :=
  { host with
    machine := ticks (host.ticksAt now) host.machine
    nextTimer := host.nextTickAfter now
    journal := ⟨host.readings, host.now, .ticked (host.ticksAt now)⟩ :: host.journal }

/-- The host after the ticks of a call at a time, before it is seen whether ticks were dropped. -/
def ticked (host : Host ℚ σ) (now : ℚ) : Host ℚ σ :=
  { host with
    machine := ticks (host.ticksAt now) host.machine
    nextTimer := host.nextTimer + host.ticksAt now / 60 }

theorem ticked_late_iff {host : Host ℚ σ} {now : ℚ} :
    (host.ticked now).nextTimer ≤ now ↔ maxCatchUp < ticksDue host.nextTimer now := by
  rw [ticked, ← lt_ticksDue_iff, ticksAt]
  omega

theorem serviceTimers_eq (now : ℚ) (host : Host ℚ σ) :
    serviceTimers now host = .ok (host.ticksAt now) (host.serviced now) := by
  have caught : tickDue now maxCatchUp host = (host.ticksAt now, host.ticked now) :=
    tickDue_eq now maxCatchUp host
  simp only [serviceTimers, get_bind, caught]
  by_cases within : ticksDue host.nextTimer now ≤ maxCatchUp
  · have whole : host.ticksAt now = ticksDue host.nextTimer now := min_eq_right within
    rw [if_neg (mt ticked_late_iff.mp (not_lt.mpr within)), serviced, nextTickAfter, if_pos within]
    simp only [ticked, whole]
    rfl
  · rw [if_pos (ticked_late_iff.mpr (not_le.mp within)), serviced, nextTickAfter, if_neg within]
    rfl

/-! ### Sequences of calls -/

/-- The next tick comes within a sixtieth of a second after a time, and the timers are not below
zero. -/
structure InStep (host : Host ℚ σ) (time : ℚ) : Prop where
  late : time < host.nextTimer
  soon : host.nextTimer ≤ time + 1 / 60
  delay : 0 ≤ host.machine.delay
  sound : 0 ≤ host.machine.sound

variable {host found : Host ℚ σ} {base now : ℚ} {times : List ℚ}

theorem InStep.ticks_eq (inStep : host.InStep base) (count : ℕ) :
    ticks count host.machine =
      { host.machine with
        delay := max 0 (host.machine.delay - count)
        sound := max 0 (host.machine.sound - count) } :=
  Machine.ticks_eq inStep.delay inStep.sound count

theorem nextTimer_serviced_of_within (within : ticksDue host.nextTimer now ≤ maxCatchUp) :
    (host.serviced now).nextTimer = host.nextTimer + host.ticksAt now / 60 := by
  have whole : host.ticksAt now = ticksDue host.nextTimer now := min_eq_right within
  rw [whole]
  exact if_pos within

theorem nextTimer_serviced_of_overrun (overrun : ¬ ticksDue host.nextTimer now ≤ maxCatchUp) :
    (host.serviced now).nextTimer = now + 1 / 60 := if_neg overrun

/-- Ticks are dropped, but never made up. -/
theorem nextTimer_le_serviced (host : Host ℚ σ) (now : ℚ) :
    host.nextTimer + host.ticksAt now / 60 ≤ (host.serviced now).nextTimer := by
  by_cases within : ticksDue host.nextTimer now ≤ maxCatchUp
  · exact (nextTimer_serviced_of_within within).ge
  · have late : host.nextTimer + host.ticksAt now / 60 ≤ now :=
      ticked_late_iff.mpr (not_le.mp within)
    rw [nextTimer_serviced_of_overrun within]
    linarith

/-- Whatever it finds, a call brings the timers into step with its time. -/
theorem InStep.serviced (inStep : host.InStep base) (ordered : base ≤ now) :
    (host.serviced now).InStep now := by
  have machine : (host.serviced now).machine = _ := inStep.ticks_eq (host.ticksAt now)
  have soon := inStep.soon
  refine { late := ?_, soon := ?_, delay := ?_, sound := ?_ }
  · by_cases within : ticksDue host.nextTimer now ≤ maxCatchUp
    · have caught := mt ticked_late_iff.mp (not_lt.mpr within)
      rw [nextTimer_serviced_of_within within]
      exact not_le.mp caught
    · rw [nextTimer_serviced_of_overrun within]
      linarith
  · by_cases within : ticksDue host.nextTimer now ≤ maxCatchUp
    · rw [nextTimer_serviced_of_within within]
      cases ticked : host.ticksAt now with
      | zero =>
        rw [Nat.cast_zero]
        linarith
      | succ count =>
        -- The last of the ticks was due.
        have last : count < ticksDue host.nextTimer now :=
          (Nat.lt_of_succ_le ticked.ge).trans_le (min_le_right _ _)
        have due := lt_ticksDue_iff.mp last
        push_cast
        linarith
    · exact (nextTimer_serviced_of_overrun within).le
  · rw [machine]
    exact le_max_left _ _
  · rw [machine]
    exact le_max_left _ _

/-- A second call at the same time finds no tick due. -/
theorem InStep.serviceTimers_again (inStep : host.InStep now) :
    ∃ again, serviceTimers now host = .ok 0 again ∧ again.machine = host.machine := by
  have none : host.ticksAt now = 0 := by
    rw [ticksAt, ticksDue_eq_zero inStep.late]
    rfl
  refine ⟨host.serviced now, ?_, ?_⟩
  · rw [serviceTimers_eq, none]
  · rw [Host.serviced, none]
    rfl

/-- A call among those made at some times, one after another: the host that it finds, and its
time. -/
inductive Called : Host ℚ σ → List ℚ → Host ℚ σ → ℚ → Prop
  | first (host : Host ℚ σ) (now : ℚ) (later : List ℚ) : Called host (now :: later) host now
  | later {host next found : Host ℚ σ} {earlier now : ℚ} {times : List ℚ} {count : ℕ}
      (ran : serviceTimers earlier host = .ok count next) (called : Called next times found now) :
      Called host (earlier :: times) found now

theorem InStep.called (inStep : host.InStep base) (ordered : (base :: times).IsChain (· ≤ ·))
    (called : Called host times found now) : ∃ before ≤ now, found.InStep before := by
  induction called generalizing base with
  | first host now later => exact ⟨base, (List.isChain_cons_cons.mp ordered).1, inStep⟩
  | later ran called ih =>
    obtain ⟨first, rest⟩ := List.isChain_cons_cons.mp ordered
    rw [serviceTimers_eq] at ran
    cases ran
    exact ih (inStep.serviced first) rest

/-- How often the timers tick at each of some times. -/
def ticksOver (host : Host ℚ σ) : List ℚ → List ℕ
  | [] => []
  | now :: later => host.ticksAt now :: (host.serviced now).ticksOver later

theorem mapM_serviceTimers (host : Host ℚ σ) (times : List ℚ) :
    times.mapM serviceTimers host =
      .ok (host.ticksOver times) (times.foldl Host.serviced host) := by
  induction times generalizing host with
  | nil => rfl
  | cons now later ih =>
    rw [List.mapM_cons]
    simp only [bind, EStateM.bind, serviceTimers_eq, ih]
    rfl

theorem InStep.foldl (inStep : host.InStep base) (ordered : (base :: times).IsChain (· ≤ ·)) :
    (times.foldl Host.serviced host).InStep (times.getLastD base) := by
  induction times generalizing host base with
  | nil => exact inStep
  | cons now later ih =>
    obtain ⟨first, rest⟩ := List.isChain_cons_cons.mp ordered
    rw [List.foldl_cons, List.getLastD_cons]
    exact ih (inStep.serviced first) rest

theorem nextTimer_le_foldl (host : Host ℚ σ) (times : List ℚ) :
    host.nextTimer + (host.ticksOver times).sum / 60 ≤
      (times.foldl Host.serviced host).nextTimer := by
  induction times generalizing host with
  | nil => simp [ticksOver]
  | cons now later ih =>
    have first := nextTimer_le_serviced host now
    have rest := ih (host.serviced now)
    rw [ticksOver, List.sum_cons, List.foldl_cons, Nat.cast_add]
    linarith

theorem nextTimer_foldl_of_within
    (within : ∀ found now, Called host times found now →
      ticksDue found.nextTimer now ≤ maxCatchUp) :
    (times.foldl Host.serviced host).nextTimer =
      host.nextTimer + (host.ticksOver times).sum / 60 := by
  induction times generalizing host with
  | nil => simp [ticksOver]
  | cons now later ih =>
    have first := nextTimer_serviced_of_within (within host now (.first host now later))
    have rest := ih fun found time called =>
      within found time (.later (serviceTimers_eq now host) called)
    rw [ticksOver, List.sum_cons, List.foldl_cons, rest, first, Nat.cast_add]
    ring

/-- In exact time, and however the calls are spaced, each call ticks the timers for the sixtieths
of a second that are due, eight at most, and leaves the next tick within a sixtieth of a second.
All calls together tick no more often than there were sixtieths of a second, and just as often
unless a call found more than eight ticks due. -/
theorem timers_keep_time (begun : host.nextTimer = base + 1 / 60)
    (ordered : (base :: times).IsChain (· ≤ ·)) (delay : 0 ≤ host.machine.delay)
    (sound : 0 ≤ host.machine.sound) :
    ∃ counts final, times.mapM serviceTimers host = .ok counts final ∧
      (counts.sum : ℤ) ≤ ⌊60 * (times.getLastD base - base)⌋ ∧
      ((∀ found now, Called host times found now → ticksDue found.nextTimer now ≤ 8) →
        (counts.sum : ℤ) = ⌊60 * (times.getLastD base - base)⌋) ∧
      ∀ found now, Called host times found now →
        ∃ count left, serviceTimers now found = .ok count left ∧
          count = min 8 (ticksDue found.nextTimer now) ∧
          left.machine = ticks count found.machine ∧
          left.machine =
            { found.machine with
              delay := max 0 (found.machine.delay - count)
              sound := max 0 (found.machine.sound - count) } ∧
          now < left.nextTimer ∧ left.nextTimer ≤ now + 1 / 60 ∧
          ∃ again, serviceTimers now left = .ok 0 again ∧ again.machine = left.machine := by
  have inStep : host.InStep base :=
    { late := by rw [begun]; linarith, soon := begun.le, delay, sound }
  obtain ⟨late, soon⟩ := inStep.foldl ordered
  have least := nextTimer_le_foldl host times
  refine ⟨_, _, mapM_serviceTimers host times, ?_, ?_, ?_⟩
  · rw [Int.le_floor, Int.cast_natCast]
    linarith
  · intro within
    have exact := nextTimer_foldl_of_within within
    symm
    rw [Int.floor_eq_iff, Int.cast_natCast]
    constructor <;> linarith
  · intro found now called
    obtain ⟨before, earlier, foundInStep⟩ := inStep.called ordered called
    have left := foundInStep.serviced earlier
    exact ⟨_, _, serviceTimers_eq now found, rfl, rfl, foundInStep.ticks_eq _, left.late,
      left.soon, left.serviceTimers_again⟩

/-- A host without a front end, half a second into its clock and about to begin a run. -/
def halfPast : Host ℚ Unit where
  machine := { Machine.unpowered {} false {} with delay := 20, sound := 3 }
  front := ()
  interval := none
  nextTimer := 1 / 2 + 1 / 60
  nextDisplay := 0
  nextReport := 0
  now := 1 / 2

/-- The second call finds exactly eight ticks due, and the third one none. -/
theorem timers_keep_time_halfPast :
    ∃ counts final,
      [31 / 60, 39 / 60, 79 / 120].mapM serviceTimers halfPast = .ok counts final ∧
      counts.sum = 9 := by
  obtain ⟨counts, final, ran, -, whole, -⟩ :=
    @timers_keep_time Unit halfPast (1 / 2) [31 / 60, 39 / 60, 79 / 120] rfl (by decide +kernel)
      (by decide) (by decide)
  refine ⟨counts, final, ran, ?_⟩
  have within : ∀ found now, Called halfPast [31 / 60, 39 / 60, 79 / 120] found now →
      ticksDue found.nextTimer now ≤ 8 := by
    intro found now called
    cases called with
    | first => decide +kernel
    | later ran called =>
      rw [serviceTimers_eq] at ran
      cases ran
      cases called with
      | first => decide +kernel
      | later ran called =>
        rw [serviceTimers_eq] at ran
        cases ran
        cases called with
        | first => decide +kernel
        | later ran called => cases called
  have total := whole within
  have elapsed : ⌊60 * ((79 : ℚ) / 120 - 1 / 2)⌋ = 9 := by decide +kernel
  exact Int.ofNat_inj.mp (total.trans elapsed)

end Host

end Chip8
