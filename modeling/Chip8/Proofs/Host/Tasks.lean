import Chip8.Host.Run
import Chip8.Proofs.Host.ExactTime

/-! # Tasks

Polls, reports and instructions are done time after time. A host stores when it does each of them
next, and a schedule says how soon after one of them the next may come.
-/

namespace Chip8.Host

variable {σ : Type}

/-- What a run does on a schedule. -/
inductive Task where
  | poll
  | report
  | cycle
deriving DecidableEq

/-- The task that an event belongs to. -/
def Event.task? : Event → Option Task
  | .polled _ => some .poll
  | .reported _ _ => some .report
  | .cycled _ => some .cycle
  -- Titles and polls that fail come on the same schedules.
  | .faulted (.title _) => some .report
  | .faulted (.input _) => some .poll
  | _ => none

namespace Task

/-- The earliest time for a task after it was done at a time, with an interval between
instructions. -/
def next (interval : Option ℚ) : Task → ℚ → ℚ
  | poll, time => time + 1 / 60
  | report, time => ⌊time⌋ + 1
  | cycle, time => time + interval.getD 0

/-- The time before which a host does not do a task. -/
def turn (host : Host ℚ σ) : Task → ℚ
  | poll => host.nextDisplay
  | report => host.nextReport
  | cycle =>
      -- Bounded by the last reading too, so that a turn never goes back, whatever the interval is.
      match host.phase with
      | .pacing next => max next host.now
      | _ => host.now

/-- The entries of a task among some entries. -/
def among (task : Task) (entries : List (Entry ℚ)) : List (Entry ℚ) :=
  entries.filter fun entry => entry.event.task? = some task

/-- Whenever a task was done, it was not ahead of its schedule. -/
def Kept (interval : Option ℚ) (task : Task) (entries : List (Entry ℚ)) : Prop :=
  (task.among entries).Pairwise fun later earlier =>
    task.next interval earlier.time ≤ later.time

/-- A task that is done at a time is not ahead of its schedule. -/
def Allowed (interval : Option ℚ) (task : Task) (entries : List (Entry ℚ)) (time : ℚ) : Prop :=
  ∀ entry ∈ entries, entry.event.task? = some task → task.next interval entry.time ≤ time

variable {interval : Option ℚ} {task : Task} {entries : List (Entry ℚ)} {entry : Entry ℚ}
  {time later : ℚ}

theorem kept_nil : task.Kept interval [] := List.Pairwise.nil

theorem allowed_nil : task.Allowed interval [] time := by
  intro entry member
  cases member

theorem kept_cons (kept : task.Kept interval entries)
    (allowed : entry.event.task? = some task → task.Allowed interval entries entry.time) :
    task.Kept interval (entry :: entries) := by
  rw [Kept, among, List.filter_cons]
  split
  · next does =>
    refine List.pairwise_cons.mpr ⟨?_, kept⟩
    intro earlier member
    obtain ⟨member, done⟩ := List.mem_filter.mp member
    exact allowed (of_decide_eq_true does) earlier member (of_decide_eq_true done)
  · exact kept

theorem allowed_cons (allowed : task.Allowed interval entries time)
    (set : entry.event.task? = some task → task.next interval entry.time ≤ time) :
    task.Allowed interval (entry :: entries) time := by
  intro other member does
  rcases List.mem_cons.mp member with rfl | member
  · exact set does
  · exact allowed other member does

theorem Allowed.mono (allowed : task.Allowed interval entries time) (ordered : time ≤ later) :
    task.Allowed interval entries later :=
  fun entry member does => (allowed entry member does).trans ordered

end Task

/-! ### Turns -/

/-- The fields of a host that its schedules depend on. -/
structure Timing where
  interval : Option ℚ
  nextDisplay : ℚ
  nextReport : ℚ
  now : ℚ
  phase : Phase ℚ

def timing (host : Host ℚ σ) : Timing where
  interval := host.interval
  nextDisplay := host.nextDisplay
  nextReport := host.nextReport
  now := host.now
  phase := host.phase

variable {host left : Host ℚ σ}

theorem turn_congr (same : left.timing = host.timing) (task : Task) :
    task.turn left = task.turn host := by
  have now : left.now = host.now := congrArg Timing.now same
  have phase : left.phase = host.phase := congrArg Timing.phase same
  cases task with
  | poll => exact congrArg Timing.nextDisplay same
  | report => exact congrArg Timing.nextReport same
  | cycle => rw [Task.turn, Task.turn, phase, now]

theorem turn_cycle_of_looping (looping : host.phase = .looping) :
    Task.cycle.turn host = host.now := by
  rw [Task.turn, looping]

theorem turn_cycle_of_pacing {next : ℚ} (pacing : host.phase = .pacing next) :
    Task.cycle.turn host = max next host.now := by
  rw [Task.turn, pacing]

/-! ### Clock speeds -/

/-- How many instructions a second a clock speed asks for, unless they run uncapped. -/
def Speed.perSecond? : Speed → Option ℚ
  | whole rate => if rate ≤ 0 then none else some rate
  | float rate => if rate ≤ 0.0 then none else some (ExactTime.ofFloat rate)

theorem intervalOf_eq (speed : Speed) :
    (intervalOf speed : Except Fault (Option ℚ)) =
      .ok (speed.perSecond?.map fun rate => 1 / rate) := by
  cases speed with
  | whole rate =>
    rw [intervalOf, Speed.perSecond?]
    split <;> rfl
  | float rate =>
    rw [intervalOf, Speed.perSecond?]
    split <;> rfl

end Chip8.Host
