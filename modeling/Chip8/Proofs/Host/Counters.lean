import Chip8.Proofs.Host.Iteration

/-! # The counters of the host

The host counts its frames and operations until it reports them. Whatever its clock shows, and
however its run ends, nothing is counted twice and nothing is lost: what a run reported and what
is still counted after it add up to what was counted before and what the run did.
-/

namespace Chip8.Host

variable {τ σ : Type}

namespace Event

/-- The operations that an event shows in the title. -/
def operationsReported : Event → Int
  | .reported _ operations => operations
  | _ => 0

/-- The frames that an event shows in the title. -/
def framesReported : Event → Int
  | .reported frames _ => frames
  | _ => 0

def cyclesCompleted : Event → Int
  | .cycled none => 1
  | _ => 0

def picturesDrawn : Event → Int
  | .drawn _ => 1
  | _ => 0

end Event

open Event

/-- What the events of some entries add up to. -/
def total (weight : Event → Int) : List (Entry τ) → Int
  | [] => 0
  | entry :: rest => weight entry.event + total weight rest

/-- A host and what it did since an earlier state, with its counters in agreement. -/
structure Tally (before after : Host τ σ) (during : List (Entry τ)) : Prop where
  journal : after.journal = during ++ before.journal
  operations : total operationsReported during + after.operations =
    before.operations + total cyclesCompleted during
  frames : total framesReported during + after.frames = before.frames + total picturesDrawn during

/-- What a host reported since an earlier state, and what it still counts, account for all that it
did since. -/
def Accounted (start host : Host τ σ) : Prop := ∃ during, Tally start host during

/-- What the counters and the journal of a host hold. -/
def books (host : Host τ σ) : List (Entry τ) × Nat × Nat :=
  (host.journal, host.operations, host.frames)

/-- Events that neither report nor count. -/
def Event.Quiet (event : Event) : Prop :=
  event.operationsReported = event.cyclesCompleted ∧ event.framesReported = event.picturesDrawn

variable {start host after left : Host τ σ}

theorem Accounted.refl (host : Host τ σ) : Accounted host host := by
  refine ⟨[], { journal := rfl, operations := ?_, frames := ?_ }⟩
  · rw [total, total, Int.add_comm]
  · rw [total, total, Int.add_comm]

theorem Accounted.same (accounted : Accounted start host) (same : after.books = host.books) :
    Accounted start after := by
  simp only [books, Prod.mk.injEq] at same
  obtain ⟨journal, operations, frames⟩ := same
  obtain ⟨during, tally⟩ := accounted
  refine ⟨during, { journal := ?_, operations := ?_, frames := ?_ }⟩
  · rw [journal, tally.journal]
  · rw [operations, tally.operations]
  · rw [frames, tally.frames]

/-- An event that reports what was counted, or counts what it did, keeps the counters in
agreement. -/
theorem Accounted.enter (accounted : Accounted start host) {entry : Entry τ}
    (journal : after.journal = entry :: host.journal)
    (operations : entry.event.operationsReported + after.operations =
      host.operations + entry.event.cyclesCompleted)
    (frames : entry.event.framesReported + after.frames =
      host.frames + entry.event.picturesDrawn) : Accounted start after := by
  obtain ⟨during, tally⟩ := accounted
  have operationsBefore := tally.operations
  have framesBefore := tally.frames
  refine ⟨entry :: during, { journal := ?_, operations := ?_, frames := ?_ }⟩
  · rw [journal, tally.journal, List.cons_append]
  · rw [total, total]
    omega
  · rw [total, total]
    omega

theorem Accounted.quiet (accounted : Accounted start host) (event : Event)
    (quiet : event.Quiet) (same : after.books = (host.enter event).books) :
    Accounted start after := by
  simp only [books, Prod.mk.injEq] at same
  obtain ⟨journal, operations, frames⟩ := same
  refine accounted.enter journal ?_ ?_
  · rw [operations, Int.add_comm]
    exact congrArg _ quiet.1
  · rw [frames, Int.add_comm]
    exact congrArg _ quiet.2

theorem Accounted.reported [TimeScale τ] (accounted : Accounted start host) (now : τ)
    (front : σ) : Accounted start (host.reported now front) := by
  refine accounted.enter rfl ?_ ?_
  · simp [entry, Host.reported, operationsReported, cyclesCompleted]
  · simp [entry, Host.reported, framesReported, picturesDrawn]

/-- A call of the front end that failed is not counted. -/
theorem Accounted.faulted (accounted : Accounted start host) (fault : Fault) (front : σ) :
    Accounted start (host.faulted fault front) :=
  accounted.quiet (.faulted fault) ⟨rfl, rfl⟩ rfl

theorem Accounted.polled (accounted : Accounted start host) (quit : Bool)
    (left : Keypad × σ) : Accounted start (host.polled quit left) :=
  accounted.quiet (.polled quit) ⟨rfl, rfl⟩ rfl

/-- A picture that was drawn is counted as a frame. -/
theorem Accounted.shown (accounted : Accounted start host) (front : σ) :
    Accounted start (host.shown front) := by
  refine accounted.enter rfl ?_ ?_
  · exact Int.add_comm _ _
  · simp [entry, Host.shown, Host.enter, framesReported, picturesDrawn]

theorem Accounted.timed (accounted : Accounted start host) (machine : Machine) (nextTimer : τ)
    (count : Nat) : Accounted start (host.timed machine nextTimer count) :=
  accounted.quiet (.ticked count) ⟨rfl, rfl⟩ rfl

theorem Accounted.executed (accounted : Accounted start host) : Accounted start host.executed := by
  refine executed_induction (accounted.same rfl) ?_
  intro host line accounted
  exact accounted.quiet (.traced line) ⟨rfl, rfl⟩ rfl

/-- An instruction that failed is not counted. -/
theorem Accounted.cycled {fault : Machine.Fault} (accounted : Accounted start host)
    (failure : host.machine.cycle.fault = some fault) : Accounted start host.cycled := by
  rw [Host.cycled, failure]
  exact accounted.executed.quiet (.cycled (some fault)) ⟨rfl, rfl⟩ rfl

/-- An instruction that was completed is counted. -/
theorem Accounted.counted (accounted : Accounted start host)
    (success : host.machine.cycle.fault = none) : Accounted start host.cycled.counted := by
  rw [Host.cycled, success]
  refine accounted.executed.enter rfl ?_ ?_
  · simp [entry, Host.counted, Host.enter, operationsReported, cyclesCompleted]
  · exact Int.add_comm _ _

section Readings

variable [TimeScale τ] [Front τ σ] {now : τ}

/-- A report that failed leaves its figures to be reported. -/
theorem Accounted.reports {ending : Option Ending} (accounted : Accounted start host)
    (reports : Reports host now ending left) : Accounted start left := by
  have reporting : Accounted start (host.reporting now) := accounted.same rfl
  cases reports with
  | early => exact accounted
  | told => exact accounted.reported now _
  | failed => exact reporting.faulted _ _

theorem Accounted.displays {ending : Option Ending} (accounted : Accounted start host)
    (displays : Displays host now ending left) : Accounted start left := by
  have watching (left : Keypad × σ) : Accounted start (host.watching now left) :=
    (accounted.polled false left).same rfl
  cases displays with
  | early => exact accounted
  | unanswered => exact accounted.quiet (.faulted (.input _)) ⟨rfl, rfl⟩ rfl
  | quit => exact accounted.polled true _
  | unchanged => exact watching _
  | drawn => exact (watching _).shown _
  | failed => exact (watching _).faulted _ _

theorem Accounted.iterates (accounted : Accounted start host)
    (iterates : Iterates host now left) : Accounted start left := by
  cases iterates with
  | unreported reports => exact (accounted.reports reports).same rfl
  | stopped reports displays => exact ((accounted.reports reports).displays displays).same rfl
  | failed reports displays failure =>
    have timed := ((accounted.reports reports).displays displays).timed
    exact ((timed _ _ _).cycled failure).same rfl
  | completed reports displays success =>
    have timed := ((accounted.reports reports).displays displays).timed
    exact ((timed _ _ _).counted success).same rfl

theorem Accounted.feeds (accounted : Accounted start host) (feeds : Feeds host now left) :
    Accounted start left := by
  have observed : Accounted start (host.observe now) := accounted.same rfl
  cases feeds with
  | idle => exact accounted
  | ended => exact accounted
  | begins => exact observed.quiet (.running _) ⟨rfl, rfl⟩ rfl
  | refuses => exact observed.same rfl
  | iterates looping iterates => exact observed.iterates iterates
  | waits => exact observed
  | resumes => exact observed.same rfl

theorem Accounted.foldl (accounted : Accounted start host) (readings : List τ) :
    Accounted start (readings.foldl feed host) := by
  induction readings generalizing host with
  | nil => exact accounted
  | cons now later ih => exact ih (accounted.feeds (Host.feeds host now))

/-- Whatever the readings of a run's clock are, whether or not it shows a time after them, and
however the run ends: the operations and the frames that it reported and that are left to report
are those that were left before, the instructions that it completed and the pictures that it
drew. -/
theorem counters_conserved (start : Host τ σ) (readings : List τ) :
    Accounted start (start.replay readings) ∧
      Accounted start (start.replay readings).loseTime := by
  have begun : Accounted start start.begin := (Accounted.refl start).same rfl
  have replayed : Accounted start (start.replay readings) := begun.foldl readings
  exact ⟨replayed, replayed.same rfl⟩

end Readings

end Chip8.Host
