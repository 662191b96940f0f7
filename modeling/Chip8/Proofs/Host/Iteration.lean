import Chip8.Host.Run
import Chip8.Proofs.Action

/-! # What a reading leads to

Each part of an iteration leaves the host in one of a few ways, told apart by what is due, by what
the user asked for, and by whether the picture changed. So does the iteration as a whole, and with
it all that a reading of the clock makes the host do.
-/

namespace Chip8.Host

variable {τ σ : Type}

/-- An event of the host as it would be entered now. -/
def entry (host : Host τ σ) (event : Event) : Entry τ := ⟨host.readings, host.now, event⟩

def enter (host : Host τ σ) (event : Event) : Host τ σ :=
  { host with journal := host.entry event :: host.journal }

/-- How an action ends that leaves a host, and that fails if it ends the run. -/
def ended : Option Ending → Host τ σ → EStateM.Result Ending (Host τ σ) Unit
  | none, left => .ok () left
  | some ending, left => .error ending left

theorem record_eq (event : Event) (host : Host τ σ) :
    record event host = .ok () (host.enter event) := rfl

theorem get_bind {α : Type} (next : Host τ σ → Action τ σ α) (host : Host τ σ) :
    (get >>= next) host = next host host := rfl

theorem modify_eq (change : Host τ σ → Host τ σ) (host : Host τ σ) :
    (modify change : Action τ σ PUnit) host = .ok ⟨⟩ (change host) := rfl

/-- The host after its front end failed with a fault. -/
def faulted (host : Host τ σ) (fault : Fault) (front : σ) : Host τ σ :=
  enter { host with front } (.faulted fault)

/-! ### Reports -/

/-- The host at a report, with the time for the next one set. -/
def reporting [TimeScale τ] (host : Host τ σ) (now : τ) : Host τ σ :=
  { host with nextReport := TimeScale.nextSecond now }

/-- The host after it reported. -/
def reported [TimeScale τ] (host : Host τ σ) (now : τ) (front : σ) : Host τ σ :=
  { (host.reporting now).enter (.reported host.frames host.operations) with
    front
    frames := 0
    operations := 0 }

/-- How a report at a time ends, if one is due: the ending of the run, if it ends the run, and the
host that it leaves. -/
inductive Reports [TimeScale τ] [Front τ σ] (host : Host τ σ) (now : τ) :
    Option Ending → Host τ σ → Prop
  | early (early : ¬ host.nextReport ≤ now) : Reports host now none host
  | told {front : σ} (due : host.nextReport ≤ now)
      (told : Front.setTitle (title host.frames host.operations) host.front = .ok () front) :
      Reports host now none (host.reported now front)
  | failed {front : σ} {fault : Display.Fault} (due : host.nextReport ≤ now)
      (failure : Front.setTitle (title host.frames host.operations) host.front =
        .error fault front) :
      Reports host now (some (.failed (.title fault)))
        ((host.reporting now).faulted (.title fault) front)

theorem report_ok [Front τ σ] {host : Host τ σ} {frames operations : Int} {front : σ}
    (told : Front.setTitle (title frames operations) host.front = .ok () front) :
    report frames operations host =
      .ok () (enter { host with front } (.reported frames operations)) := by
  rw [report, get_bind]
  simp only [told]
  rfl

theorem report_error [Front τ σ] {host : Host τ σ} {frames operations : Int} {front : σ}
    {fault : Display.Fault}
    (failed : Front.setTitle (title frames operations) host.front = .error fault front) :
    report frames operations host =
      .error (.failed (.title fault)) (host.faulted (.title fault) front) := by
  rw [report, get_bind]
  simp only [failed]
  rfl

theorem reports [TimeScale τ] [Front τ σ] (host : Host τ σ) (now : τ) :
    ∃ ending left, Reports host now ending left ∧ reportWhenDue now host = ended ending left := by
  rw [reportWhenDue, get_bind]
  by_cases due : host.nextReport ≤ now
  · rw [if_pos due]
    change ∃ ending left, _ ∧ (report host.frames host.operations >>= _)
      (host.reporting now) = _
    cases ran : Front.setTitle (title host.frames host.operations) (host.reporting now).front with
    | ok _ front =>
      rw [bind_ok (report_ok ran)]
      exact ⟨_, _, .told due ran, rfl⟩
    | error fault front =>
      rw [bind_error (report_error ran)]
      exact ⟨_, _, .failed due ran, rfl⟩
  · rw [if_neg due]
    exact ⟨_, _, .early due, rfl⟩

/-! ### Inputs and pictures -/

/-- What polling at a time does. -/
def poll [Front τ σ] (host : Host τ σ) (now : τ) : EStateM.Result PollFault (Keypad × σ) Bool :=
  Front.poll now (host.machine.keypad, host.front)

/-- The host after a poll. -/
def polled (host : Host τ σ) (quit : Bool) (left : Keypad × σ) : Host τ σ :=
  (host.handed left).enter (.polled quit)

/-- The host after a poll that failed. -/
def unanswered (host : Host τ σ) (fault : PollFault) (left : Keypad × σ) : Host τ σ :=
  (host.handed left).enter (.faulted (.input fault))

theorem pollInputs_ok [Front τ σ] {host : Host τ σ} {now : τ} {quit : Bool} {left : Keypad × σ}
    (polled : host.poll now = .ok quit left) :
    pollInputs now host = .ok quit (host.polled quit left) := by
  rw [poll] at polled
  rw [pollInputs, get_bind]
  simp only [polled]
  rfl

theorem pollInputs_error [Front τ σ] {host : Host τ σ} {now : τ} {fault : PollFault}
    {left : Keypad × σ} (failed : host.poll now = .error fault left) :
    pollInputs now host = .error (.failed (.input fault)) (host.unanswered fault left) := by
  rw [poll] at failed
  rw [pollInputs, get_bind]
  simp only [failed]
  rfl

/-- The host between a poll that asked nothing of it and the picture. -/
def watching [TimeScale τ] (host : Host τ σ) (now : τ) (left : Keypad × σ) : Host τ σ :=
  { host.polled false left with nextDisplay := now + TimeScale.frame }

def picture (host : Host τ σ) : Array UInt8 := host.machine.framebuffer.view

/-- The host after its display showed the picture. -/
def shown (host : Host τ σ) (front : σ) : Host τ σ :=
  { host.enter (.drawn host.picture) with
    front
    machine :=
      { host.machine with framebuffer := { host.machine.framebuffer with dirty := false } }
    frames := host.frames + 1 }

/-- How polling and presenting at a time ends: the ending of the run, if it ends the run, and the
host that it leaves. -/
inductive Displays [TimeScale τ] [Front τ σ] (host : Host τ σ) (now : τ) :
    Option Ending → Host τ σ → Prop
  | early (early : ¬ host.nextDisplay ≤ now) : Displays host now none host
  | unanswered {left : Keypad × σ} {fault : PollFault} (due : host.nextDisplay ≤ now)
      (failure : host.poll now = .error fault left) :
      Displays host now (some (.failed (.input fault))) (host.unanswered fault left)
  | quit {left : Keypad × σ} (due : host.nextDisplay ≤ now)
      (asked : host.poll now = .ok true left) :
      Displays host now (some .quit) (host.polled true left)
  | unchanged {left : Keypad × σ} (due : host.nextDisplay ≤ now)
      (stays : host.poll now = .ok false left)
      (clean : host.machine.framebuffer.dirty = false) :
      Displays host now none (host.watching now left)
  | drawn {left : Keypad × σ} {front : σ} (due : host.nextDisplay ≤ now)
      (stays : host.poll now = .ok false left) (dirty : host.machine.framebuffer.dirty = true)
      (drew : Front.draw host.picture left.2 = .ok () front) :
      Displays host now none ((host.watching now left).shown front)
  | failed {left : Keypad × σ} {front : σ} {fault : Display.Fault}
      (due : host.nextDisplay ≤ now) (stays : host.poll now = .ok false left)
      (dirty : host.machine.framebuffer.dirty = true)
      (failure : Front.draw host.picture left.2 = .error fault front) :
      Displays host now (some (.failed (.display fault)))
        ((host.watching now left).faulted (.display fault) front)

section Presenting

variable [Front τ σ] {host : Host τ σ} {front : σ}

theorem refreshDisplay_clean (clean : host.machine.framebuffer.dirty = false) :
    refreshDisplay host = .ok false host := by
  rw [refreshDisplay, get_bind]
  simp only [Framebuffer.present, clean, Bool.false_eq_true, if_false]
  rfl

theorem refreshDisplay_drawn (dirty : host.machine.framebuffer.dirty = true)
    (drew : Front.draw host.picture host.front = .ok () front) :
    refreshDisplay host = .ok true { host.shown front with frames := host.frames } := by
  rw [picture] at drew
  rw [refreshDisplay, get_bind]
  simp only [Framebuffer.present, dirty, if_true, bind_ok drew]
  rfl

theorem refreshDisplay_failed {fault : Display.Fault}
    (dirty : host.machine.framebuffer.dirty = true)
    (failure : Front.draw host.picture host.front = .error fault front) :
    refreshDisplay host =
      .error (.failed (.display fault)) (host.faulted (.display fault) front) := by
  rw [picture] at failure
  rw [refreshDisplay, get_bind]
  simp only [Framebuffer.present, dirty, if_true, bind_error failure]
  rfl

end Presenting

theorem displays [TimeScale τ] [Front τ σ] (host : Host τ σ) (now : τ) :
    ∃ ending left, Displays host now ending left ∧
      displayWhenDue now host = ended ending left := by
  rw [displayWhenDue, get_bind]
  by_cases due : host.nextDisplay ≤ now
  · rw [if_pos due]
    cases answer : host.poll now with
    | error fault left =>
      rw [bind_error (pollInputs_error answer)]
      exact ⟨_, _, .unanswered due answer, rfl⟩
    | ok quit left =>
      rw [bind_ok (pollInputs_ok answer)]
      cases quit with
      | true => exact ⟨_, _, .quit due answer, rfl⟩
      | false =>
        change ∃ ending left, _ ∧ (refreshDisplay >>= _) (host.watching now _) = _
        cases marked : (host.watching now left).machine.framebuffer.dirty with
        | false =>
          rw [bind_ok (refreshDisplay_clean marked)]
          exact ⟨_, _, .unchanged due answer marked, rfl⟩
        | true =>
          cases drew : Front.draw (host.watching now left).picture left.2 with
          | ok _ front =>
            rw [bind_ok (refreshDisplay_drawn marked drew)]
            exact ⟨_, _, .drawn due answer marked drew, rfl⟩
          | error fault front =>
            rw [bind_error (refreshDisplay_failed marked drew)]
            exact ⟨_, _, .failed due answer marked drew, rfl⟩
  · rw [if_neg due]
    exact ⟨_, _, .early due, rfl⟩

/-! ### Timers -/

/-- The host with its timers brought to a machine and a next tick. -/
def timed (host : Host τ σ) (machine : Machine) (nextTimer : τ) (count : Nat) : Host τ σ :=
  enter { host with machine, nextTimer } (.ticked count)

theorem tickDue_frame [TimeScale τ] (now : τ) (room : Nat) (host : Host τ σ) :
    ∃ count machine nextTimer,
      tickDue now room host = (count, { host with machine, nextTimer }) := by
  induction room generalizing host with
  | zero => exact ⟨0, host.machine, host.nextTimer, rfl⟩
  | succ room ih =>
    rw [tickDue]
    by_cases due : host.nextTimer ≤ now
    · obtain ⟨count, machine, nextTimer, ticked⟩ :=
        ih { host with
          machine := host.machine.tick
          nextTimer := host.nextTimer + TimeScale.frame }
      rw [if_pos due, ticked]
      exact ⟨count + 1, machine, nextTimer, rfl⟩
    · rw [if_neg due]
      exact ⟨0, host.machine, host.nextTimer, rfl⟩

/-- Bringing the timers up to date changes nothing else. -/
theorem serviceTimers_frame [TimeScale τ] (now : τ) (host : Host τ σ) :
    ∃ count machine nextTimer,
      serviceTimers now host = .ok count (host.timed machine nextTimer count) := by
  obtain ⟨count, machine, nextTimer, ticked⟩ := tickDue_frame now maxCatchUp host
  simp only [serviceTimers, get_bind, ticked]
  by_cases late : nextTimer ≤ now
  · rw [if_pos late]
    exact ⟨count, machine, now + TimeScale.frame, rfl⟩
  · rw [if_neg late]
    exact ⟨count, machine, nextTimer, rfl⟩

/-! ### Instructions -/

def traced (host : Host τ σ) (lines : List String) : Host τ σ :=
  lines.foldl (fun host line => host.enter (.traced line)) host

/-- The host with what a cycle of its machine left, before the cycle is entered. -/
def executed (host : Host τ σ) : Host τ σ :=
  let outcome := host.machine.cycle
  traced { host with machine := outcome.machine } outcome.traces

/-- The host after it ran an instruction, which may have failed. -/
def cycled (host : Host τ σ) : Host τ σ :=
  host.executed.enter (.cycled host.machine.cycle.fault)

/-- What each line that is traced keeps holds after the lines of a cycle if it holds of the host
with its machine after the cycle. -/
theorem executed_induction {motive : Host τ σ → Prop} {host : Host τ σ}
    (machine : motive { host with machine := host.machine.cycle.machine })
    (line : ∀ host line, motive host → motive (host.enter (.traced line))) :
    motive host.executed := by
  rw [executed]
  generalize { host with machine := host.machine.cycle.machine } = first at machine ⊢
  generalize host.machine.cycle.traces = lines
  induction lines generalizing first with
  | nil => exact machine
  | cons next rest ih => exact ih _ (line first next machine)

theorem forM_traced (lines : List String) (host : Host τ σ) :
    (lines.forM fun line => record (.traced line)) host = .ok () (host.traced lines) := by
  induction lines generalizing host with
  | nil => rfl
  | cons line rest ih => exact ih (host.enter (.traced line))

theorem runCycle_eq (host : Host τ σ) :
    runCycle host =
      match host.machine.cycle.fault with
      | some fault => .error (.failed (.machine fault)) host.cycled
      | none => .ok () host.cycled := by
  have traces := forM_traced host.machine.cycle.traces
    { host with machine := host.machine.cycle.machine }
  rw [runCycle, get_bind, take, bind_ok (modify_eq _ host), bind_ok traces,
    bind_ok (record_eq _ _), cycled, executed]
  cases host.machine.cycle.fault <;> rfl

theorem runCycle_ok {host : Host τ σ} (success : host.machine.cycle.fault = none) :
    runCycle host = .ok () host.cycled := by
  rw [runCycle_eq, success]

theorem runCycle_error {host : Host τ σ} {fault : Machine.Fault}
    (failure : host.machine.cycle.fault = some fault) :
    runCycle host = .error (.failed (.machine fault)) host.cycled := by
  rw [runCycle_eq, failure]

/-! ### Iterations and readings -/

theorem settle_ok {action : Action τ σ Unit} {host left : Host τ σ}
    (ran : action host = .ok () left) : settle action host = left := by
  rw [settle, ran]

theorem settle_error {action : Action τ σ Unit} {host left : Host τ σ} {ending : Ending}
    (failed : action host = .error ending left) :
    settle action host = { left with phase := .ended ending } := by
  rw [settle, failed]

theorem settle_start [TimeScale τ] (host : Host τ σ) (now : τ) :
    (∃ rate, settle (start now) host =
      { host.enter (.running rate) with
        nextTimer := now + TimeScale.frame
        phase := .looping }) ∨
    ∃ fault, settle (start now) host =
      { host with
        nextTimer := now + TimeScale.frame
        phase := .ended (.failed (.rate fault)) } := by
  obtain ⟨_, _, interval⟩ := host
  simp only [settle, start, bind_ok (modify_eq _ _), get_bind]
  cases interval with
  | none => exact .inl ⟨none, rfl⟩
  | some interval =>
    cases told : TimeScale.rate interval with
    | ok rate =>
      simp only [told]
      exact .inl ⟨some rate, rfl⟩
    | error fault =>
      simp only [told]
      exact .inr ⟨fault, rfl⟩

def counted (host : Host τ σ) : Host τ σ := { host with operations := host.operations + 1 }

/-- The host once an iteration that began at a time is over. -/
def paced [TimeScale τ] (host : Host τ σ) (now : τ) : Host τ σ :=
  { host with
    phase := match host.interval with
      | none => .looping
      | some interval => .pacing (now + interval) }

theorem pace_eq [TimeScale τ] (now : τ) (host : Host τ σ) :
    pace now host = .ok () (host.paced now) := rfl

section Readings

variable [TimeScale τ] [Front τ σ]

/-- How an iteration at a time ends. -/
inductive Iterates (host : Host τ σ) (now : τ) : Host τ σ → Prop
  | unreported {reported : Host τ σ} {ending : Ending}
      (reports : Reports host now (some ending) reported) :
      Iterates host now { reported with phase := .ended ending }
  | stopped {reported displayed : Host τ σ} {ending : Ending}
      (reports : Reports host now none reported)
      (displays : Displays reported now (some ending) displayed) :
      Iterates host now { displayed with phase := .ended ending }
  | failed {reported displayed : Host τ σ} {machine : Machine} {nextTimer : τ} {count : Nat}
      {fault : Machine.Fault} (reports : Reports host now none reported)
      (displays : Displays reported now none displayed)
      (failure : machine.cycle.fault = some fault) :
      Iterates host now
        { (displayed.timed machine nextTimer count).cycled with
          phase := .ended (.failed (.machine fault)) }
  | completed {reported displayed : Host τ σ} {machine : Machine} {nextTimer : τ} {count : Nat}
      (reports : Reports host now none reported)
      (displays : Displays reported now none displayed) (success : machine.cycle.fault = none) :
      Iterates host now ((displayed.timed machine nextTimer count).cycled.counted.paced now)

theorem iterates (host : Host τ σ) (now : τ) :
    Iterates host now (settle (iterate now) host) := by
  obtain ⟨ending, reported, reports, told⟩ := reports host now
  cases ending with
  | some ending =>
    have unreported : iterate now host = .error ending reported := by
      rw [iterate, bind_error told]
    rw [settle_error unreported]
    exact .unreported reports
  | none =>
    obtain ⟨ending, displayed, displays, ran⟩ := displays reported now
    cases ending with
    | some ending =>
      have stopped : iterate now host = .error ending displayed := by
        rw [iterate, bind_ok told, bind_error ran]
      rw [settle_error stopped]
      exact .stopped reports displays
    | none =>
      obtain ⟨count, machine, nextTimer, ticked⟩ := serviceTimers_frame now displayed
      cases cycle : (displayed.timed machine nextTimer count).machine.cycle.fault with
      | some fault =>
        have failed : iterate now host = .error (.failed (.machine fault))
            (displayed.timed machine nextTimer count).cycled := by
          rw [iterate, bind_ok told, bind_ok ran, bind_ok ticked,
            bind_error (runCycle_error cycle)]
        rw [settle_error failed]
        exact .failed reports displays cycle
      | none =>
        have completed : iterate now host =
            .ok () ((displayed.timed machine nextTimer count).cycled.counted.paced now) := by
          rw [iterate, bind_ok told, bind_ok ran, bind_ok ticked, bind_ok (runCycle_ok cycle),
            bind_ok (modify_eq _ _), pace_eq, counted]
        rw [settle_ok completed]
        exact .completed reports displays cycle

/-- What a reading of the clock leads to. -/
inductive Feeds (host : Host τ σ) (now : τ) : Host τ σ → Prop
  | idle (idle : host.phase = .idle) : Feeds host now host
  | ended {ending : Ending} (ended : host.phase = .ended ending) : Feeds host now host
  | begins {rate : Option Int} (starting : host.phase = .starting) :
      Feeds host now
        { (host.observe now).enter (.running rate) with
          nextTimer := now + TimeScale.frame
          phase := .looping }
  | refuses {fault : RateFault} (starting : host.phase = .starting) :
      Feeds host now
        { host.observe now with
          nextTimer := now + TimeScale.frame
          phase := .ended (.failed (.rate fault)) }
  | iterates {left : Host τ σ} (looping : host.phase = .looping)
      (iterates : Iterates (host.observe now) now left) : Feeds host now left
  | waits {next : τ} (pacing : host.phase = .pacing next) (early : now < next) :
      Feeds host now (host.observe now)
  | resumes {next : τ} (pacing : host.phase = .pacing next) (due : ¬ now < next) :
      Feeds host now { host.observe now with phase := .looping }

theorem feeds (host : Host τ σ) (now : τ) : Feeds host now (host.feed now) := by
  unfold feed
  split
  · next idle => exact .idle idle
  · next ended => exact .ended ended
  · next starting =>
    obtain ⟨rate, begun⟩ | ⟨fault, refused⟩ := settle_start (host.observe now) now
    · rw [begun]
      exact .begins starting
    · rw [refused]
      exact .refuses starting
  · next looping => exact .iterates looping (iterates (host.observe now) now)
  · next next pacing =>
    split
    · next early => exact .waits pacing early
    · next due => exact .resumes pacing due

end Readings

end Chip8.Host
