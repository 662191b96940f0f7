import Chip8.Proofs.Host.Iteration

/-! # Recorded front ends

A front end may write down each call that is made of it and what came of the call. A host does with
it what it does with the front end alone, and what the journal tells of titles, pictures and polls
is what was written down.
-/

namespace Chip8

/-- What came of a call of a front end. -/
inductive Call where
  | titled (title : String)
  | drawn (cells : Array UInt8)
  | polled (quit : Bool)
  /-- A title, a picture or a poll that the front end failed at. -/
  | failed (fault : Host.Fault)
deriving DecidableEq, Repr

/-- A front end with the calls that were made of it, the latest first. -/
structure Recording (σ : Type) where
  front : σ
  calls : List Call := []

namespace Recording

variable {τ σ ε : Type}

/-- The recording after a call that left its front end so. -/
def noting (recording : Recording σ) (call : Call) (front : σ) : Recording σ :=
  { front, calls := call :: recording.calls }

/-- Calls a front end and writes down what came of it. -/
def perform (action : EStateM ε σ Unit) (done : Call) (failed : ε → Call) :
    EStateM ε (Recording σ) Unit := fun recording =>
  match action recording.front with
  | .ok _ front => .ok () (recording.noting done front)
  | .error fault front => .error fault (recording.noting (failed fault) front)

/-- Polls a front end and writes down what came of it. -/
def poll [Front τ σ] (now : τ) : EStateM PollFault (Keypad × Recording σ) Bool :=
  fun (keypad, recording) =>
    match Front.poll now (keypad, recording.front) with
    | .ok quit left => .ok quit (left.1, recording.noting (.polled quit) left.2)
    | .error fault left =>
        .error fault (left.1, recording.noting (.failed (.input fault)) left.2)

instance [Front τ σ] : Front τ (Recording σ) where
  resize width height recording :=
    match Front.resize width height recording.front with
    | .ok _ front => .ok () { recording with front }
    | .error fault front => .error fault { recording with front }
  setTitle title := perform (Front.setTitle title) (.titled title) fun fault =>
    .failed (.title fault)
  draw cells := perform (Front.draw cells) (.drawn cells) fun fault => .failed (.display fault)
  poll := poll

section Performing

variable {action : EStateM ε σ Unit} {done : Call} {failed : ε → Call} {recording : Recording σ}
  {front : σ}

theorem perform_ok (ran : action recording.front = .ok () front) :
    perform action done failed recording = .ok () (recording.noting done front) := by
  rw [perform, ran]

theorem perform_error {fault : ε} (ran : action recording.front = .error fault front) :
    perform action done failed recording =
      .error fault (recording.noting (failed fault) front) := by
  rw [perform, ran]

theorem calls_of_perform_ok {left : Recording σ}
    (ran : perform action done failed recording = .ok () left) :
    left.calls = done :: recording.calls := by
  rw [perform] at ran
  split at ran <;> cases ran
  rfl

theorem calls_of_perform_error {fault : ε} {left : Recording σ}
    (ran : perform action done failed recording = .error fault left) :
    left.calls = failed fault :: recording.calls := by
  rw [perform] at ran
  split at ran <;> cases ran
  rfl

end Performing

section Polling

variable [Front τ σ] {now : τ} {keypad : Keypad} {left : Keypad × σ} {recording : Recording σ}
  {after : Keypad × Recording σ}

theorem poll_ok {quit : Bool}
    (answer : Front.poll now (keypad, recording.front) = .ok quit left) :
    poll now (keypad, recording) = .ok quit (left.1, recording.noting (.polled quit) left.2) := by
  rw [poll, answer]

theorem poll_error {fault : PollFault}
    (failed : Front.poll now (keypad, recording.front) = .error fault left) :
    poll now (keypad, recording) =
      .error fault (left.1, recording.noting (.failed (.input fault)) left.2) := by
  rw [poll, failed]

theorem calls_of_poll_ok {quit : Bool} (ran : poll now (keypad, recording) = .ok quit after) :
    after.2.calls = .polled quit :: recording.calls := by
  rw [poll] at ran
  split at ran <;> cases ran
  rfl

theorem calls_of_poll_error {fault : PollFault}
    (ran : poll now (keypad, recording) = .error fault after) :
    after.2.calls = .failed (.input fault) :: recording.calls := by
  rw [poll] at ran
  split at ran <;> cases ran
  rfl

end Polling

end Recording

namespace Host

variable {τ σ α β : Type}

/-! ### The host without its recording -/

def unrecorded (host : Host τ (Recording σ)) : Host τ σ := { host with front := host.front.front }

/-- How an action ends, without the recording. -/
def outcome : EStateM.Result Ending (Host τ (Recording σ)) α → EStateM.Result Ending (Host τ σ) α
  | .ok value left => .ok value left.unrecorded
  | .error ending left => .error ending left.unrecorded

/-- An action does with a recorded front end what another does with the front end alone. -/
def Mirrors (recorded : Action τ (Recording σ) α) (plain : Action τ σ α) : Prop :=
  ∀ host, outcome (recorded host) = plain host.unrecorded

namespace Mirrors

variable {recorded : Action τ (Recording σ) α} {plain : Action τ σ α}

theorem bind {next : α → Action τ (Recording σ) β} {nextPlain : α → Action τ σ β}
    (first : Mirrors recorded plain) (rest : ∀ value, Mirrors (next value) (nextPlain value)) :
    Mirrors (recorded >>= next) (plain >>= nextPlain) := by
  intro host
  have same := first host
  simp only [Bind.bind, EStateM.bind, ← same]
  cases recorded host with
  | ok value left => exact rest value left
  | error ending left => rfl

theorem modify {change : Host τ (Recording σ) → Host τ (Recording σ)}
    {changePlain : Host τ σ → Host τ σ}
    (same : ∀ host, (change host).unrecorded = changePlain host.unrecorded) :
    Mirrors (modify change : Action τ (Recording σ) PUnit) (modify changePlain) :=
  fun host => congrArg (EStateM.Result.ok PUnit.unit) (same host)

theorem pure (value : α) :
    Mirrors (pure value : Action τ (Recording σ) α) (pure value) := fun _ => rfl

theorem set (host : Host τ (Recording σ)) :
    Mirrors (set host : Action τ (Recording σ) PUnit) (set host.unrecorded) := fun _ => rfl

theorem get_bind {next : Host τ (Recording σ) → Action τ (Recording σ) α}
    {nextPlain : Host τ σ → Action τ σ α}
    (rest : ∀ host, Mirrors (next host) (nextPlain host.unrecorded)) :
    Mirrors (get >>= next) (get >>= nextPlain) := fun host => rest host host

theorem ite {condition : Prop} [Decidable condition] {other : Action τ (Recording σ) α}
    {otherPlain : Action τ σ α} (first : Mirrors recorded plain)
    (second : Mirrors other otherPlain) :
    Mirrors (if condition then recorded else other) (if condition then plain else otherPlain) := by
  by_cases holds : condition
  · rw [if_pos holds, if_pos holds]
    exact first
  · rw [if_neg holds, if_neg holds]
    exact second

end Mirrors

theorem mirrors_start [TimeScale τ] (now : τ) :
    Mirrors (start now : Action τ (Recording σ) Unit) (start now) := by
  intro host
  obtain ⟨_, _, interval⟩ := host
  cases interval with
  | none => rfl
  | some interval =>
    simp only [start, bind_ok (modify_eq _ _), get_bind, unrecorded]
    cases TimeScale.rate interval <;> rfl

section Front

variable [Front τ σ]

theorem mirrors_report (frames operations : Int) :
    Mirrors (report frames operations : Action τ (Recording σ) Unit)
      (report frames operations) := by
  intro host
  cases told : Front.setTitle (title frames operations) host.front.front with
  | ok _ front =>
    have noted : Front.setTitle (title frames operations) host.front = .ok () _ :=
      Recording.perform_ok told
    rw [report_ok noted, @report_ok _ _ _ host.unrecorded _ _ _ told]
    rfl
  | error fault front =>
    have noted : Front.setTitle (title frames operations) host.front = .error fault _ :=
      Recording.perform_error told
    rw [report_error noted, @report_error _ _ _ host.unrecorded _ _ _ _ told]
    rfl

theorem mirrors_pollInputs (now : τ) :
    Mirrors (pollInputs now : Action τ (Recording σ) Bool) (pollInputs now) := by
  intro host
  cases answer : Front.poll now (host.machine.keypad, host.front.front) with
  | ok quit left =>
    have noted : host.poll now = .ok quit _ := Recording.poll_ok answer
    rw [pollInputs_ok noted, @pollInputs_ok _ _ _ host.unrecorded _ _ _ answer]
    rfl
  | error fault left =>
    have noted : host.poll now = .error fault _ := Recording.poll_error answer
    rw [pollInputs_error noted, @pollInputs_error _ _ _ host.unrecorded _ _ _ answer]
    rfl

theorem mirrors_refreshDisplay :
    Mirrors (refreshDisplay : Action τ (Recording σ) Bool) refreshDisplay := by
  intro host
  cases marked : host.machine.framebuffer.dirty with
  | false =>
    rw [refreshDisplay_clean marked, @refreshDisplay_clean _ _ _ host.unrecorded marked]
    rfl
  | true =>
    cases drew : Front.draw host.picture host.front.front with
    | ok _ front =>
      have noted : Front.draw host.picture host.front = .ok () _ := Recording.perform_ok drew
      rw [refreshDisplay_drawn marked noted,
        @refreshDisplay_drawn _ _ _ host.unrecorded _ marked drew]
      rfl
    | error fault front =>
      have noted : Front.draw host.picture host.front = .error fault _ :=
        Recording.perform_error drew
      rw [refreshDisplay_failed marked noted,
        @refreshDisplay_failed _ _ _ host.unrecorded _ _ marked drew]
      rfl

end Front

theorem unrecorded_traced (lines : List String) (host : Host τ (Recording σ)) :
    (host.traced lines).unrecorded = host.unrecorded.traced lines := by
  induction lines generalizing host with
  | nil => rfl
  | cons line rest ih => exact ih (host.enter (.traced line))

theorem unrecorded_cycled (host : Host τ (Recording σ)) :
    host.cycled.unrecorded = host.unrecorded.cycled := by
  have executed : host.executed.unrecorded = host.unrecorded.executed :=
    unrecorded_traced host.machine.cycle.traces { host with machine := host.machine.cycle.machine }
  rw [cycled, cycled, ← executed]
  rfl

theorem mirrors_runCycle : Mirrors (runCycle : Action τ (Recording σ) Unit) runCycle := by
  intro host
  have fault : host.unrecorded.machine.cycle.fault = host.machine.cycle.fault := rfl
  rw [runCycle_eq, runCycle_eq, fault, ← unrecorded_cycled]
  cases host.machine.cycle.fault <;> rfl

theorem unrecorded_settle {recorded : Action τ (Recording σ) Unit} {plain : Action τ σ Unit}
    (mirrors : Mirrors recorded plain) (host : Host τ (Recording σ)) :
    (settle recorded host).unrecorded = settle plain host.unrecorded := by
  have same := mirrors host
  rw [settle, settle, ← same]
  cases recorded host <;> rfl

/-! ### Iterations and readings without the recording -/

section Readings

variable [TimeScale τ]

theorem unrecorded_tickDue (now : τ) (room : Nat) (host : Host τ (Recording σ)) :
    tickDue now room host.unrecorded =
      ((tickDue now room host).1, (tickDue now room host).2.unrecorded) := by
  induction room generalizing host with
  | zero => rfl
  | succ room ih =>
    rw [tickDue, tickDue]
    change (if host.nextTimer ≤ now then _ else _) = _
    by_cases due : host.nextTimer ≤ now
    · rw [if_pos due, if_pos due]
      have later := ih { host with
        machine := host.machine.tick
        nextTimer := host.nextTimer + TimeScale.frame }
      rw [unrecorded] at later
      rw [unrecorded, later]
    · rw [if_neg due, if_neg due]

theorem mirrors_serviceTimers (now : τ) :
    Mirrors (serviceTimers now : Action τ (Recording σ) Nat) (serviceTimers now) := by
  intro host
  simp only [serviceTimers, get_bind, unrecorded_tickDue]
  obtain ⟨count, left⟩ := tickDue now maxCatchUp host
  by_cases late : left.nextTimer ≤ now
  · have lateToo : left.unrecorded.nextTimer ≤ now := late
    simp only [if_pos late, if_pos lateToo]
    rfl
  · have earlyToo : ¬ left.unrecorded.nextTimer ≤ now := late
    simp only [if_neg late, if_neg earlyToo]
    rfl

variable [Front τ σ]

theorem mirrors_reportWhenDue (now : τ) :
    Mirrors (reportWhenDue now : Action τ (Recording σ) Unit) (reportWhenDue now) := by
  refine .get_bind fun host => .ite ?_ (.pure _)
  refine (Mirrors.set _).bind fun _ => ?_
  exact (mirrors_report host.frames host.operations).bind fun _ => .modify fun _ => rfl

theorem mirrors_displayWhenDue (now : τ) :
    Mirrors (displayWhenDue now : Action τ (Recording σ) Unit) (displayWhenDue now) := by
  refine .get_bind fun host => .ite ?_ (.pure _)
  refine (mirrors_pollInputs now).bind fun quit => ?_
  cases quit with
  | true => exact fun _ => rfl
  | false =>
    refine (Mirrors.modify fun _ => rfl).bind fun _ => ?_
    refine mirrors_refreshDisplay.bind fun drawn => ?_
    exact .ite (.modify fun _ => rfl) (.pure _)

theorem mirrors_iterate (now : τ) :
    Mirrors (iterate now : Action τ (Recording σ) Unit) (iterate now) := by
  refine (mirrors_reportWhenDue now).bind fun _ => ?_
  refine (mirrors_displayWhenDue now).bind fun _ => ?_
  refine (mirrors_serviceTimers now).bind fun _ => ?_
  refine mirrors_runCycle.bind fun _ => ?_
  exact (Mirrors.modify fun _ => rfl).bind fun _ => .modify fun _ => rfl

theorem unrecorded_feed (host : Host τ (Recording σ)) (now : τ) :
    (host.feed now).unrecorded = host.unrecorded.feed now := by
  have phase : host.unrecorded.phase = host.phase := rfl
  rw [feed, feed, phase]
  split
  · rfl
  · rfl
  · exact unrecorded_settle (mirrors_start now) (host.observe now)
  · exact unrecorded_settle (mirrors_iterate now) (host.observe now)
  · split <;> rfl

/-- A run with a recorded front end is the run with the front end alone. -/
theorem unrecorded_replay (host : Host τ (Recording σ)) (readings : List τ) :
    (host.replay readings).unrecorded = host.unrecorded.replay readings := by
  rw [replay, replay]
  change (readings.foldl feed host.begin).unrecorded =
    readings.foldl feed host.begin.unrecorded
  generalize host.begin = host
  induction readings generalizing host with
  | nil => rfl
  | cons now later ih => rw [List.foldl_cons, List.foldl_cons, ih, unrecorded_feed]

end Readings

/-! ### What was written down -/

/-- The call of the front end that an event tells of. -/
def Event.call? : Event → Option Call
  | .reported frames operations => some (.titled (title frames operations))
  | .drawn cells => some (.drawn cells)
  | .polled quit => some (.polled quit)
  | .faulted fault => some (.failed fault)
  | _ => none

/-- The calls of the front end that some entries tell of. -/
def calls (entries : List (Entry τ)) : List Call :=
  entries.filterMap fun entry => entry.event.call?

/-- Between two states, the front end wrote down the calls that the journal tells of. -/
def WroteDown (before after : Host τ (Recording σ)) : Prop :=
  ∃ during, after.journal = during ++ before.journal ∧
    after.front.calls = calls during ++ before.front.calls

variable {before host left : Host τ (Recording σ)}

namespace WroteDown

theorem refl (host : Host τ (Recording σ)) : WroteDown host host := ⟨[], rfl, rfl⟩

theorem same (written : WroteDown before host) (journal : left.journal = host.journal)
    (front : left.front = host.front) : WroteDown before left := by
  obtain ⟨during, entries, calls⟩ := written
  exact ⟨during, journal.trans entries, (congrArg Recording.calls front).trans calls⟩

theorem enter (written : WroteDown before host) {event : Event}
    (journal : left.journal = host.entry event :: host.journal)
    (calls : left.front.calls = event.call?.toList ++ host.front.calls) :
    WroteDown before left := by
  obtain ⟨during, entries, earlier⟩ := written
  refine ⟨host.entry event :: during, ?_, ?_⟩
  · rw [journal, entries, List.cons_append]
  · have split : Host.calls (host.entry event :: during) =
        event.call?.toList ++ Host.calls during := by
      rw [Host.calls, List.filterMap_cons, entry]
      cases event.call? <;> rfl
    rw [calls, earlier, split, List.append_assoc]

theorem timed (written : WroteDown before host) (machine : Machine) (nextTimer : τ)
    (count : Nat) : WroteDown before (host.timed machine nextTimer count) :=
  written.enter rfl rfl

theorem cycled (written : WroteDown before host) : WroteDown before host.cycled := by
  have executed : WroteDown before host.executed := by
    refine executed_induction (written.same rfl rfl) ?_
    intro host line written
    exact written.enter rfl rfl
  exact executed.enter rfl rfl

section Readings

variable [TimeScale τ] [Front τ σ] {now : τ} {ending : Option Ending}

theorem reports (written : WroteDown before host) (reports : Reports host now ending left) :
    WroteDown before left := by
  cases reports with
  | early => exact written
  | told due told => exact written.enter rfl (Recording.calls_of_perform_ok told)
  | failed due failure =>
    have failed := Recording.calls_of_perform_error failure
    exact written.enter rfl failed

theorem watching (written : WroteDown before host) {answer : Keypad × Recording σ}
    (stays : host.poll now = .ok false answer) : WroteDown before (host.watching now answer) :=
  written.enter rfl (Recording.calls_of_poll_ok stays)

theorem displays (written : WroteDown before host) (displays : Displays host now ending left) :
    WroteDown before left := by
  cases displays with
  | early => exact written
  | unanswered due failure => exact written.enter rfl (Recording.calls_of_poll_error failure)
  | quit due asked => exact written.enter rfl (Recording.calls_of_poll_ok asked)
  | unchanged due stays => exact written.watching stays
  | drawn due stays dirty drew =>
    exact (written.watching stays).enter rfl (Recording.calls_of_perform_ok drew)
  | failed due stays dirty failure =>
    have failed := Recording.calls_of_perform_error failure
    exact (written.watching stays).enter rfl failed

theorem iterates (written : WroteDown before host) (iterates : Iterates host now left) :
    WroteDown before left := by
  cases iterates with
  | unreported reports => exact (written.reports reports).same rfl rfl
  | stopped reports displays => exact ((written.reports reports).displays displays).same rfl rfl
  | failed reports displays failure =>
    exact (((written.reports reports).displays displays).timed _ _ _).cycled.same rfl rfl
  | completed reports displays success =>
    exact (((written.reports reports).displays displays).timed _ _ _).cycled.same rfl rfl

theorem feeds (written : WroteDown before host) (feeds : Feeds host now left) :
    WroteDown before left := by
  have observed : WroteDown before (host.observe now) := written.same rfl rfl
  cases feeds with
  | idle => exact written
  | ended => exact written
  | begins => exact observed.enter rfl rfl
  | refuses => exact observed.same rfl rfl
  | iterates looping iterates => exact observed.iterates iterates
  | waits => exact observed
  | resumes => exact observed.same rfl rfl

end Readings

end WroteDown

theorem writtenDown_replay [TimeScale τ] [Front τ σ] (start : Host τ (Recording σ))
    (readings : List τ) : WroteDown start (start.replay readings) := by
  have begun : WroteDown start start.begin := (WroteDown.refl start).same rfl rfl
  rw [replay]
  generalize start.begin = host at begun ⊢
  induction readings generalizing host with
  | nil => exact begun
  | cons now later ih => exact ih _ (begun.feeds (feeds host now))

/-- A host whose front end writes down the calls to come. -/
def recorded (host : Host τ σ) : Host τ (Recording σ) := { host with front := ⟨host.front, []⟩ }

/-- However a run goes and ends, its journal tells the calls that were made of its front end, in
the order in which they were made and with the faults that they raised. -/
theorem journal_tells_calls [TimeScale τ] [Front τ σ] (host : Host τ σ) (readings : List τ) :
    (host.recorded.replay readings).unrecorded = host.replay readings ∧
      ∃ during, (host.replay readings).journal = during ++ host.journal ∧
        (host.recorded.replay readings).front.calls = calls during := by
  have same : (host.recorded.replay readings).unrecorded = host.replay readings :=
    unrecorded_replay host.recorded readings
  obtain ⟨during, journal, written⟩ := writtenDown_replay host.recorded readings
  refine ⟨same, during, ?_, written.trans (List.append_nil _)⟩
  rw [← same]
  exact journal

end Host

end Chip8
