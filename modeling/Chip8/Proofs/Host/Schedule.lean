import Chip8.FrontEnd
import Chip8.Proofs.Host.Pictures
import Chip8.Proofs.Host.Tasks
import Mathlib.Tactic.Linarith

/-! # The schedule of a run

A run polls, reports and runs instructions, each on a schedule of its own. In exact time, and on a
clock that never goes back, none of them is ever ahead of its schedule, however the three are
interleaved: the time that the host stores for the next one is never brought forward. Pictures
have no schedule, since each follows a poll.
-/

namespace Chip8.Host

variable {σ : Type} {start host left : Host ℚ σ} {during : List (Entry ℚ)} {now : ℚ}

/-- What holds of the entries of a run however it ends. -/
structure Orderly (start host : Host ℚ σ) (during : List (Entry ℚ)) : Prop where
  journal : host.journal = during ++ start.journal
  kept : ∀ task : Task, task.Kept start.interval during
  follow : DrawsFollowPolls during
  last : ∀ entry ∈ during.tail, entry.event ≠ .polled true
  quits : ∀ entry ∈ during, entry.event = .polled true → host.phase = .ended .quit

/-- What holds of a run that goes on: no task may be done before its turn, and nobody asked to
quit. -/
structure Underway (start host : Host ℚ σ) (during : List (Entry ℚ)) : Prop where
  journal : host.journal = during ++ start.journal
  interval : host.interval = start.interval
  kept : ∀ task : Task, task.Kept start.interval during
  allowed : ∀ task : Task, task.Allowed start.interval during (task.turn host)
  follow : DrawsFollowPolls during
  stays : ∀ entry ∈ during, entry.event ≠ .polled true

/-- Events that do not depend on the one before, and after which a run may go on. -/
def Event.Plain : Event → Prop
  | .drawn _ => False
  | .polled quit => quit = false
  | _ => True

theorem Event.Plain.undrawn {event : Event} (plain : event.Plain) (cells : Array UInt8) :
    event ≠ .drawn cells := by
  rintro rfl
  exact plain

theorem Event.Plain.stays {event : Event} (plain : event.Plain) : event ≠ .polled true := by
  rintro rfl
  cases plain

namespace Underway

theorem nil (journal : host.journal = start.journal) (interval : host.interval = start.interval) :
    Underway start host [] where
  journal := journal
  interval := interval
  kept := fun _ => Task.kept_nil
  allowed := fun _ => Task.allowed_nil
  follow := drawsFollowPolls_nil
  stays := by
    intro entry member
    cases member

/-- A run that goes on may end without a further event. -/
theorem orderly (underway : Underway start host during) (journal : left.journal = host.journal) :
    Orderly start left during where
  journal := journal.trans underway.journal
  kept := underway.kept
  follow := underway.follow
  last := fun entry member => underway.stays entry (List.mem_of_mem_tail member)
  quits := fun entry member asked => absurd asked (underway.stays entry member)

/-- A run that goes on may end with a further event. -/
theorem ends (underway : Underway start host during) {event : Event}
    (entered : left.journal = host.entry event :: host.journal)
    (turn : ∀ task : Task, event.task? = some task → task.turn host ≤ host.now)
    (undrawn : ∀ cells, event ≠ .drawn cells)
    (quits : event = .polled true → left.phase = .ended .quit) :
    Orderly start left (host.entry event :: during) where
  journal := by rw [entered, underway.journal, List.cons_append]
  kept := fun task => Task.kept_cons (underway.kept task) fun does =>
    (underway.allowed task).mono (turn task does)
  follow := drawsFollowPolls_cons underway.follow fun cells draws => absurd draws (undrawn cells)
  last := underway.stays
  quits := by
    intro entry member asked
    rcases List.mem_cons.mp member with rfl | member
    · exact quits asked
    · exact absurd asked (underway.stays entry member)

/-- A run goes on if no turn is brought forward. -/
theorem same (underway : Underway start host during) (journal : left.journal = host.journal)
    (interval : left.interval = host.interval)
    (later : ∀ task : Task, task.turn host ≤ task.turn left) : Underway start left during where
  journal := journal.trans underway.journal
  interval := interval.trans underway.interval
  kept := underway.kept
  allowed := fun task => (underway.allowed task).mono (later task)
  follow := underway.follow
  stays := underway.stays

/-- A run goes on after a task that was done in its turn, if the next turn is set. -/
theorem goes (underway : Underway start host during) {event : Event} (plain : event.Plain)
    (entered : left.journal = host.entry event :: host.journal)
    (interval : left.interval = host.interval)
    (turn : ∀ task : Task, event.task? = some task →
      task.turn host ≤ host.now ∧ task.next start.interval host.now ≤ task.turn left)
    (later : ∀ task : Task, task.turn host ≤ task.turn left) :
    Underway start left (host.entry event :: during) := by
  -- What holds if the run ended here holds as well if it goes on.
  have orderly := underway.ends entered (fun task does => (turn task does).1) plain.undrawn
    fun asked => absurd asked plain.stays
  exact
    { journal := orderly.journal
      interval := interval.trans underway.interval
      kept := orderly.kept
      allowed := fun task => Task.allowed_cons ((underway.allowed task).mono (later task))
        fun does => (turn task does).2
      follow := orderly.follow
      stays := by
        intro entry member
        rcases List.mem_cons.mp member with rfl | member
        · exact plain.stays
        · exact underway.stays entry member }

/-- A run goes on after a picture that follows a poll. -/
theorem draws (underway : Underway start host during) {cells : Array UInt8}
    (polled : during.head? = some (host.entry (.polled false)))
    (entered : left.journal = host.entry (.drawn cells) :: host.journal)
    (timing : left.timing = host.timing) :
    Underway start left (host.entry (.drawn cells) :: during) where
  journal := by rw [entered, underway.journal, List.cons_append]
  interval := (congrArg Timing.interval timing).trans underway.interval
  kept := fun task => Task.kept_cons (underway.kept task) nofun
  allowed := by
    intro task
    rw [turn_congr timing]
    exact Task.allowed_cons (underway.allowed task) nofun
  follow := drawsFollowPolls_cons underway.follow fun _ _ => polled
  stays := by
    intro entry member
    rcases List.mem_cons.mp member with rfl | member
    · exact nofun
    · exact underway.stays entry member

/-- A reading moves the turn of the next instruction at most. -/
theorem reads (underway : Underway start host during) (phase : Phase ℚ)
    (later : Task.cycle.turn host ≤ Task.cycle.turn { host.observe now with phase }) :
    Underway start { host.observe now with phase } during := by
  refine underway.same rfl rfl ?_
  intro task
  cases task with
  | poll => exact le_rfl
  | report => exact le_rfl
  | cycle => exact later

end Underway

/-! ### The parts of an iteration -/

/-- What holds within an iteration at a time. -/
structure Iterating (start host : Host ℚ σ) (now : ℚ) (during : List (Entry ℚ)) : Prop
    extends Underway start host during where
  current : host.now = now
  looping : host.phase = .looping

/-- What holds between two readings of the clock. -/
structure Awaiting (start host : Host ℚ σ) (during : List (Entry ℚ)) : Prop
    extends Underway start host during where
  phase : host.phase = .looping ∨ ∃ next, host.phase = .pacing next

namespace Iterating

/-- An iteration goes on while its timing stays. -/
theorem stays_timed (iterating : Iterating start host now during) {more : List (Entry ℚ)}
    (underway : Underway start left more) (timing : left.timing = host.timing) :
    Iterating start left now more :=
  { underway with
    current := (congrArg Timing.now timing).trans iterating.current
    looping := (congrArg Timing.phase timing).trans iterating.looping }

theorem same (iterating : Iterating start host now during) (journal : left.journal = host.journal)
    (timing : left.timing = host.timing) : Iterating start left now during := by
  have underway : Underway start left during :=
    iterating.toUnderway.same journal (congrArg Timing.interval timing)
      fun task => (turn_congr timing task).ge
  exact iterating.stays_timed underway timing

/-- Events on no schedule may happen at any time. -/
theorem idles (iterating : Iterating start host now during) {event : Event} (plain : event.Plain)
    (idle : event.task? = none) (entered : left.journal = host.entry event :: host.journal)
    (timing : left.timing = host.timing) :
    Iterating start left now (host.entry event :: during) := by
  have underway : Underway start left (host.entry event :: during) := by
    refine iterating.goes plain entered (congrArg Timing.interval timing) ?_
      fun task => (turn_congr timing task).ge
    intro task does
    rw [idle] at does
    cases does
  exact iterating.stays_timed underway timing

theorem reported (iterating : Iterating start host now during) (due : host.nextReport ≤ now)
    (front : σ) :
    Iterating start (host.reported now front) now
      (host.entry (.reported host.frames host.operations) :: during) := by
  obtain ⟨underway, rfl, looping⟩ := iterating
  have passed := ExactTime.floor_add_one_le_nextSecond host.now
  have later := (ExactTime.lt_nextSecond host.now).le
  refine ⟨?_, rfl, looping⟩
  refine underway.goes trivial rfl rfl ?_ ?_
  · intro task does
    cases does
    exact ⟨due, passed⟩
  · intro task
    cases task with
    | report => exact due.trans later
    | poll => exact le_rfl
    | cycle => exact le_rfl

theorem reports [Front ℚ σ] (iterating : Iterating start host now during)
    (reports : Reports host now none left) :
    ∃ more, Iterating start left now (more ++ during) := by
  cases reports with
  | early => exact ⟨[], iterating⟩
  | told due => exact ⟨[_], iterating.reported due _⟩

/-- A call of the front end that fails in its turn ends the run. -/
theorem faults (iterating : Iterating start host now during) {fault : Fault} {ending : Ending}
    (turn : ∀ task : Task, (Event.faulted fault).task? = some task → task.turn host ≤ now)
    (entered : left.journal = host.entry (.faulted fault) :: host.journal) :
    Orderly start { left with phase := .ended ending }
      (host.entry (.faulted fault) :: during) := by
  obtain ⟨underway, rfl, looping⟩ := iterating
  exact underway.ends entered turn nofun nofun

theorem unreported [Front ℚ σ] {ending : Ending} (iterating : Iterating start host now during)
    (reports : Reports host now (some ending) left) :
    ∃ more, Orderly start { left with phase := .ended ending } (more ++ during) := by
  cases reports with
  | failed due =>
    refine ⟨[_], iterating.faults ?_ rfl⟩
    intro task does
    cases does
    exact due

/-- A poll that asks to quit ends the run. -/
theorem quits (iterating : Iterating start host now during) (due : host.nextDisplay ≤ now)
    (left : Keypad × σ) :
    Orderly start { host.polled true left with phase := .ended .quit }
      (host.entry (.polled true) :: during) := by
  obtain ⟨underway, rfl, looping⟩ := iterating
  refine underway.ends rfl ?_ nofun fun _ => rfl
  intro task does
  cases does
  exact due

theorem watching (iterating : Iterating start host now during) (due : host.nextDisplay ≤ now)
    (left : Keypad × σ) :
    Iterating start (host.watching now left) now (host.entry (.polled false) :: during) := by
  obtain ⟨underway, rfl, looping⟩ := iterating
  have soon : host.now ≤ host.now + 1 / 60 := by linarith
  refine ⟨?_, rfl, looping⟩
  refine underway.goes rfl rfl rfl ?_ ?_
  · intro task does
    cases does
    exact ⟨due, le_rfl⟩
  · intro task
    cases task with
    | poll => exact le_trans due soon
    | report => exact le_rfl
    | cycle => exact le_rfl

theorem shown (iterating : Iterating start host now during)
    (polled : during.head? = some (host.entry (.polled false))) (front : σ) :
    Iterating start (host.shown front) now (host.entry (.drawn host.picture) :: during) :=
  iterating.stays_timed (iterating.draws polled rfl rfl) rfl

theorem displays [Front ℚ σ] (iterating : Iterating start host now during)
    (displays : Displays host now none left) :
    ∃ more, Iterating start left now (more ++ during) := by
  cases displays with
  | early => exact ⟨[], iterating⟩
  | unchanged due => exact ⟨[_], iterating.watching due _⟩
  | drawn due => exact ⟨[_, _], (iterating.watching due _).shown rfl _⟩

theorem stops [Front ℚ σ] {ending : Ending} (iterating : Iterating start host now during)
    (displays : Displays host now (some ending) left) :
    ∃ more, Orderly start { left with phase := .ended ending } (more ++ during) := by
  cases displays with
  | unanswered due =>
    refine ⟨[_], iterating.faults ?_ rfl⟩
    intro task does
    cases does
    exact due
  | quit due => exact ⟨[_], iterating.quits due _⟩
  | failed due =>
    refine ⟨[_, _], (iterating.watching due _).faults ?_ rfl⟩
    intro task does
    cases does

theorem timed (iterating : Iterating start host now during) (machine : Machine) (nextTimer : ℚ)
    (count : ℕ) :
    Iterating start (host.timed machine nextTimer count) now
      (host.entry (.ticked count) :: during) :=
  iterating.idles trivial rfl rfl rfl

theorem executed (iterating : Iterating start host now during) :
    ∃ more, Iterating start host.executed now (more ++ during) := by
  have machined : Iterating start { host with machine := host.machine.cycle.machine } now during :=
    iterating.same rfl rfl
  refine executed_induction
    (motive := fun host => ∃ more, Iterating start host now (more ++ during)) ⟨[], machined⟩ ?_
  rintro host line ⟨more, iterating⟩
  exact ⟨host.entry (.traced line) :: more, iterating.idles trivial rfl rfl rfl⟩

/-- An instruction that fails ends the run. -/
theorem fails (iterating : Iterating start host now during) (fault : Option Machine.Fault)
    (ending : Ending) :
    Orderly start { host.enter (.cycled fault) with phase := .ended ending }
      (host.entry (.cycled fault) :: during) := by
  obtain ⟨underway, rfl, looping⟩ := iterating
  refine underway.ends rfl ?_ nofun nofun
  intro task does
  cases does
  exact (turn_cycle_of_looping looping).le

/-- After an instruction the host waits for an interval, if there is one. -/
theorem turn_paced (host : Host ℚ σ) :
    Task.cycle.turn (host.paced host.now) = max (host.now + host.interval.getD 0) host.now := by
  rw [Task.turn, paced]
  cases host.interval with
  | none => simp
  | some interval => rfl

theorem completes (iterating : Iterating start host now during) (fault : Option Machine.Fault) :
    Awaiting start ((host.enter (.cycled fault)).counted.paced now)
        (host.entry (.cycled fault) :: during) ∧
      ((host.enter (.cycled fault)).counted.paced now).now = now := by
  obtain ⟨underway, rfl, looping⟩ := iterating
  have current := turn_cycle_of_looping looping
  have paced := turn_paced (host.enter (.cycled fault)).counted
  have interval : host.interval = start.interval := underway.interval
  refine ⟨⟨?_, ?_⟩, rfl⟩
  · refine underway.goes trivial rfl rfl ?_ ?_
    · intro task does
      cases does
      rw [← interval]
      exact ⟨current.le, (le_max_left _ _).trans paced.ge⟩
    · intro task
      cases task with
      | cycle => exact current.le.trans ((le_max_right _ _).trans paced.ge)
      | poll => exact le_rfl
      | report => exact le_rfl
  · rw [Host.paced]
    cases (host.enter (.cycled fault)).counted.interval with
    | none => exact .inl rfl
    | some interval => exact .inr ⟨_, rfl⟩

end Iterating

/-! ### Readings and runs -/

/-- What a reading leaves of a run: one that goes on from the reading, or one that ended. -/
def Stands (start left : Host ℚ σ) (now : ℚ) : Prop :=
  ∃ during, (Awaiting start left during ∧ left.now = now) ∨
    (Orderly start left during ∧ ∃ ending, left.phase = .ended ending)

theorem Stands.orderly (stands : Stands start host now) : ∃ during, Orderly start host during := by
  obtain ⟨during, ⟨awaiting, -⟩ | ⟨orderly, -⟩⟩ := stands
  · exact ⟨during, awaiting.toUnderway.orderly rfl⟩
  · exact ⟨during, orderly⟩

theorem Iterating.iterates [Front ℚ σ] (iterating : Iterating start host now during)
    (iterates : Iterates host now left) : Stands start left now := by
  cases iterates with
  | unreported reports =>
    obtain ⟨_, orderly⟩ := iterating.unreported reports
    exact ⟨_, .inr ⟨orderly, _, rfl⟩⟩
  | stopped reports displays =>
    obtain ⟨_, reported⟩ := iterating.reports reports
    obtain ⟨_, orderly⟩ := reported.stops displays
    exact ⟨_, .inr ⟨orderly, _, rfl⟩⟩
  | failed reports displays failure =>
    obtain ⟨_, reported⟩ := iterating.reports reports
    obtain ⟨_, displayed⟩ := reported.displays displays
    obtain ⟨_, executed⟩ := (displayed.timed _ _ _).executed
    exact ⟨_, .inr ⟨executed.fails _ _, _, rfl⟩⟩
  | completed reports displays success =>
    obtain ⟨_, reported⟩ := iterating.reports reports
    obtain ⟨_, displayed⟩ := reported.displays displays
    obtain ⟨_, executed⟩ := (displayed.timed _ _ _).executed
    exact ⟨_, .inl (executed.completes _)⟩

/-- A reading that is not before the last one keeps a run in order. -/
theorem Awaiting.feeds [Front ℚ σ] (awaiting : Awaiting start host during)
    (ordered : host.now ≤ now) (feeds : Feeds host now left) : Stands start left now := by
  obtain ⟨underway, going⟩ := awaiting
  cases feeds with
  | idle idle => simp [idle] at going
  | ended ended => simp [ended] at going
  | begins starting => simp [starting] at going
  | refuses starting => simp [starting] at going
  | iterates looping iterates =>
    have observed : Underway start (host.observe now) during := by
      have later : Task.cycle.turn (host.observe now) = now := turn_cycle_of_looping looping
      refine underway.reads host.phase ?_
      rw [turn_cycle_of_looping looping]
      exact ordered.trans later.ge
    exact Iterating.iterates ⟨observed, rfl, looping⟩ iterates
  | @waits next pacing early =>
    have observed : Underway start (host.observe now) during := by
      have later : Task.cycle.turn (host.observe now) = max next now :=
        turn_cycle_of_pacing pacing
      refine underway.reads host.phase ?_
      rw [turn_cycle_of_pacing pacing]
      exact (max_le_max_left next ordered).trans later.ge
    exact ⟨during, .inl ⟨⟨observed, .inr ⟨next, pacing⟩⟩, rfl⟩⟩
  | resumes pacing due =>
    have observed : Underway start { host.observe now with phase := .looping } during := by
      refine underway.reads .looping ?_
      rw [turn_cycle_of_pacing pacing, turn_cycle_of_looping rfl]
      exact max_le (not_lt.mp due) ordered
    exact ⟨during, .inl ⟨⟨observed, .inl rfl⟩, rfl⟩⟩

namespace Stands

variable [Front ℚ σ] {before : ℚ}

theorem feed (stands : Stands start host before) (ordered : before ≤ now) :
    Stands start (host.feed now) now := by
  obtain ⟨during, ⟨awaiting, rfl⟩ | ⟨orderly, ending, ended⟩⟩ := stands
  · exact awaiting.feeds ordered (feeds host now)
  · rw [Host.feed, ended]
    exact ⟨during, .inr ⟨orderly, ending, ended⟩⟩

theorem foldl {readings : List ℚ} (stands : Stands start host before)
    (ordered : (before :: readings).Pairwise (· ≤ ·)) :
    ∃ during, Orderly start (readings.foldl Host.feed host) during := by
  -- Each reading is the bound for the next one.
  induction readings generalizing host before with
  | nil => exact stands.orderly
  | cons now later ih =>
    obtain ⟨first, rest⟩ := List.pairwise_cons.mp ordered
    exact ih (stands.feed (first now List.mem_cons_self)) rest

/-- A run begins with its first reading, or ends with it. -/
theorem begin (start : Host ℚ σ) (now : ℚ) : Stands start (start.begin.feed now) now := by
  have feeds := feeds start.begin now
  have observed : Underway start (start.begin.observe now) [] := .nil rfl rfl
  generalize start.begin.feed now = left at feeds
  cases feeds with
  | idle idle => cases idle
  | ended ended => cases ended
  | iterates looping => cases looping
  | waits pacing => cases pacing
  | resumes pacing => cases pacing
  | @begins rate =>
    refine ⟨[(start.begin.observe now).entry (.running rate)],
      .inl ⟨⟨observed.goes trivial rfl rfl nofun ?_, .inl rfl⟩, rfl⟩⟩
    intro task
    cases task <;> exact le_rfl
  | refuses => exact ⟨[], .inr ⟨observed.orderly rfl, _, rfl⟩⟩

end Stands

theorem orderly_replay [Front ℚ σ] (start : Host ℚ σ) {readings : List ℚ}
    (ordered : readings.Pairwise (· ≤ ·)) :
    ∃ during, Orderly start (start.replay readings) during := by
  cases readings with
  | nil =>
    have begun : Underway start start.begin [] := .nil rfl rfl
    exact ⟨[], begun.orderly rfl⟩
  | cons first rest => exact (Stands.begin start first).foldl ordered

/-- In exact time, on a clock that never goes back, and for as long as a run goes on: polls come a
sixtieth of a second apart, and instructions as far apart as the clock speed asks; reports come
in different seconds; each picture follows a poll that asked nothing of the host, and is drawn
exactly if it changed; and nothing follows a poll that asked to quit. -/
theorem events_on_schedule [Front ℚ σ] {speed : Speed} {readings : List ℚ}
    (timed : intervalOf speed = .ok start.interval) (ordered : readings.Pairwise (· ≤ ·)) :
    ∃ during, (start.replay readings).journal = during ++ start.journal ∧
      (Task.poll.among during).Pairwise (fun later earlier =>
        earlier.time + 1 / 60 ≤ later.time) ∧
      (DrawsFollowPolls during ∧ ∀ earlier now, earlier ++ [now] <+: readings →
        let before := start.replay earlier
        let after := start.replay (earlier ++ [now])
        ∃ new, after.journal = new ++ before.journal ∧
          Presents before.machine.framebuffer.dirty
            (before.ending? = none ∧ DisplayFailed after.ending?) (new.map Entry.event)) ∧
      (∀ rate, speed.perSecond? = some rate →
        (Task.cycle.among during).Pairwise fun later earlier =>
          earlier.time + 1 / rate ≤ later.time) ∧
      (Task.report.among during).Pairwise (fun later earlier =>
        ⌊earlier.time⌋ < ⌊later.time⌋) ∧
      (∀ entry ∈ during.tail, entry.event ≠ .polled true) ∧
      ∀ entry ∈ during, entry.event = .polled true →
        (start.replay readings).ending? = some .quit := by
  obtain ⟨during, orderly⟩ := orderly_replay start ordered
  refine ⟨during, orderly.journal, orderly.kept .poll, ⟨orderly.follow, ?_⟩, ?_, ?_, orderly.last,
    ?_⟩
  · intro earlier now _ before after
    have read : after = before.feed now := by
      simp only [after, before, replay, List.foldl_append, List.foldl_cons, List.foldl_nil]
    rw [read]
    exact presents_feed before now
  · intro rate paced
    have interval : start.interval = some (1 / rate) := by
      rw [intervalOf_eq, paced] at timed
      exact (Except.ok.inj timed).symm
    have kept := orderly.kept .cycle
    rw [interval] at kept
    exact kept
  · refine (orderly.kept .report).imp ?_
    intro later earlier passed
    change (⌊earlier.time⌋ : ℚ) + 1 ≤ later.time at passed
    have whole : ⌊earlier.time⌋ + 1 ≤ ⌊later.time⌋ := by
      rw [Int.le_floor]
      exact_mod_cast passed
    omega
  · intro entry member asked
    rw [ending?, orderly.quits entry member asked]

/-- A machine that jumps on the spot, with a picture to show. -/
def spinner : Machine :=
  { Machine.unpowered {} false {} with
    memory := (Memory.zeros Layout.memorySize).put 0 0x10
    framebuffer := { Framebuffer.blank with dirty := true } }

/-- A host that is asked to quit when it polls for the third time. -/
def spinning : Host ℚ (FrontEnd ℚ) where
  machine := spinner
  front :=
    { display := .headless {} Display.standardScale
      input := .window { keymap := ⟨[]⟩, batches := [[], [.other], [.closed]] } }
  interval := some (1 / 50)
  nextTimer := 0
  nextDisplay := 0
  nextReport := 0
  now := 0

def spinningTimes : List ℚ := [0, 0, 1 / 100, 1 / 50, 1 / 50, 1, 1]

theorem events_on_schedule_spinning :
    (intervalOf (.whole 50) : Except Fault (Option ℚ)) = .ok spinning.interval ∧
      spinningTimes.Pairwise (· ≤ ·) ∧
      let during := (spinning.replay spinningTimes).journal
      (Task.poll.among during).length = 3 ∧ (Task.cycle.among during).length = 2 ∧
      (Task.report.among during).length = 2 ∧
      (Task.poll.among during).Pairwise (fun later earlier =>
        earlier.time + 1 / 60 ≤ later.time) ∧
      (Task.cycle.among during).Pairwise (fun later earlier =>
        earlier.time + 1 / 50 ≤ later.time) ∧
      DrawsFollowPolls during ∧ (spinning.replay spinningTimes).ending? = some .quit := by
  have timed : (intervalOf (.whole 50) : Except Fault (Option ℚ)) = .ok spinning.interval := rfl
  have ordered : spinningTimes.Pairwise (· ≤ ·) := by decide +kernel
  obtain ⟨during, journal, polls, ⟨follow, -⟩, cycles, -, -, quits⟩ :=
    events_on_schedule timed ordered
  have whole : (spinning.replay spinningTimes).journal = during :=
    journal.trans (List.append_nil during)
  rw [← whole] at polls follow cycles quits
  refine ⟨timed, ordered, by decide +kernel, by decide +kernel, by decide +kernel, polls,
    cycles 50 rfl, follow, ?_⟩
  have latest : (spinning.replay spinningTimes).journal.head? = some ⟨7, 1, .polled true⟩ := by
    decide +kernel
  exact quits _ (List.mem_of_mem_head? latest) rfl

end Chip8.Host
