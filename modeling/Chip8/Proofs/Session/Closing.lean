import Chip8.Proofs.Session.Opening

/-! # How a session ends

A session whose host is ready runs it, and then closes the input and the display once each, however
the run ended. What the display was shown by is given back, and the session fails with what ended
the run, unless the user asked to quit.
-/

namespace Chip8.Session

open Display (System)

section Finishing

variable {τ : Type}

/-- How a session ends, with a failure or without one. -/
def ended (left : Session τ) : Option Failure → EStateM.Result Failure (Session τ) Unit
  | none => .ok () left
  | some failure => .error failure left

/-- The session with a failure of its run entered into its log; an interruption is not. -/
def noted (session : Session τ) : Option Failure → Session τ
  | none => session
  | some failure =>
      if failure = .interrupted then session
      else
        { session with
          log := { level := .error, source := .session, message := "Emulation stopped" } ::
            session.log }

/-- The session with the input and the display of a front end closed. -/
def settled (session : Session τ) (front : FrontEnd τ) : Session τ :=
  shut { session with closed := .input front.input.close :: session.closed } front.display

theorem closeFront_eq (front : FrontEnd τ) (session : Session τ) :
    closeFront front session = .ok () (session.settled front) := by
  have input : closeInput front.input session =
      .ok () { session with closed := .input front.input.close :: session.closed } := rfl
  rw [closeFront, bind_ok input, closeDisplay_eq, settled]

theorem write_error (source : LogSource) (message : String) (session : Session τ) :
    write .error source message session =
      .ok () { session with log := { level := .error, source, message } :: session.log } := by
  have shown : ({ level := .error, source, message } : LogLine).shownWhen session.debugging =
      true := Bool.or_true session.debugging
  change EStateM.Result.ok () (if _ then _ else _) = _
  rw [if_pos shown]

theorem finish_eq (host : Host τ (FrontEnd τ)) (session : Session τ) :
    finish host session =
      ((session.noted (failureOf host)).settled host.front).ended (failureOf host) := by
  rw [finish]
  cases failureOf host with
  | none => exact closeFront_eq host.front session
  | some failure =>
    dsimp only
    rw [noted]
    by_cases interrupted : failure = .interrupted
    · rw [if_neg (not_not_intro interrupted), if_pos interrupted]
      exact bind_ok (closeFront_eq host.front session)
    · rw [if_pos interrupted, if_neg interrupted, bind_ok (write_error _ _ session)]
      exact bind_ok (closeFront_eq host.front _)

/-- A reader that was asked to stop takes no further character. -/
theorem unread_read_stop (input : TerminalInput τ) : input.stop.read.unread = input.unread := by
  rw [TerminalInput.read]
  split
  · rfl
  · rfl
  · split <;> rfl
  · rfl

theorem doings_noted (session : Session τ) (failure : Option Failure) :
    (session.noted failure).doings = session.doings := by
  cases failure with
  | none => rfl
  | some failure =>
    rw [noted]
    split <;> rfl

end Finishing

section Running

variable {τ : Type} [TimeScale τ] {surroundings : Surroundings} {options : Options}
  {host : Host τ (FrontEnd τ)} {session : Session τ}

/-- The session with the run of a host entered into it. -/
def ranOn (session : Session τ) (host : Host τ (FrontEnd τ)) : Session τ :=
  enter (session.clock.run host).2 { session with clock := (session.clock.run host).1 }

theorem runHost_eq (host : Host τ (FrontEnd τ)) (session : Session τ) :
    runHost host session = .ok (session.clock.run host).2 (session.ranOn host) := rfl

theorem run_eq
    (ready : prepare τ surroundings options { clock := surroundings.clock } = .ok host session) :
    run τ surroundings options =
      (((session.ranOn host).noted (failureOf (session.clock.run host).2)).settled
        (session.clock.run host).2.front, failureOf (session.clock.run host).2) := by
  rw [run, perform, bind_ok ready, runAndClose, bind_ok (runHost_eq host session), finish_eq]
  cases failureOf (session.clock.run host).2 <;> rfl

/-- A session closed everything once after its run: first the input, whose reader takes nothing
more of what was typed, then the display, which gave back what it was shown by and did nothing
else. -/
structure ClosedOnce (typed : List Int) (ran : Session τ) (front : FrontEnd τ)
    (left : Session τ) : Prop where
  opened : ∀ system : System,
    system.opening ∈ ran.commands ↔ front.display.system? = some system
  untouched : ran.closed = []
  parts : left.closed = [.display front.display, .input front.input.close]
  relayed : front.input.Relayed typed
  stopped : ∀ input turns, front.input.close = .typing input turns →
    input.typing.stopped = true ∧ input.read.unread = input.unread
  farewell : left.commands =
    ((front.display.system?.map System.farewell).getD []).reverse ++ ran.commands
  once : ∀ system : System,
    left.commands.count system.closing = if front.display.system? = some system then 1 else 0
  shut : ∀ system : System, system.isOpen left.commands = false

theorem closedOnce_settled {typed : List Int} {ran : Session τ} {front : FrontEnd τ}
    {system : Option System} (intact : front.Intact system typed)
    (commands : ran.commands = front.commands) (unclosed : ran.closed = [])
    (failure : Option Failure) :
    ClosedOnce typed ran front ((ran.noted failure).settled front) := by
  obtain ⟨given, closed⟩ := Prod.mk.inj (doings_noted ran failure)
  have left : ((ran.noted failure).settled front).commands =
      front.display.close.commands.reverse ++ front.commands :=
    congrArg (_ ++ ·) (given.trans commands)
  constructor
  · intro system
    rw [commands]
    exact (intact.inUse.stands system).2
  · exact unclosed
  · exact congrArg (.display front.display :: .input front.input.close :: ·)
      (closed.trans unclosed)
  · exact intact.relayed
  · intro input turns typing
    cases open_ : front.input with
    | headless keymap =>
      rw [open_] at typing
      cases typing
    | window input =>
      rw [open_] at typing
      cases typing
    | typing input turns =>
      rw [open_] at typing
      cases typing
      exact ⟨rfl, unread_read_stop input⟩
  · rw [left, Display.close_commands, commands]
  · intro system
    rw [left, intact.inUse.count_closing]
  · intro system
    rw [left, intact.inUse.stands.close]

theorem Prepared.closedOnce {typed : List Int} (prepared : Prepared typed host session)
    (failure : Option Failure) :
    ClosedOnce typed (session.ranOn host) (session.clock.run host).2.front
      (((session.ranOn host).noted failure).settled (session.clock.run host).2.front) := by
  have intact : (session.clock.run host).2.front.Intact host.front.display.system? typed :=
    Clock.front_run session.clock (FrontEnd.keeps_intact _ typed) prepared.intact
  have commands : (session.ranOn host).commands = (session.clock.run host).2.front.commands := rfl
  exact closedOnce_settled intact commands prepared.unclosed failure

/-- What a session's failure, or that there is none, tells of a run on a clock that has so many
readings and made so many. -/
structure EndsWith (limit readings : Nat) (ran : Host τ (FrontEnd τ)) (failure : Option Failure) :
    Prop where
  quit : failure = none ↔ ∃ entry ∈ ran.journal, entry.event = .polled true
  /-- The session fails with the fault that the last call raised or the last instruction had. -/
  failed : ∀ fault, ran.ending? = some (.failed fault) →
    failure = some (hostFailure ran.machine fault) ∧ ran.Caused fault
  interrupted : failure = some .interrupted ↔ ran.ending? = none
  spent : ran.ending? = none → limit ≤ readings

theorem endsWith_failureOf {clock spent : Clock} {ran : Host τ (FrontEnd τ)}
    (unasked : host.Unasked) (run : clock.run host = (spent, ran)) :
    EndsWith clock.limit spent.readings ran (failureOf ran) := by
  have told : (clock.run host).2.Told := Clock.told_run clock unasked
  have limit := @Clock.limit_le_readings_run _ _ _ _ host clock
  rw [run] at told limit
  constructor
  · rw [← told.quit_iff, failureOf]
    cases ran.ending? with
    | none => simp
    | some ending => cases ending <;> simp
  · intro fault ending
    rw [Host.Told, ending] at told
    rw [failureOf, ending]
    exact ⟨rfl, told.2⟩
  · rw [failureOf]
    cases ran.ending? with
    | none => simp
    | some ending =>
      cases ending with
      | quit => simp
      | failed fault => cases fault <;> simp [hostFailure]
  · exact limit

/-- A session whose host was set up runs it, closes everything once, and ends as the run did,
whatever fails in the run: an instruction, a title, a picture, a poll, or the clock. -/
theorem run_closes_once
    (ready : prepare τ surroundings options { clock := surroundings.clock } = .ok host session) :
    ∃ (clock : Clock) (ran : Host τ (FrontEnd τ)) (stopped left : Session τ)
      (failure : Option Failure),
      session.clock.run host = (clock, ran) ∧ runHost host session = .ok ran stopped ∧
        run τ surroundings options = (left, failure) ∧ stopped.commands = ran.front.commands ∧
        ran.front.display.system? = host.front.display.system? ∧
        ClosedOnce surroundings.arrivals.characters stopped ran.front left ∧
        EndsWith session.clock.limit clock.readings ran failure := by
  have prepared := (meets_prepare τ surroundings options).returned rfl ready
  have intact := Clock.front_run session.clock (FrontEnd.keeps_intact _ _) prepared.intact
  exact ⟨_, _, _, _, _, rfl, runHost_eq host session, run_eq ready, rfl, intact.shown,
    prepared.closedOnce _, endsWith_failureOf prepared.unasked rfl⟩

/-- A terminal that cannot show its cursor again, where Escape is typed before the first poll. -/
def leavingTerminal : Surroundings :=
  { plainTerminal with
    terminal := { refusedCursors := [1] }
    arrivals := { characters := [27], pace := .beside [1] } }

/-- A window whose third caption is refused: the one of the first report in a run. -/
def fadingWindow : Surroundings :=
  { plainTerminal with
    outages := { command? := fun given => if given = 4 then some "no video" else none } }

def inWindow : Options := onTerminal.set .renderer (.text "pygame")

/-- The system that is in use when a session is set up, if it is, and how the session ends. -/
def course (surroundings : Surroundings) (options : Options) :
    Option (Option System) × Option Failure :=
  (match prepare ℚ surroundings options { clock := surroundings.clock } with
    | .ok host _ => some host.front.display.system?
    | .error _ _ => none, (run ℚ surroundings options).2)

/-- A terminal is given back although its cursor cannot be shown, and a window is closed although a
caption was refused. -/
theorem run_closes_once_leavingTerminal :
    (∃ host session, prepare ℚ leavingTerminal onTerminal { clock := leavingTerminal.clock } =
        .ok host session) ∧
      (∃ display input, (run ℚ leavingTerminal onTerminal).1.closed =
        [.display display, .input input]) ∧
      (run ℚ leavingTerminal onTerminal).1.commands.count .closeTerminal = 1 ∧
      System.terminal.isOpen (run ℚ leavingTerminal onTerminal).1.commands = false ∧
      (run ℚ leavingTerminal onTerminal).2 = none ∧
      (run ℚ fadingWindow inWindow).1.commands.count .closeWindows = 1 ∧
      System.windows.isOpen (run ℚ fadingWindow inWindow).1.commands = false ∧
      (run ℚ fadingWindow inWindow).2 = some (.display (.commandRefused "no video")) := by
  have quits : course leavingTerminal onTerminal = (some (some .terminal), none) := by
    decide +kernel
  have fades : course fadingWindow inWindow =
      (some (some .windows), some (.display (.commandRefused "no video"))) := by
    decide +kernel
  have closes {surroundings : Surroundings} {options : Options} {system : System}
      {failure : Option Failure}
      (runs : course surroundings options = (some (some system), failure)) :
      (∃ host session, prepare ℚ surroundings options { clock := surroundings.clock } =
          .ok host session) ∧
        (∃ display input, (run ℚ surroundings options).1.closed =
          [.display display, .input input]) ∧
        (run ℚ surroundings options).1.commands.count system.closing = 1 ∧
        system.isOpen (run ℚ surroundings options).1.commands = false ∧
        (run ℚ surroundings options).2 = failure := by
    obtain ⟨used, ends⟩ := Prod.mk.inj runs
    cases ready : prepare ℚ surroundings options { clock := surroundings.clock } with
    | error failure session =>
      rw [ready] at used
      cases used
    | ok host session =>
      obtain ⟨_, ran, _, left, _, -, -, same, -, shown, closed, -⟩ := run_closes_once ready
      rw [ready] at used
      rw [same] at ends ⊢
      exact ⟨⟨host, session, rfl⟩, ⟨_, _, closed.parts⟩,
        (closed.once system).trans (if_pos (shown.trans (Option.some.inj used))),
        closed.shut system, ends⟩
  obtain ⟨started, parts, once, shut, left⟩ := closes quits
  obtain ⟨-, -, onceToo, shutToo, leftToo⟩ := closes fades
  exact ⟨started, parts, once, shut, left, onceToo, shutToo, leftToo⟩

end Running

end Chip8.Session
