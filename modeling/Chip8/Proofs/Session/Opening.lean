import Chip8.Proofs.FrontEnd
import Chip8.Proofs.Host.ExactTime
import Chip8.Session

/-! # What a setup leaves open

Setting up a session opens a window system or takes a terminal over, and may fail before and
after. An input that cannot be opened closes the display again; every other failure of the setup
leaves open what was opened, and so does a setup that succeeds.
-/

namespace Chip8.Session

open Display (System)

variable {τ : Type}

/-- Failures of the setting and of the text of a keymap, and of the characters typed before the
run, which only an input has to do with. -/
def Failure.isOfInput : Failure → Bool
  | .missingOption name => name = .keymap
  | .notText name => name = .keymap
  | .keymap _ => true
  | _ => false

/-! ### Actions that give no commands -/

/-- The commands that a session gave, and what it closed. -/
def doings (session : Session τ) : List Display.Command × List (Part τ) :=
  (session.commands, session.closed)

/-- An action gives no commands, closes nothing, and fails with faults of a kind only. -/
def Silent {α : Type} (action : Action τ α) (fails : Failure → Prop) : Prop :=
  ∀ before : List Display.Command × List (Part τ) → Prop,
    Meets (fun session => before session.doings) action (fun _ left => before left.doings)
      (fun failure left => before left.doings ∧ fails failure)

namespace Silent

variable {α β : Type} {action : Action τ α} {next : α → Action τ β} {fails : Failure → Prop}

theorem pure (value : α) : Silent (pure value : Action τ α) fails :=
  fun _ => .pure fun _ holds => holds

theorem throw {failure : Failure} (failed : fails failure) :
    Silent (throw failure : Action τ α) fails := fun _ => .throw fun _ holds => ⟨holds, failed⟩

theorem modify {change : Session τ → Session τ}
    (same : ∀ session, (change session).doings = session.doings) :
    Silent (modify change) fails :=
  fun _ => .modify fun session holds => (same session).symm ▸ holds

theorem bind (first : Silent action fails) (rest : ∀ value, Silent (next value) fails) :
    Silent (action >>= next) fails :=
  fun before => .bind (first before) fun value => rest value before

theorem weaken {others : Failure → Prop} (silent : Silent action fails)
    (more : ∀ failure, fails failure → others failure) : Silent action others :=
  fun before => (silent before).weaken (fun _ _ holds => holds)
    fun failure _ ended => ⟨ended.1, more failure ended.2⟩

end Silent

theorem silent_write (level : LogLevel) (source : LogSource) (message : String)
    {fails : Failure → Prop} : Silent (write level source message : Action τ Unit) fails := by
  apply Silent.modify
  intro session
  dsimp only
  split <;> rfl

theorem silent_lookUp (options : Options) (name : OptionName) :
    Silent (lookUp options name : Action τ _) (· = .missingOption name) := by
  rw [lookUp]
  split
  · exact .pure _
  · exact .throw rfl

theorem silent_numberOf (name : OptionName) (setting : Setting) :
    Silent (numberOf name setting : Action τ _) (· = .wrongType name) := by
  rw [numberOf.eq_def]
  split
  · exact .pure _
  · split
    · exact .pure _
    · exact .throw rfl

theorem silent_speedOf (setting : Setting) :
    Silent (speedOf setting : Action τ _) (· = .wrongType .speed) := by
  rw [speedOf.eq_def]
  split
  · exact .pure _
  · exact .bind (silent_numberOf .speed setting) fun _ => .pure _

theorem silent_scaleOf (kind : FrontKind) (setting : Setting) :
    Silent (scaleOf kind setting : Action τ _) (· = .wrongType .scale) := by
  rw [scaleOf.eq_def]
  split
  · exact .pure _
  · exact .pure _
  · exact .bind (silent_numberOf .scale setting) fun _ => .pure _

theorem silent_keymapText (setting : Setting) :
    Silent (keymapText setting : Action τ _) (· = .notText .keymap) := by
  rw [keymapText.eq_def]
  split
  · split
    · exact .pure _
    · exact .throw rfl
  · exact .pure _

theorem silent_readProgram (programAt : String → Except Directory.Fault (List UInt8))
    (setting : Setting) : Silent (readProgram programAt setting : Action τ _) fun _ => True := by
  rw [readProgram.eq_def]
  split
  · split
    · exact .throw trivial
    · exact .bind (silent_write _ _ _) fun _ => .pure _
  · split
    · exact .throw trivial
    · split
      · exact .throw trivial
      · split <;> exact .throw trivial

theorem silent_prepareMachine (variant : Variant) (tracing : Bool) (random : RandomBytes)
    (program : List UInt8) :
    Silent (prepareMachine variant tracing random program : Action τ _) fun _ => True := by
  unfold prepareMachine
  split
  · exact .throw trivial
  · exact .bind (silent_write _ _ _) fun _ => .pure _

theorem silent_openInput [TimeScale τ] (kind : FrontKind) (options : Options)
    (arrivals : Arrivals) :
    Silent (openInput kind options arrivals : Action τ (Input τ)) (·.isOfInput = true) := by
  have missing : ∀ failure : Failure, failure = .missingOption .keymap →
      failure.isOfInput = true := by
    rintro _ rfl
    rfl
  have wrong : ∀ failure : Failure, failure = .notText .keymap → failure.isOfInput = true := by
    rintro _ rfl
    rfl
  rw [openInput]
  apply ((silent_lookUp options .keymap).weaken missing).bind
  intro setting
  apply ((silent_keymapText setting).weaken wrong).bind
  intro text
  split
  · exact .throw rfl
  · exact .pure _

/-! ### The parts of the setup -/

/-- What a failed setup leaves open is what it opened, unless only the input failed. -/
def LeftOpen (failure : Failure) (session : Session τ) : Prop :=
  ∀ system : System, system.isOpen session.commands = true ↔
    system.opening ∈ session.commands ∧ failure.isOfInput = false

/-- What a display is shown by was opened, and nothing was closed. -/
def Opened (display : Display) (doings : List Display.Command × List (Part τ)) : Prop :=
  display.InUse doings.1 ∧ doings.2 = []

theorem leftOpen_of_unopened {failure : Failure} {session : Session τ}
    (idle : session.doings = ([], [])) : LeftOpen failure session := by
  have unopened : session.commands = [] := congrArg Prod.fst idle
  intro system
  rw [unopened]
  simp [System.isOpen]

theorem leftOpen_of_stands {display : Display} {failure : Failure} {session : Session τ}
    (stands : display.Stands session.commands) (other : failure.isOfInput = false) :
    LeftOpen failure session := by
  intro system
  rw [(stands system).1, (stands system).2]
  simp [other]

/-- A silent action before anything is opened. -/
theorem Silent.early {α : Type} {action : Action τ α} {fails : Failure → Prop}
    (silent : Silent action fails) :
    Meets (·.doings = ([], [])) action (fun _ left => left.doings = ([], [])) LeftOpen :=
  (silent (· = ([], []))).weaken (fun _ _ idle => idle)
    fun _ _ ended => leftOpen_of_unopened ended.1

/-- A silent action behind the opening of a display. -/
theorem Silent.late {α : Type} {action : Action τ α} {display : Display}
    {fails : Failure → Prop} (silent : Silent action fails)
    (others : ∀ failure, fails failure → failure.isOfInput = false) :
    Meets (fun session => Opened display session.doings) action
      (fun _ left => Opened display left.doings) LeftOpen :=
  (silent (Opened display)).weaken (fun _ _ opened => opened)
    fun failure _ ended => leftOpen_of_stands ended.1.1.stands (others failure ended.2)

theorem meets_openDisplay (kind : FrontKind) (scale : Option Display.Length)
    (terminal : TerminalTraits) :
    Meets (·.doings = ([], [])) (openDisplay kind scale terminal : Action τ Display)
      (fun display left => Opened display left.doings) LeftOpen := by
  rw [openDisplay]
  rcases launched : Display.launch kind scale terminal with ⟨commands, result⟩
  have gives : Meets (·.doings = ([], [])) (give commands : Action τ Unit)
      (fun _ left => left.doings = (commands.reverse, [])) LeftOpen := by
    apply Meets.modify
    intro session idle
    obtain ⟨unopened, unclosed⟩ := Prod.mk.inj idle
    rw [doings]
    dsimp only
    rw [unopened, unclosed, List.append_nil]
  apply gives.bind
  intro _
  cases result with
  | error fault =>
    apply Meets.throw
    intro session given system
    have commanded : session.commands = commands.reverse := congrArg Prod.fst given
    rw [commanded, Display.launch_error launched]
    simp [Failure.isOfInput]
  | ok display =>
    apply Meets.pure
    intro session given
    rw [given]
    exact ⟨Display.inUse_launch launched, rfl⟩

theorem relayed_openInput [TimeScale τ] {kind : FrontKind} {options : Options}
    {arrivals : Arrivals} {input : Input τ} {session left : Session τ}
    (ran : openInput kind options arrivals session = .ok input left) :
    input.Relayed arrivals.characters := by
  have opens : Meets (fun _ => True) (openInput kind options arrivals : Action τ (Input τ))
      (fun input _ => input.Relayed arrivals.characters) fun _ _ => True := by
    have any {α : Type} (action : Action τ α) :
        Meets (fun _ => True) action (fun _ _ => True) fun _ _ => True :=
      ⟨fun _ _ => trivial, fun _ _ => trivial⟩
    rw [openInput]
    refine (any _).bind fun setting => (any _).bind fun text => ?_
    split
    · exact .throw fun _ _ => trivial
    · next launched => exact .pure fun _ _ => Input.Relayed.launch launched
  exact opens.returned trivial ran

/-- The session with a display closed. -/
def shut (session : Session τ) (display : Display) : Session τ :=
  { session with
    commands := display.close.commands.reverse ++ session.commands
    closed := .display display :: session.closed }

theorem closeDisplay_eq (display : Display) (session : Session τ) :
    closeDisplay display session = .ok () (session.shut display) := by
  rw [closeDisplay, Display.close_fault, Display.close_display]
  rfl

theorem meets_openInputOrClose [TimeScale τ] (display : Display) (kind : FrontKind)
    (options : Options) (arrivals : Arrivals) :
    Meets (fun session => Opened display session.doings)
      (openInputOrClose display kind options arrivals : Action τ (Input τ))
      (fun input left => Opened display left.doings ∧ input.Relayed arrivals.characters)
      LeftOpen := by
  have opens := @silent_openInput τ _ kind options arrivals (Opened display)
  constructor
  · intro session input left opened ran
    rw [openInputOrClose] at ran
    split at ran
    · next launched =>
      cases ran
      exact ⟨opens.returned opened launched, relayed_openInput launched⟩
    · next between _ =>
      rw [closeDisplay_eq] at ran
      cases ran
  · intro session failure left opened ran
    rw [openInputOrClose] at ran
    split at ran
    · cases ran
    · next between failed =>
      obtain ⟨opened, ofInput⟩ := opens.failed opened failed
      rw [closeDisplay_eq] at ran
      cases ran
      intro system
      change system.isOpen (display.close.commands.reverse ++ (doings _).1) = true ↔ _
      rw [opened.1.stands.close, ofInput]
      simp

theorem isOfInput_hostFailure (machine : Machine) (fault : Host.Fault) :
    (hostFailure machine fault).isOfInput = false := by
  cases fault <;> rfl

/-- A session whose host is ready for a run: the host's front end has the commands given so far,
with its system open, and nothing was closed. -/
structure Prepared [TimeScale τ] (typed : List Int) (host : Host τ (FrontEnd τ))
    (session : Session τ) : Prop where
  commands : session.commands = host.front.commands
  intact : host.front.Intact host.front.display.system? typed
  unclosed : session.closed = []
  unasked : host.Unasked

theorem meets_prepareHost [TimeScale τ] {typed : List Int} (machine : Machine)
    (display : Display) {input : Input τ} (relayed : input.Relayed typed) (outages : Outages)
    (speed : Option Host.Speed) :
    Meets (fun session => Opened display session.doings)
      (prepareHost machine display input outages speed) (Prepared typed) LeftOpen := by
  have creates := @FrontEnd.meets_create τ _ machine speed display.system? typed
  have fresh : ∀ session : Session τ, Opened display session.doings →
      ({ display, input, commands := session.commands, outages } : FrontEnd τ).Intact
        display.system? typed :=
    fun _ opened => ⟨opened.1, rfl, relayed⟩
  constructor
  · intro session host left opened ran
    rw [prepareHost] at ran
    split at ran
    · cases ran
    · next created =>
      obtain ⟨rfl, intact, unasked⟩ := creates.returned (fresh session opened) created
      cases ran
      exact {
        commands := rfl
        intact := { intact with shown := rfl }
        unclosed := opened.2
        unasked }
  · intro session failure left opened ran
    rw [prepareHost] at ran
    split at ran
    · next fault front failed =>
      cases ran
      have intact := creates.failed (fresh session opened) failed
      exact leftOpen_of_stands intact.inUse.stands (isOfInput_hostFailure machine fault)
    · cases ran

/-! ### The whole setup -/

theorem meets_prepare (τ : Type) [TimeScale τ] (surroundings : Surroundings)
    (options : Options) :
    Meets (·.doings = ([], [])) (prepare τ surroundings options)
      (Prepared surroundings.arrivals.characters) LeftOpen := by
  have saying : Silent (say Product.banner : Action τ Unit) fun _ => True := .modify fun _ => rfl
  have noting : ∀ debugging, Silent (modify fun session => { session with debugging } :
      Action τ PUnit) fun _ => True := fun _ => .modify fun _ => rfl
  have missing : ∀ failure : Failure, failure = .missingOption .speed →
      failure.isOfInput = false := by
    rintro _ rfl
    rfl
  have wrong : ∀ failure : Failure, failure = .wrongType .speed → failure.isOfInput = false := by
    rintro _ rfl
    rfl
  unfold prepare
  refine saying.early.bind fun _ => ?_
  refine (silent_lookUp options .debug).early.bind fun debug => ?_
  refine (noting debug.isTrue).early.bind fun _ => ?_
  refine (silent_lookUp options .shifts).early.bind fun shifts => ?_
  refine (silent_lookUp options .keyRelease).early.bind fun keyRelease => ?_
  refine (silent_lookUp options .renderer).early.bind fun renderer => ?_
  split
  · exact .throw fun _ => leftOpen_of_unopened
  · next kind chosen =>
    refine (silent_lookUp options .file).early.bind fun file => ?_
    refine (silent_readProgram surroundings.programAt file).early.bind fun program => ?_
    refine (silent_prepareMachine _ _ _ program).early.bind fun machine => ?_
    refine (silent_lookUp options .scale).early.bind fun setting => ?_
    refine (silent_scaleOf kind setting).early.bind fun scale => ?_
    -- From here on a system may be open.
    refine (meets_openDisplay kind scale surroundings.terminal).bind fun display => ?_
    refine (meets_openInputOrClose display kind options surroundings.arrivals).bind fun input =>
      .given fun relayed => ?_
    refine ((silent_lookUp options .speed).late missing).bind fun setting => ?_
    refine ((silent_speedOf setting).late wrong).bind fun speed => ?_
    exact meets_prepareHost machine display relayed surroundings.outages speed

/-- A setup that fails ends the session, and leaves open what it opened, unless it is the input
that failed. -/
theorem failed_setup_leaves_open [TimeScale τ] {surroundings : Surroundings}
    {options : Options} {failure : Failure} {session : Session τ}
    (failed : prepare τ surroundings options { clock := surroundings.clock } =
      .error failure session) :
    run τ surroundings options = (session, some failure) ∧
      ∀ system : System, system.isOpen session.commands = true ↔
        system.opening ∈ session.commands ∧ failure.isOfInput = false := by
  constructor
  · rw [run, perform, bind_error failed]
  · exact (meets_prepare τ surroundings options).failed rfl failed

/-- A terminal, and a program that jumps to itself. -/
def plainTerminal : Surroundings where
  programAt _ := .ok [0x12, 0x00]

/-- Options that choose the terminal. -/
def onTerminal : Options :=
  (Options.standard.set .file (.text "rom.ch8")).set .renderer (.text "curses")

/-- A number for a keymap fails in the input, which gives the terminal back. -/
theorem failed_setup_leaves_open_plainTerminal :
    let options := onTerminal.set .keymap (.number 1)
    let session := (run ℚ plainTerminal options).1
    .openTerminal ∈ session.commands ∧ System.terminal.isOpen session.commands = false := by
  intro options session
  have fails : (match prepare ℚ plainTerminal options { clock := plainTerminal.clock } with
      | .ok _ _ => none
      | .error failure left => some (failure, left.commands)) =
        some (.notText .keymap,
          [.closeTerminal, .cursor 1, .echo true, .immediateKeys false,
            .immediateKeys true, .echo false, .cursor 0, .openTerminal]) := by
    decide +kernel
  cases ended : prepare ℚ plainTerminal options { clock := plainTerminal.clock } with
  | ok host left =>
    rw [ended] at fails
    cases fails
  | error failure left =>
    rw [ended, Option.some.injEq, Prod.mk.injEq] at fails
    obtain ⟨rfl, given⟩ := fails
    obtain ⟨ran, leaves⟩ := failed_setup_leaves_open ended
    have same : session = left := congrArg Prod.fst ran
    rw [same]
    constructor
    · rw [given]
      decide
    · rw [← Bool.not_eq_true, leaves]
      rintro ⟨-, ⟨⟩⟩

/-- A terminal that cannot hide its cursor. -/
def wornTerminal : Surroundings := { plainTerminal with terminal := { refusedCursors := [0] } }

/-- The terminal is taken over before its cursor is hidden, and then not given back. -/
theorem wornTerminal_left_open :
    (run ℚ wornTerminal onTerminal).2 = some (.display .cursorRefused) ∧
      (run ℚ wornTerminal onTerminal).1.commands = [.cursor 0, .openTerminal] := by
  decide +kernel

end Chip8.Session
