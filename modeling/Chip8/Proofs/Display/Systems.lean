import Chip8.Display.Any
import Chip8.Proofs.Action

/-! # What a display keeps open

A display opens a window system or takes a terminal over, and gives back what it took when it is
closed. Whether a system is open can be told from the commands given so far.
-/

namespace Chip8

namespace Display

/-- What a display may open. -/
inductive System where
  | windows
  | terminal
deriving DecidableEq, Repr

namespace System

def opening : System → Command
  | windows => .openWindows
  | terminal => .openTerminal

def closing : System → Command
  | windows => .closeWindows
  | terminal => .closeTerminal

/-- Whether a system is open after commands of which the latest is first. -/
def isOpen (system : System) : List Command → Bool
  | [] => false
  | latest :: earlier =>
      latest == system.opening || (latest != system.closing && system.isOpen earlier)

/-- The commands that give a system back. Those of a terminal go on although it may not be able to
show its cursor. -/
def farewell : System → List Command
  | windows => [.closeWindows]
  | terminal => [.immediateKeys false, .echo true, .cursor 1, .closeTerminal]

end System

/-! ### Taking over and giving back -/

namespace Terminal

theorem give_eq (command : Command) (commands : List Command) :
    give command commands = .ok () (command :: commands) := rfl

theorem switchCursor_eq (traits : TerminalTraits) (visibility : Int) (commands : List Command) :
    switchCursor traits visibility commands =
      if visibility ∈ traits.refusedCursors then
        .error .cursorRefused (.cursor visibility :: commands)
      else .ok () (.cursor visibility :: commands) := by
  rw [switchCursor]
  split <;> rfl

theorem takeOver_eq (traits : TerminalTraits) :
    takeOver traits [] =
      if 0 ∈ traits.refusedCursors then .error .cursorRefused [.cursor 0, .openTerminal]
      else .ok () [.immediateKeys true, .echo false, .cursor 0, .openTerminal] := by
  have switched := switchCursor_eq traits 0 [.openTerminal]
  rw [takeOver, bind_ok (give_eq .openTerminal [])]
  split
  · next refused =>
    rw [if_pos refused] at switched
    rw [bind_error switched]
  · next shown =>
    rw [if_neg shown] at switched
    rw [bind_ok switched]
    rfl

/-- A terminal is given back whether or not it can show its cursor again. -/
theorem giveBack_eq (traits : TerminalTraits) :
    giveBack traits [] = .ok () System.terminal.farewell.reverse := by
  have switched := switchCursor_eq traits 1 [.echo true, .immediateKeys false]
  rw [giveBack, bind_ok (give_eq (.immediateKeys false) []), bind_ok (give_eq (.echo true) _)]
  by_cases refused : 1 ∈ traits.refusedCursors
  · rw [if_pos refused] at switched
    exact bind_ok (catch_error switched)
  · rw [if_neg refused] at switched
    exact bind_ok (catch_ok switched)

theorem close_eq (terminal : Terminal) :
    terminal.close = { display := terminal, commands := System.terminal.farewell } := by
  rw [close, giveBack_eq]
  rfl

end Terminal

/-- A command neither opens nor closes a system. -/
def Command.IsMinor (command : Command) : Prop :=
  ∀ system : System, command ≠ system.opening ∧ command ≠ system.closing

/-- The system that a display is shown by. -/
def system? : Display → Option System
  | headless _ _ => none
  | window _ => some .windows
  | terminal _ => some .terminal

theorem close_commands (display : Display) :
    display.close.commands = (display.system?.map System.farewell).getD [] := by
  cases display with
  | headless canvas scale => rfl
  | window shown => rfl
  | terminal shown =>
    rw [Display.close, Terminal.close_eq]
    rfl

/-- Closing does not fail. -/
theorem close_fault (display : Display) : display.close.fault = none := by
  cases display with
  | headless canvas scale => rfl
  | window shown => rfl
  | terminal shown =>
    rw [Display.close, Terminal.close_eq]
    rfl

theorem close_display (display : Display) : display.close.display = display := by
  cases display with
  | headless canvas scale => rfl
  | window shown => rfl
  | terminal shown =>
    rw [Display.close, Terminal.close_eq]
    rfl

section Minor

variable {commands earlier : List Command} {system : System}

theorem System.isOpen_append (minor : ∀ command ∈ commands, command.IsMinor) :
    system.isOpen (commands ++ earlier) = system.isOpen earlier := by
  induction commands with
  | nil => rfl
  | cons latest rest ih =>
    obtain ⟨first, others⟩ := List.forall_mem_cons.mp minor
    obtain ⟨opens, closes⟩ := first system
    rw [List.cons_append, System.isOpen, beq_false_of_ne opens, bne_iff_ne.mpr closes, ih others]
    rfl

theorem System.opening_mem_append (minor : ∀ command ∈ commands, command.IsMinor) :
    system.opening ∈ commands ++ earlier ↔ system.opening ∈ earlier := by
  rw [List.mem_append]
  exact or_iff_right fun member => (minor _ member system).1 rfl

theorem minor_resize (width height : Int) (display : Display) :
    ∀ command ∈ (display.resize width height).commands, command.IsMinor := by
  have pad : ∀ rows columns, (Command.newPad rows columns).IsMinor := by
    intro rows columns system
    cases system <;> exact ⟨nofun, nofun⟩
  cases display with
  | headless canvas scale => exact List.forall_mem_nil _
  | window shown =>
    rw [resize, Result.map, Window.resize]
    split
    · split <;> exact List.forall_mem_nil _
    · exact List.forall_mem_nil _
  | terminal shown =>
    rw [resize, Result.map, Terminal.resize]
    dsimp only
    split
    · split <;> exact List.forall_mem_singleton.mpr (pad _ _)
    · exact List.forall_mem_nil _

end Minor

/-- Commands that opened what a display is shown by, and left it open, and opened nothing else. -/
def Stands (display : Display) (commands : List Command) : Prop :=
  ∀ system : System,
    (system.isOpen commands = true ↔ display.system? = some system) ∧
      (system.opening ∈ commands ↔ display.system? = some system)

theorem Stands.append {display : Display} {commands earlier : List Command}
    (stands : display.Stands earlier) (minor : ∀ command ∈ commands, command.IsMinor) :
    display.Stands (commands ++ earlier) := by
  intro system
  rw [System.isOpen_append minor, System.opening_mem_append minor]
  exact stands system

theorem Stands.close {display : Display} {commands : List Command}
    (stands : display.Stands commands) (system : System) :
    system.isOpen (display.close.commands.reverse ++ commands) = false := by
  have only := (stands system).1
  rw [close_commands]
  cases display with
  | headless canvas scale =>
    rw [← Bool.not_eq_true]
    exact fun stays => nomatch only.mp stays
  | window shown =>
    cases system with
    | windows => rfl
    | terminal =>
      simpa [system?, System.farewell, System.isOpen, System.opening, System.closing] using only
  | terminal shown =>
    cases system with
    | windows =>
      simpa [system?, System.farewell, System.isOpen, System.opening, System.closing] using only
    | terminal => rfl

theorem stands_window (shown : Window) (text : String) (width height : Length) :
    (window shown).Stands [.setMode width height, .caption text, .openWindows] := by
  intro system
  cases system <;> simp [system?, System.isOpen, System.opening, System.closing]

theorem stands_terminal (shown : Terminal) :
    (terminal shown).Stands [.immediateKeys true, .echo false, .cursor 0, .openTerminal] := by
  intro system
  cases system <;> simp [system?, System.isOpen, System.opening, System.closing]

/-- The commands that opening a display gives, and the display or why there is none. -/
inductive Launches : List Command → Except Fault Display → Prop
  | headless (canvas : Canvas) (scale : Length) : Launches [] (.ok (.headless canvas scale))
  /-- A display that is refused before anything is opened. -/
  | refused (fault : Fault) : Launches [] (.error fault)
  | window (text : String) (width height : Length) (shown : Window) :
      Launches [.openWindows, .caption text, .setMode width height] (.ok (.window shown))
  | hidden (fault : Fault) : Launches [.openTerminal, .cursor 0] (.error fault)
  | terminal (shown : Terminal) :
      Launches [.openTerminal, .cursor 0, .echo false, .immediateKeys true]
        (.ok (.terminal shown))

theorem launches (kind : FrontKind) (scale : Option Length) (traits : TerminalTraits) :
    Launches (launch kind scale traits).1 (launch kind scale traits).2 := by
  cases kind with
  | headless => exact .headless _ _
  | window =>
    rw [launch, Window.launch]
    dsimp only
    split
    · exact .refused _
    · exact .window _ _ _ _
  | terminal =>
    rw [launch, Terminal.launch]
    dsimp only
    split
    · exact .refused _
    · split
      · exact .refused _
      · have taken := Terminal.takeOver_eq traits
        split at taken
        · rw [taken]
          exact .hidden _
        · rw [taken]
          exact .terminal _

theorem launch_ok {kind : FrontKind} {scale : Option Length} {traits : TerminalTraits}
    {commands : List Command} {display : Display}
    (launched : launch kind scale traits = (commands, .ok display)) :
    display.Stands commands.reverse := by
  have launches := launches kind scale traits
  rw [launched] at launches
  cases launches with
  | headless =>
    intro system
    simp [system?, System.isOpen]
  | window => exact stands_window _ _ _ _
  | terminal => exact stands_terminal _

/-- A display that fails to be opened leaves open what it opened. -/
theorem launch_error {kind : FrontKind} {scale : Option Length} {traits : TerminalTraits}
    {commands : List Command} {fault : Fault}
    (launched : launch kind scale traits = (commands, .error fault)) (system : System) :
    system.isOpen commands.reverse = true ↔ system.opening ∈ commands.reverse := by
  have launches := launches kind scale traits
  rw [launched] at launches
  cases launches with
  | refused => simp [System.isOpen]
  | hidden => cases system <;> simp [System.isOpen, System.opening, System.closing]

/-! ### Systems in use -/

/-- An operation neither opens nor closes a system, and shows its display by the same one, whether
or not the system follows. -/
structure Uses (operation : Display → Result Display) : Prop where
  minor : ∀ display, ∀ command ∈ (operation display).commands, command.IsMinor
  system : ∀ display, (operation display).display.system? = display.system?
  unfinished : ∀ display, (operation display).unfinished.system? = display.system?

theorem uses_resize (width height : Int) : Uses (resize width height) where
  minor := minor_resize width height
  system display := by cases display <;> rfl
  unfinished display := by cases display <;> rfl

theorem uses_setTitle (title : String) : Uses (setTitle title) where
  minor display := by
    cases display with
    | headless canvas scale => exact List.forall_mem_nil _
    | window shown =>
      refine List.forall_mem_singleton.mpr fun system => ?_
      cases system <;> exact ⟨nofun, nofun⟩
    | terminal shown => exact List.forall_mem_nil _
  system display := by cases display <;> rfl
  unfinished display := by cases display <;> rfl

theorem uses_draw (cells : Array UInt8) : Uses (draw cells) where
  minor display := by
    cases display with
    | headless canvas scale => exact List.forall_mem_nil _
    | window shown =>
      rw [draw, Result.map, Window.draw]
      split
      · exact List.forall_mem_nil _
      · split
        · exact List.forall_mem_nil _
        · intro command member system
          simp only [List.mem_cons, List.not_mem_nil, or_false] at member
          obtain rfl | rfl | rfl | rfl := member <;> cases system <;> exact ⟨nofun, nofun⟩
    | terminal shown =>
      rw [draw, Result.map, Terminal.draw]
      split
      · exact List.forall_mem_nil _
      · split
        · exact List.forall_mem_nil _
        · refine List.forall_mem_singleton.mpr fun system => ?_
          cases system <;> exact ⟨nofun, nofun⟩
  system display := by cases display <;> rfl
  unfinished display := by cases display <;> rfl

/-- Commands that left open what a display is shown by, and closed nothing. -/
structure InUse (display : Display) (commands : List Command) : Prop where
  stands : display.Stands commands
  unclosed : ∀ system : System, system.closing ∉ commands

section InUse

variable {display later : Display} {commands given : List Command}

theorem InUse.after (inUse : display.InUse commands) (minor : ∀ command ∈ given, command.IsMinor)
    (system : later.system? = display.system?) : later.InUse (given.reverse ++ commands) := by
  have reversed : ∀ command ∈ given.reverse, command.IsMinor :=
    fun command member => minor command (List.mem_reverse.mp member)
  constructor
  · intro any
    rw [system]
    exact inUse.stands.append reversed any
  · intro system member
    obtain fresh | old := List.mem_append.mp member
    · exact (reversed _ fresh system).2 rfl
    · exact inUse.unclosed system old

theorem inUse_launch {kind : FrontKind} {scale : Option Length} {traits : TerminalTraits}
    (launched : launch kind scale traits = (commands, .ok display)) :
    display.InUse commands.reverse := by
  constructor
  · exact launch_ok launched
  · intro system
    have launches := launches kind scale traits
    rw [launched] at launches
    rw [List.mem_reverse]
    cases launches <;> cases system <;> simp [System.closing]

/-- Closing a display gives back the system in use, once, and no other. -/
theorem InUse.count_closing (inUse : display.InUse commands) (system : System) :
    (display.close.commands.reverse ++ commands).count system.closing =
      if display.system? = some system then 1 else 0 := by
  rw [List.count_append, List.count_eq_zero.mpr (inUse.unclosed system), close_commands]
  cases display <;> cases system <;> rfl

end InUse

end Display

end Chip8
