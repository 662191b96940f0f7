import Chip8.FrontEnd
import Chip8.Proofs.Display.Systems
import Chip8.Proofs.Host.Endings
import Chip8.Proofs.Input.Relay

/-! # Front ends in use

A front end keeps the commands of its display, which opened what the display is shown by. Whatever
a host does with the front end, and whatever fails then, this stays open.
-/

namespace Chip8

/-- What is given up to a command that is refused is part of what was to be given. -/
theorem Outages.subset_of_refusal? {outages : Outages} {given : Nat}
    {commands done : List Display.Command} {reason : String}
    (refused : outages.refusal? given commands = some (done, reason)) : done ⊆ commands := by
  induction commands generalizing given done with
  | nil => cases refused
  | cons command rest ih =>
    rw [refusal?] at refused
    split at refused
    · cases refused
      exact List.cons_subset_cons command (List.nil_subset rest)
    · split at refused
      · next later =>
        cases refused
        exact List.cons_subset_cons command (ih later)
      · cases refused

namespace FrontEnd

variable {τ : Type} {front : FrontEnd τ} {operation : Display → Display.Result Display}

/-- The commands given so far left open what the display is shown by, and closed nothing. -/
def InUse (front : FrontEnd τ) : Prop := front.display.InUse front.commands

/-- However an operation ends, commands of it were given, and the display is as it left it. -/
theorem leftBy_perform (operation : Display → Display.Result Display) (front : FrontEnd τ) :
    ∃ later given, leftBy (perform operation) front = front.take later given ∧
      given ⊆ (operation front.display).commands ∧
        (later = (operation front.display).display ∨
          later = (operation front.display).unfinished) := by
  rw [leftBy, perform]
  cases refused :
      front.outages.refusal? front.commands.length (operation front.display).commands with
  | some refusal =>
    obtain ⟨commands, reason⟩ := refusal
    exact ⟨_, _, rfl, Outages.subset_of_refusal? refused, .inr rfl⟩
  | none =>
    cases (operation front.display).fault <;> exact ⟨_, _, rfl, List.Subset.refl _, .inl rfl⟩

variable [TimeScale τ]

/-- A front end whose display is in use, shown by a system, and whose reader and polls took turns
on what was typed. -/
structure Intact (system : Option Display.System) (typed : List Int) (front : FrontEnd τ) :
    Prop where
  inUse : front.InUse
  shown : front.display.system? = system
  relayed : front.input.Relayed typed

variable {system : Option Display.System} {typed : List Int}

/-- An operation leaves its display in use, and shown by the same system. -/
theorem Intact.perform (intact : front.Intact system typed) (uses : Display.Uses operation) :
    (leftBy (perform operation) front).Intact system typed := by
  obtain ⟨later, given, left, subset, whichever⟩ := leftBy_perform operation front
  have same : later.system? = front.display.system? := by
    rcases whichever with rfl | rfl
    · exact uses.system front.display
    · exact uses.unfinished front.display
  have minor : ∀ command ∈ given, command.IsMinor :=
    fun command member => uses.minor _ command (subset member)
  rw [left]
  exact {
    inUse := intact.inUse.after minor same
    shown := same.trans intact.shown
    relayed := intact.relayed }

/-- A poll leaves the display as it is, and is one that the reader takes turns with. -/
theorem Intact.poll (intact : front.Intact system typed) (now : τ) (keypad : Keypad) :
    (leftBy (FrontEnd.poll now) (keypad, front)).2.Intact system typed := by
  rw [leftBy, FrontEnd.poll]
  cases front.outages.poll? front.polls with
  | some reason => exact { intact with }
  | none => exact { intact with relayed := intact.relayed.poll now keypad }

theorem keeps_intact (system : Option Display.System) (typed : List Int) :
    Front.Keeps (Intact system typed : FrontEnd τ → Prop) where
  setTitle title _ intact := intact.perform (Display.uses_setTitle title)
  draw cells _ intact := intact.perform (Display.uses_draw cells)
  poll now keypad _ intact := intact.poll now keypad

/-- A host is created with the front end that is left, and nobody has asked it to quit. -/
theorem meets_create (machine : Machine) (speed : Option Host.Speed)
    (system : Option Display.System) (typed : List Int) :
    Meets (Intact system typed) (Host.create machine speed : EStateM Host.Fault (FrontEnd τ) _)
      (fun host left => left = host.front ∧ left.Intact system typed ∧ host.Unasked)
      (fun _ left => left.Intact system typed) :=
  Host.meets_create machine speed (keeps_intact system typed)
    fun width height _ intact => intact.perform (Display.uses_resize width height)

end FrontEnd

end Chip8
