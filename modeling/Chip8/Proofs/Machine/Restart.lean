import Chip8.Proofs.Machine.Frame

/-! # Restarting

A reset forgets all that was done to a machine but its keys and the random bytes that were drawn.
What it leaves is told from a machine that was just switched on by nothing that is done to both.
-/

namespace Chip8

/-! ### Bytes to come -/

namespace RandomBytes

/-- The byte that a source yields after a number of others. -/
def upcoming (source : RandomBytes) : Nat → UInt8
  | 0 => source.next
  | count + 1 => source.advance.upcoming count

/-- Sources that yield the same bytes from now on. -/
def SameDraws (first second : RandomBytes) : Prop :=
  ∀ count, first.upcoming count = second.upcoming count

theorem lockstep_sameDraws : Lockstep SameDraws where
  next same := same 0
  advance same count := same (count + 1)

theorem upcoming_eq (source : RandomBytes) (count : Nat) :
    source.upcoming count =
      source.bytes.getD ((source.drawn + count) % source.bytes.size) 0 := by
  induction count generalizing source with
  | zero => rfl
  | succ count ih =>
    rw [upcoming, ih, advance, Nat.add_right_comm, Nat.add_assoc]

end RandomBytes

namespace Machine

open RandomBytes (SameDraws)

variable {machine : Machine}

/-! ### The power-on state -/

/-- Of what it was, a machine that is reset keeps its variant, its tracing, its keys and the
random bytes to come. -/
theorem Valid.restarted_eq (valid : machine.Valid) :
    machine.restarted =
      { fresh machine.variant machine.tracing machine.random with keypad := machine.keypad } := by
  have memory : machine.memory.clear = (Memory.zeros Layout.memorySize).clear := by
    rw [Memory.clear, Memory.clear, Memory.size_zeros, valid.memory]
    rfl
  have stack : machine.stack.clear = CallStack.clear {} := by
    rw [CallStack.clear, CallStack.clear, valid.capacity]
  have cells : Framebuffer.blank.cells.size = 2048 := Memory.size_zeros _
  have framebuffer : machine.framebuffer.clear = Framebuffer.blank.clear := by
    rw [Framebuffer.clear, Framebuffer.clear, Memory.clear, Memory.clear, valid.cells, cells,
      valid.width, valid.height]
    rfl
  rw [fresh_eq, Machine.restarted, Machine.restarted, memory, stack, framebuffer]
  rfl

/-- Switching on changes none of what a machine is built with. -/
theorem settings_fresh (variant : Variant) (tracing : Bool) (random : RandomBytes) :
    (fresh variant tracing random).variant = variant ∧
      (fresh variant tracing random).tracing = tracing ∧
        (fresh variant tracing random).random = random := by
  rw [fresh_eq, Machine.restarted]
  exact ⟨rfl, rfl, rfl⟩

theorem fresh_refitted (variant : Variant) (tracing : Bool) (random source : RandomBytes) :
    (fresh variant tracing random).refitted tracing source = fresh variant tracing source := by
  rw [fresh_eq, fresh_eq, ← restarted_refitted]
  rfl

/-- Machines that were just switched on are twins if the same random bytes await them, also with
keys down. -/
theorem twin_fresh (variant : Variant) (tracing : Bool) (keypad : Keypad)
    {source random : RandomBytes} (same : SameDraws source random) :
    Twin SameDraws tracing tracing { fresh variant tracing source with keypad }
      { fresh variant tracing random with keypad } := by
  have valid := valid_fresh variant tracing random
  obtain ⟨-, traces, draws⟩ := settings_fresh variant tracing random
  rw [← fresh_refitted variant tracing random source]
  generalize fresh variant tracing random = machine at *
  rw [← draws] at same
  exact @Twin.mk SameDraws tracing tracing { machine with keypad } source { valid with } same traces

/-! ### Runs -/

/-- Outcomes that fail alike and leave machines that differ at most in how their random bytes
are stored. -/
structure Outcome.Alike (first second : Outcome) : Prop where
  machine : first.machine = { second.machine with random := first.machine.random }
  random : SameDraws first.machine.random second.machine.random
  fault : first.fault = second.fault
  report : first.report = second.report

theorem Outcome.Twin.alike {tracing : Bool} {first second : Outcome}
    (twin : Outcome.Twin SameDraws tracing tracing first second) : Outcome.Alike first second := by
  have report := twin.report
  obtain ⟨first, traces, fault⟩ := first
  obtain ⟨⟨valid, agrees, same⟩, faults⟩ := twin
  exact ⟨by subst same; rfl, agrees, faults, report⟩

/-- Whatever was done to a machine, a reset brings it into the state of one that was just switched
on, with the same settings, the keys as they are and the random bytes that are left. So whatever
program is loaded then, and whatever is done, both machines go on alike. -/
theorem restart_is_fresh (variant : Variant) (tracing : Bool) (random : RandomBytes)
    (operations : List Operation) :
    let machine := (fresh variant tracing random).run operations
    machine.perform .reset =
        { machine := { fresh variant tracing machine.random with keypad := machine.keypad } } ∧
      ∀ source, SameDraws source machine.random → ∀ program following,
        List.Forall₂ Outcome.Alike
          ({ fresh variant tracing source with keypad := machine.keypad }.outcomes
            (.load program :: following))
          ((machine.perform .reset).machine.outcomes (.load program :: following)) := by
  intro machine
  have validFresh := valid_fresh variant tracing random
  have valid : machine.Valid := validFresh.run operations
  obtain ⟨sameVariant, sameTracing⟩ := validFresh.settings_run operations
  obtain ⟨builtVariant, builtTracing, -⟩ := settings_fresh variant tracing random
  have resets : machine.perform .reset =
      { machine := { fresh variant tracing machine.random with keypad := machine.keypad } } := by
    rw [valid.perform_reset, valid.restarted_eq, sameVariant.trans builtVariant,
      sameTracing.trans builtTracing]
  refine ⟨resets, ?_⟩
  intro source same program following
  rw [resets]
  have twins := twin_fresh variant tracing machine.keypad same
  refine (twins.outcomes RandomBytes.lockstep_sameDraws (.load program :: following)).imp ?_
  intro new again twin
  exact twin.alike

/-- A machine that drew one of its random bytes, and then failed at a word that is no
instruction. -/
def spentMachine : Machine :=
  (fresh {} false { bytes := #[1, 2] }).run [.load [0xc0, 0xff], .cycle, .cycle]

theorem spentMachine_eq :
    spentMachine.random = { bytes := #[1, 2], drawn := 1 } ∧
      spentMachine.registers.get 0 = 1 ∧ spentMachine.word = 0 := by
  decide +kernel

theorem sameDraws_spentMachine : SameDraws { bytes := #[2, 1] } spentMachine.random := by
  intro count
  rw [spentMachine_eq.1, RandomBytes.upcoming_eq, RandomBytes.upcoming_eq]
  rcases Nat.mod_two_eq_zero_or_one count with even | odd
  · simp [Nat.add_mod, even]
  · simp [Nat.add_mod, odd]

theorem restart_is_fresh_spentMachine :
    SameDraws { bytes := #[2, 1] } spentMachine.random ∧
      spentMachine.registers.get 0 = 1 ∧ spentMachine.word = 0 ∧
      spentMachine.perform .reset =
        { machine := { fresh {} false spentMachine.random with keypad := spentMachine.keypad } } ∧
      List.Forall₂ Outcome.Alike
        ({ fresh {} false { bytes := #[2, 1] } with keypad := spentMachine.keypad }.outcomes
          [.load [0xc1, 0xff], .cycle])
        ((spentMachine.perform .reset).machine.outcomes [.load [0xc1, 0xff], .cycle]) := by
  obtain ⟨-, drew, failed⟩ := spentMachine_eq
  obtain ⟨resets, alike⟩ :=
    restart_is_fresh {} false { bytes := #[1, 2] } [.load [0xc0, 0xff], .cycle, .cycle]
  exact ⟨sameDraws_spentMachine, drew, failed, resets,
    alike _ sameDraws_spentMachine [0xc1, 0xff] [.cycle]⟩

end Machine

end Chip8
