import Chip8.Machine.Dump
import Chip8.Proofs.Machine.Operations
import Mathlib.Data.List.Forall2

/-! # Twins

No instruction looks at whether it is traced, or at more of the random bytes to come than the next
one. So two machines that are alike but for their tracing, and whose random bytes go on alike, stay
so whatever is done to both of them, and fail alike.
-/

namespace Chip8

/-- A relation between sources that yield the same byte next and stay related behind it. -/
structure RandomBytes.Lockstep (agree : RandomBytes → RandomBytes → Prop) : Prop where
  next : ∀ {first second}, agree first second → first.next = second.next
  advance : ∀ {first second}, agree first second → agree first.advance second.advance

/-- The source after an instruction, which draws one byte from it or none. -/
def Instruction.drawFrom (source : RandomBytes) : Instruction → RandomBytes
  | random _ _ => source.advance
  | _ => source

theorem RandomBytes.Lockstep.drawFrom {agree : RandomBytes → RandomBytes → Prop}
    (lockstep : Lockstep agree) {first second : RandomBytes} (agrees : agree first second)
    (instruction : Instruction) :
    agree (instruction.drawFrom first) (instruction.drawFrom second) := by
  cases instruction
  case random => exact lockstep.advance agrees
  all_goals exact agrees

namespace Machine

variable {first second : Machine} {tracing other : Bool} {source : RandomBytes}
  {agree : RandomBytes → RandomBytes → Prop}

/-- The machine with its tracing and its random bytes replaced. -/
def refitted (machine : Machine) (tracing : Bool) (random : RandomBytes) : Machine :=
  { machine with tracing, random }

theorem restarted_refitted (machine : Machine) (tracing : Bool) (source : RandomBytes) :
    (machine.refitted tracing source).restarted = machine.restarted.refitted tracing source := rfl

theorem effect_refitted (machine : Machine) (tracing : Bool)
    (next : source.next = machine.random.next) (instruction : Instruction) :
    (machine.refitted tracing source).effect instruction =
      (machine.effect instruction).refitted tracing (instruction.drawFrom source) := by
  cases instruction
  case ret => simp only [effect, refitted]; split <;> rfl
  case call => simp only [effect, refitted]; split <;> rfl
  case awaitKey => simp only [effect, keyAwaited, refitted]; split <;> rfl
  case random => simp only [effect, refitted, next]; rfl
  all_goals rfl

theorem random_effect (machine : Machine) (instruction : Instruction) :
    (machine.effect instruction).random = instruction.drawFrom machine.random :=
  congrArg random (effect_refitted machine machine.tracing rfl instruction)

theorem tracing_effect (machine : Machine) (instruction : Instruction) :
    (machine.effect instruction).tracing = machine.tracing := by
  change ((machine.refitted machine.tracing machine.random).effect instruction).tracing = _
  rw [effect_refitted machine machine.tracing rfl]
  rfl

/-- The first machine is the second one with its tracing and its random bytes replaced. Whether
each of them traces is part of the relation. -/
inductive Twin (agree : RandomBytes → RandomBytes → Prop) (tracing other : Bool) :
    Machine → Machine → Prop
  | mk {machine : Machine} {source : RandomBytes} (valid : machine.Valid)
      (agrees : agree source machine.random) (traces : machine.tracing = other) :
      Twin agree tracing other (machine.refitted tracing source) machine

namespace Twin

theorem valid_first (twin : Twin agree tracing other first second) : first.Valid := by
  obtain ⟨valid, -, -⟩ := twin
  exact { valid with }

theorem valid_second (twin : Twin agree tracing other first second) : second.Valid := by
  obtain ⟨valid, -, -⟩ := twin
  exact valid

theorem tracing_first (twin : Twin agree tracing other first second) :
    first.tracing = tracing := by
  cases twin
  rfl

theorem nextWord (twin : Twin agree tracing other first second) :
    first.nextWord = second.nextWord := by
  cases twin
  rfl

theorem refusal (twin : Twin agree tracing other first second) (instruction : Instruction) :
    first.refusal instruction = second.refusal instruction := by
  cases twin
  cases instruction <;> rfl

theorem message (twin : Twin agree tracing other first second) (fault : Fault) :
    fault.message first = fault.message second := by
  cases twin
  cases fault <;> rfl

theorem fetched (twin : Twin agree tracing other first second) :
    Twin agree tracing other first.fetched second.fetched := by
  obtain ⟨valid, agrees, traces⟩ := twin
  exact .mk valid.fetched agrees traces

theorem effect (lockstep : RandomBytes.Lockstep agree)
    (twin : Twin agree tracing other first second) (instruction : Instruction) :
    Twin agree tracing other (first.effect instruction) (second.effect instruction) := by
  obtain ⟨valid, agrees, traces⟩ := twin
  rw [effect_refitted second tracing (lockstep.next agrees)]
  refine .mk (valid.effect instruction) ?_ ((tracing_effect second instruction).trans traces)
  rw [random_effect]
  exact lockstep.drawFrom agrees instruction

end Twin

/-! ### Operations -/

/-- The text that goes with the fault of an outcome. -/
def Outcome.report (outcome : Outcome) : Option String :=
  outcome.fault.map (Fault.message outcome.machine)

/-- Outcomes that leave twins and fail alike. -/
structure Outcome.Twin (agree : RandomBytes → RandomBytes → Prop) (tracing other : Bool)
    (first second : Outcome) : Prop where
  machine : Machine.Twin agree tracing other first.machine second.machine
  fault : first.fault = second.fault

theorem Outcome.Twin.report {first second : Outcome}
    (twin : Outcome.Twin agree tracing other first second) : first.report = second.report := by
  rw [Outcome.report, Outcome.report, twin.fault]
  exact Option.map_congr fun fault _ => twin.machine.message fault

namespace Twin

theorem cycle (lockstep : RandomBytes.Lockstep agree)
    (twin : Twin agree tracing other first second) :
    Outcome.Twin agree tracing other first.cycle second.cycle := by
  have word := twin.nextWord
  cases decoded : Instruction.decode? second.nextWord with
  | none =>
    rw [twin.valid_second.cycle_undecoded decoded, ← word] at *
    rw [twin.valid_first.cycle_undecoded decoded]
    exact ⟨twin.fetched, rfl⟩
  | some instruction =>
    rw [twin.valid_second.cycle_decoded decoded]
    rw [← word] at decoded
    rw [twin.valid_first.cycle_decoded decoded]
    exact ⟨twin.fetched.effect lockstep instruction, twin.fetched.refusal instruction⟩

theorem perform (lockstep : RandomBytes.Lockstep agree)
    (twin : Twin agree tracing other first second) (operation : Operation) :
    Outcome.Twin agree tracing other (first.perform operation) (second.perform operation) := by
  cases operation with
  | cycle => exact twin.cycle lockstep
  | load program =>
    rw [twin.valid_first.perform_load, twin.valid_second.perform_load]
    obtain ⟨valid, agrees, traces⟩ := twin
    split
    · exact ⟨.mk (valid.loaded program) agrees traces, rfl⟩
    · exact ⟨.mk valid agrees traces, rfl⟩
  | reset =>
    rw [twin.valid_first.perform_reset, twin.valid_second.perform_reset]
    obtain ⟨valid, agrees, traces⟩ := twin
    -- What a reset keeps is said first, for the font would be unfolded to see it below.
    have draws : second.restarted.random = second.random := by rw [restarted]
    have kept : second.restarted.tracing = second.tracing := by rw [restarted]
    rw [← draws] at agrees
    rw [restarted_refitted]
    exact ⟨.mk valid.restarted agrees (kept.trans traces), rfl⟩
  | tick =>
    obtain ⟨valid, agrees, traces⟩ := twin
    exact ⟨.mk valid.tick agrees traces, rfl⟩
  | keys operation =>
    obtain ⟨valid, agrees, traces⟩ := twin
    exact ⟨.mk (valid.perform (.keys operation)) agrees traces, rfl⟩
  | present shows =>
    obtain ⟨valid, agrees, traces⟩ := twin
    exact ⟨.mk (valid.perform (.present shows)) agrees traces, rfl⟩

theorem run (lockstep : RandomBytes.Lockstep agree)
    (twin : Twin agree tracing other first second) (operations : List Operation) :
    Twin agree tracing other (first.run operations) (second.run operations) := by
  induction operations generalizing first second with
  | nil => exact twin
  | cons operation rest ih => exact ih (twin.perform lockstep operation).machine

/-- Twins stay twins in all that is done to them. -/
theorem outcomes (lockstep : RandomBytes.Lockstep agree)
    (twin : Twin agree tracing other first second) (operations : List Operation) :
    List.Forall₂ (Outcome.Twin agree tracing other) (first.outcomes operations)
      (second.outcomes operations) := by
  induction operations generalizing first second with
  | nil => exact .nil
  | cons operation rest ih =>
    have step := twin.perform lockstep operation
    exact .cons step (ih step.machine)

end Twin

end Machine

end Chip8
