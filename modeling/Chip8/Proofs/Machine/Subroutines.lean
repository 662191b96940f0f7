import Chip8.Proofs.Machine.Failures
import Chip8.Proofs.Machine.Operations
import Mathlib.Data.List.Infix

/-! # Calls and returns

An instruction adds at most one entry to the call stack or takes the innermost one away. So the
entries that a run begins with stay below all others for as long as the stack is as deep as they
reach, and a subroutine that returns at the depth of its call finds the address behind the call.
-/

namespace Chip8.Machine

variable {machine : Machine}

/-- Entries of a call stack before and after a step that adds or takes away at most one. -/
def Adjoin (before after : List Int) : Prop :=
  after = before ∨ (∃ entry, after = entry :: before) ∨ ∃ entry, before = entry :: after

/-- Entries on which the stack was built stay where they are if it is still as deep. -/
theorem Adjoin.suffix {before after base : List Int} (adjoin : Adjoin before after)
    (suffix : base <:+ before) (deep : base.length ≤ after.length) : base <:+ after := by
  rcases adjoin with rfl | ⟨entry, rfl⟩ | ⟨entry, rfl⟩
  · exact suffix
  · exact suffix.trans (List.suffix_cons entry before)
  · rcases List.suffix_cons_iff.mp suffix with rfl | suffix
    · rw [List.length_cons] at deep
      omega
    · exact suffix

theorem adjoin_effect (machine : Machine) (instruction : Instruction) :
    Adjoin machine.stack.entries (machine.effect instruction).stack.entries := by
  cases instruction
  case ret =>
    rw [effect]
    cases popped : machine.stack.pop with
    | ok result => exact .inr (.inr ⟨_, (CallStack.pop_eq_ok_iff.mp popped).1⟩)
    | error fault => exact .inl rfl
  case call address =>
    rw [effect]
    cases pushed : machine.stack.push machine.pc with
    | ok stack =>
      obtain ⟨-, rfl⟩ := CallStack.push_eq_ok_iff.mp pushed
      exact .inr (.inl ⟨_, rfl⟩)
    | error fault => exact .inl rfl
  case awaitKey x =>
    rw [effect, keyAwaited]
    cases machine.keypad.firstDown <;> exact .inl rfl
  all_goals exact .inl rfl

theorem Valid.adjoin_cycle (valid : machine.Valid) :
    Adjoin machine.stack.entries machine.cycle.machine.stack.entries := by
  cases decoded : Instruction.decode? machine.nextWord with
  | none =>
    rw [valid.cycle_undecoded decoded]
    exact .inl rfl
  | some instruction =>
    rw [valid.cycle_decoded decoded]
    exact adjoin_effect machine.fetched instruction

/-! ### The entries below a run -/

theorem Valid.suffix_perform (valid : machine.Valid) {base : List Int} {operation : Operation}
    (suffix : base <:+ machine.stack.entries)
    (deep : base.length ≤ (machine.perform operation).machine.stack.depth) :
    base <:+ (machine.perform operation).machine.stack.entries := by
  cases operation with
  | load program =>
    rw [valid.perform_load]
    split <;> exact suffix
  | reset =>
    rw [valid.perform_reset] at deep ⊢
    rw [List.eq_nil_of_length_eq_zero (Nat.le_zero.mp deep)]
    exact List.nil_suffix
  | cycle => exact valid.adjoin_cycle.suffix suffix deep
  | tick | keys | present => exact suffix

/-- The entries that a run begins with stay at the bottom of the stack if it never gets less
deep. -/
theorem Valid.suffix_run (valid : machine.Valid) {base : List Int} {operations : List Operation}
    (suffix : base <:+ machine.stack.entries)
    (deep : ∀ done, done <+: operations → base.length ≤ (machine.run done).stack.depth) :
    base <:+ (machine.run operations).stack.entries := by
  induction operations generalizing machine with
  | nil => exact suffix
  | cons operation rest ih =>
    have first := deep [operation] (List.prefix_append [operation] rest)
    apply ih (valid.perform operation) (valid.suffix_perform suffix first)
    intro done before
    exact deep (operation :: done) (List.cons_prefix_cons.mpr ⟨rfl, before⟩)

/-! ### A call and its return -/

theorem Valid.cycle_call (valid : machine.Valid) (calls : machine.nextWord / 0x1000 = 2)
    (room : machine.stack.depth < 16) :
    machine.cycle.machine.stack.entries =
      Layout.wrap (machine.pc + 2) :: machine.stack.entries := by
  obtain ⟨address, decoded⟩ := decode?_eq_call_iff.mpr calls
  have pushed : machine.fetched.stack.push machine.fetched.pc =
      .ok { machine.stack with entries := Layout.wrap (machine.pc + 2) :: machine.stack.entries } := by
    apply CallStack.push_eq_ok_iff.mpr
    refine ⟨?_, rfl⟩
    change (machine.stack.depth : Int) < machine.stack.capacity
    rw [valid.capacity]
    omega
  rw [valid.cycle_decoded decoded, Machine.effect]
  simp only [pushed]

theorem Valid.cycle_ret (valid : machine.Valid) {entry : Int} {rest : List Int}
    (returns : machine.nextWord = 0x00ee) (entries : machine.stack.entries = entry :: rest) :
    machine.cycle.fault = none ∧ machine.cycle.machine.pc = entry ∧
      machine.cycle.machine.stack = { entries := rest, capacity := 16 } := by
  have popped : machine.fetched.stack.pop = .ok (entry, { entries := rest, capacity := 16 }) :=
    CallStack.pop_eq_ok_iff.mpr ⟨entries, valid.capacity.symm⟩
  rw [valid.cycle_decoded (decode?_eq_ret_iff.mpr returns), refusal, Machine.effect]
  simp only [popped, and_self]

/-- A subroutine that returns at the depth of its call goes on behind the call, with the stack as
it was before the call. What ran in between may be anything that leaves the entry of the call on
the stack. -/
theorem stack_restored_by_return {source : Machine} {lead body : List Operation}
    (valid : source.Valid)
    (calls : source.nextWord / 0x1000 = 2)
    (room : source.stack.depth < 16)
    (peripheral : ∀ operation ∈ lead, operation.isPeripheral)
    (nested : ∀ done, done <+: body →
      source.stack.depth + 1 ≤ (source.run (lead ++ .cycle :: done)).stack.depth)
    (level : (source.run (lead ++ .cycle :: body)).stack.depth = source.stack.depth + 1)
    (returns : (source.run (lead ++ .cycle :: body)).nextWord = 0x00ee) :
    let final := (source.run (lead ++ .cycle :: body)).cycle
    final.fault = none ∧ final.machine.pc = Layout.wrap (source.pc + 2) ∧
      final.machine.stack = source.stack := by
  obtain ⟨framebuffer, keypad, delay, sound, led⟩ := @run_peripheral source _ peripheral
  -- The peripheral operations before the call change neither the word nor the stack.
  have called : (source.run lead).cycle.machine.stack.entries =
      Layout.wrap (source.pc + 2) :: source.stack.entries := by
    have call := (valid.run lead).cycle_call
    rw [led] at call ⊢
    exact call calls room
  have split : ∀ done, source.run (lead ++ .cycle :: done) =
      (source.run lead).cycle.machine.run done := by
    intro done
    rw [run_append, run_cons]
    rfl
  simp only [split] at nested level returns ⊢
  have inside : (source.run lead).cycle.machine.Valid := (valid.run lead).cycle
  -- What the call left is still at the bottom, and the stack is no deeper than that.
  have below : Layout.wrap (source.pc + 2) :: source.stack.entries <:+
      ((source.run lead).cycle.machine.run body).stack.entries :=
    inside.suffix_run (called ▸ List.suffix_rfl) nested
  have whole := below.eq_of_length level.symm
  obtain ⟨succeeded, pc, stack⟩ := (inside.run body).cycle_ret returns whole.symm
  refine ⟨succeeded, pc, ?_⟩
  rw [stack, ← valid.capacity]

/-- A machine about to call a subroutine from the last word of its memory. The subroutine calls
another one, which returns at once, and then returns itself. -/
def nestedCaller : Machine :=
  { unpowered {} false {} with
    memory :=
      ((Memory.zeros Layout.memorySize).place 0x204 [0x22, 0x08, 0x00, 0xee, 0x00, 0xee]).place
        0xffe [0x22, 0x04]
    stack := { entries := [0x300] }
    pc := 0xffe }

theorem valid_nestedCaller : nestedCaller.Valid :=
  { valid_unpowered {} false {} with
    memory := by rw [nestedCaller, Memory.size_place, Memory.size_place, Memory.size_zeros]; rfl
    pc := by decide
    depth := by decide
    entries := by decide }

def nestedCalls : List Operation := [.cycle, .keys (.press 3), .cycle]

theorem stack_restored_nestedCaller :
    let final := (nestedCaller.run ([.tick] ++ .cycle :: nestedCalls)).cycle
    nestedCaller.Valid ∧ final.fault = none ∧ final.machine.pc = 0 ∧
      final.machine.stack = { entries := [0x300] } := by
  obtain ⟨calls, nested, level, returns⟩ :
      nestedCaller.nextWord / 0x1000 = 2 ∧
      (∀ done ∈ nestedCalls.inits,
        2 ≤ (nestedCaller.run ([.tick] ++ .cycle :: done)).stack.depth) ∧
      (nestedCaller.run ([.tick] ++ .cycle :: nestedCalls)).stack.depth = 2 ∧
      (nestedCaller.run ([.tick] ++ .cycle :: nestedCalls)).nextWord = 0x00ee := by
    decide +kernel
  have wraps : Layout.wrap (nestedCaller.pc + 2) = 0 := by decide
  have restored := stack_restored_by_return valid_nestedCaller calls (by decide) (by decide)
    (fun done before => nested done ((List.mem_inits done nestedCalls).mpr before)) level returns
  rw [wraps] at restored
  exact ⟨valid_nestedCaller, restored⟩

end Chip8.Machine
