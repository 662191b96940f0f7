import Chip8.Proofs.Machine.Dump
import Chip8.Proofs.Machine.Frame

/-! # Tracing

A machine that traces goes through the same states as one that does not, and fails as it does. For
each word that encodes an instruction it logs one line, which shows what the instruction found, and
it logs nothing else.
-/

namespace Chip8.Machine

variable {machine first second : Machine}

def withTracing (machine : Machine) (tracing : Bool) : Machine := { machine with tracing }

theorem Valid.withTracing (valid : machine.Valid) (tracing : Bool) :
    (machine.withTracing tracing).Valid :=
  { valid with }

theorem Valid.twin_withTracing (valid : machine.Valid) (tracing : Bool) :
    Twin Eq tracing machine.tracing (machine.withTracing tracing) machine :=
  .mk valid rfl rfl

/-- Twins with the same random bytes to come differ in nothing but in whether they trace. -/
theorem Twin.first_eq {tracing other : Bool} (twin : Twin Eq tracing other first second) :
    first = second.withTracing tracing := by
  obtain ⟨-, rfl, -⟩ := twin
  rfl

theorem lockstep_eq : RandomBytes.Lockstep Eq where
  next same := congrArg RandomBytes.next same
  advance same := congrArg RandomBytes.advance same

/-! ### Lines -/

/-- Only cycles log anything, and only on a machine that traces. -/
theorem Valid.traces_perform (valid : machine.Valid) {operation : Operation}
    (silent : operation ≠ .cycle ∨ machine.tracing = false) :
    (machine.perform operation).traces = [] := by
  cases operation with
  | load program =>
    rw [valid.perform_load]
    split <;> rfl
  | reset => rw [valid.perform_reset]
  | tick | keys | present => rfl
  | cycle =>
    have quiet : machine.tracing = false := silent.resolve_left (absurd rfl)
    cases decoded : Instruction.decode? machine.nextWord with
    | none => rw [Machine.perform, valid.cycle_undecoded decoded]
    | some instruction =>
      rw [Machine.perform, valid.cycle_decoded decoded]
      exact if_neg (ne_true_of_eq_false quiet)

theorem Valid.traces_outcomes (valid : machine.Valid) (quiet : machine.tracing = false)
    (operations : List Operation) :
    ∀ outcome ∈ machine.outcomes operations, outcome.traces = [] := by
  induction operations generalizing machine with
  | nil => exact List.forall_mem_nil _
  | cons operation rest ih =>
    have kept := (valid.settings_perform operation).2
    exact List.forall_mem_cons.mpr
      ⟨valid.traces_perform (.inr quiet), ih (valid.perform operation) (kept.trans quiet)⟩

/-- The line is due whether or not the instruction is refused afterwards. -/
theorem Valid.traces_cycle (valid : machine.Valid) (tracing : machine.tracing = true)
    {instruction : Instruction} (encoded : instruction.encode = machine.nextWord) :
    machine.cycle.traces =
      [machine.fetched.dump (instruction.mnemonic machine.variant.shiftsCopy)] := by
  rw [valid.cycle_decoded (decode?_nextWord_iff.mpr encoded)]
  exact if_pos tracing

/-- A word that encodes no instruction is not traced. -/
theorem Valid.traces_unsupported (valid : machine.Valid)
    (unsupported : ∀ form ∈ Instruction.forms, ¬ form.Fits machine.nextWord) :
    machine.cycle.traces = [] := by
  rw [valid.cycle_undecoded (decode?_nextWord_eq_none_iff.mpr unsupported)]

/-! ### Runs -/

/-- Two machines that differ in whether they trace go through states that differ in nothing else,
and fail with the same faults and texts. At any point of the run, the one that traces logs exactly
one line in a cycle whose word fits a form of the instruction set. The line shows the registers,
the index and the timers before the cycle, the address and the word that is fetched, and the text
of the instruction. -/
theorem tracing_transparent (valid : machine.Valid) (operations : List Operation) :
    let traced := machine.withTracing true
    let quiet := machine.withTracing false
    List.Forall₂
      (fun seen unseen =>
        seen.machine = unseen.machine.withTracing true ∧ seen.fault = unseen.fault ∧
          seen.report = unseen.report)
      (traced.outcomes operations) (quiet.outcomes operations) ∧
    (∀ outcome ∈ quiet.outcomes operations, outcome.traces = []) ∧
    ∀ done operation,
      let before := traced.run done
      let lines := (before.perform operation).traces
      (operation ≠ .cycle → lines = []) ∧
      (operation = .cycle →
        (∀ form ∈ Instruction.forms, ¬ form.Fits before.nextWord) → lines = []) ∧
      (operation = .cycle → ∀ form ∈ Instruction.forms, form.Fits before.nextWord →
        ∃ instruction : Instruction, instruction.encode = before.nextWord ∧
          lines =
            ["V: 0x" ++ registersText before.registers ++
              " I: 0x" ++ Hex.padded 3 before.index ++
              " DT: 0x" ++ Hex.padded 2 before.delay ++
              " ST: 0x" ++ Hex.padded 2 before.sound ++
              " PC: 0x" ++ Hex.padded 3 before.pc ++
              " OP: 0x" ++ Hex.padded 4 before.nextWord ++
              " IN: " ++ instruction.mnemonic before.variant.shiftsCopy]) := by
  intro traced quiet
  have validQuiet : quiet.Valid := valid.withTracing false
  have twin : Twin Eq true false traced quiet := validQuiet.twin_withTracing true
  refine ⟨?_, validQuiet.traces_outcomes rfl operations, ?_⟩
  · refine (twin.outcomes lockstep_eq operations).imp ?_
    intro seen unseen alike
    exact ⟨alike.machine.first_eq, alike.fault, alike.report⟩
  · intro done operation before lines
    have validBefore : before.Valid := twin.valid_first.run done
    have tracing : before.tracing = true := (twin.run lockstep_eq done).tracing_first
    refine ⟨?_, ?_, ?_⟩
    · intro other
      exact validBefore.traces_perform (.inl other)
    · rintro rfl unsupported
      exact validBefore.traces_unsupported unsupported
    · rintro rfl form member fits
      obtain ⟨instruction, encoded⟩ := exists_encode_of_fits member fits
      refine ⟨instruction, encoded, (validBefore.traces_cycle tracing encoded).trans ?_⟩
      rw [dump_eq]
      rfl

/-- A call that is refused is traced before that. -/
theorem tracing_transparent_deepCaller :
    deepCaller.Valid ∧
      ((deepCaller.withTracing true).perform .cycle).fault = some (.calling (.overflow 16)) ∧
      ((deepCaller.withTracing true).perform .cycle).traces =
        ["V: 0x00000000000000000000000000000000 I: 0x000 DT: 0x00 ST: 0x00 PC: 0xfff " ++
          "OP: 0x2300 IN: CALL 0x300"] := by
  have valid := valid_deepCaller
  have word : (deepCaller.withTracing true).nextWord = 0x2300 := nextWord_deepCaller
  have full : 16 ≤ (deepCaller.withTracing true).stack.depth := by decide
  have text : (deepCaller.withTracing true).fetched.dump
      ((Instruction.call 0x300).mnemonic (deepCaller.withTracing true).variant.shiftsCopy) =
        "V: 0x00000000000000000000000000000000 I: 0x000 DT: 0x00 ST: 0x00 PC: 0xfff " ++
          "OP: 0x2300 IN: CALL 0x300" := by
    decide +kernel
  obtain ⟨-, -, logs⟩ := tracing_transparent valid [.cycle]
  obtain ⟨-, -, traces⟩ := logs [] .cycle
  have validTraced := valid.withTracing true
  -- From here on only these facts matter, and the bytes of the memory do not.
  generalize deepCaller.withTracing true = traced at *
  rw [run_nil] at traces
  have fits : Instruction.Form.Fits ⟨0x2, none, none, none⟩ traced.nextWord :=
    ⟨by rw [word]; rfl, nofun, nofun, nofun⟩
  obtain ⟨instruction, encoded, line⟩ := traces rfl _ (by decide) fits
  have called : instruction = .call 0x300 := by
    have decoded := Instruction.decode?_encode instruction
    rw [encoded, word] at decoded
    exact (Option.some.inj decoded).symm
  have dumped : (traced.perform .cycle).traces =
      [traced.fetched.dump (instruction.mnemonic traced.variant.shiftsCopy)] := by
    rw [dump_eq]
    exact line
  rw [called, text] at dumped
  refine ⟨valid, validTraced.fault_eq_some_iff.mpr (.inr (.inr ⟨?_, full, rfl⟩)), dumped⟩
  rw [word]
  rfl

end Chip8.Machine
