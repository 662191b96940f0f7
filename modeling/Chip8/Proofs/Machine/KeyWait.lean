import Chip8.Proofs.Machine.Failures
import Chip8.Proofs.Machine.Operations

/-! # Waiting for a key

An instruction that waits for a key in vain moves the program counter back onto itself, so the
next cycle runs it again. Nothing but a cycle changes the program counter or the memory, so that
instruction is all that a machine can run while it waits.
-/

namespace Chip8.Machine

variable {machine : Machine}

/-- The words `Fx0A`, which wait for a key. -/
def IsKeyWait (word : Int) : Prop := word / 0x1000 = 0xf ∧ word % 0x100 = 0x0a

/-- The next cycle waits for a key, and no key is down. -/
def WaitsInVain (machine : Machine) : Prop :=
  IsKeyWait machine.nextWord ∧ ∀ key, machine.keypad.holds key = false

theorem decode?_eq_awaitKey_iff {x : Register} :
    Instruction.decode? machine.nextWord = some (.awaitKey x) ↔
      IsKeyWait machine.nextWord ∧ x = Word.x machine.nextWord := by
  rw [decode?_nextWord_iff, Instruction.encode]
  constructor
  · intro encoded
    rw [← encoded, IsKeyWait]
    refine ⟨⟨Word.family_ofByte 0xf x 0x0a, ?_⟩, (Word.x_ofByte 0xf x 0x0a).symm⟩
    rw [← Word.toNat_byte, Word.byte_ofByte]
    rfl
  · rintro ⟨⟨family, selector⟩, rfl⟩
    apply Word.ofByte_eq family
    rw [Word.byte, selector]
    rfl

/-! ### One cycle -/

theorem awaitingKey_effect {instruction : Instruction}
    (other : ∀ x, instruction ≠ .awaitKey x) :
    (machine.effect instruction).awaitingKey = machine.awaitingKey := by
  cases instruction
  case awaitKey x => exact absurd rfl (other x)
  case ret => rw [effect]; split <;> rfl
  case call => rw [effect]; split <;> rfl
  all_goals rfl

/-- Moving back undoes moving forward. -/
theorem wrap_back {address : Int} (bounds : 0 ≤ address ∧ address ≤ 0xfff) :
    Layout.wrap (Layout.wrap (address + 2) - 2) = address := by
  simp only [Layout.wrap]
  omega

theorem Valid.cycle_in_vain (valid : machine.Valid) (vain : machine.WaitsInVain) :
    machine.cycle.fault = none ∧
      machine.cycle.machine =
        { machine with origin := machine.pc, word := machine.nextWord, awaitingKey := true } := by
  have up : machine.fetched.keypad.firstDown = none := Keypad.firstDown_eq_none_iff.mpr vain.2
  have back : Layout.wrap (machine.fetched.pc - 2) = machine.pc := wrap_back valid.pc
  rw [valid.cycle_decoded (decode?_eq_awaitKey_iff.mpr ⟨vain.1, rfl⟩), Machine.effect,
    Machine.keyAwaited, up]
  simp only [back]
  exact ⟨rfl, rfl⟩

theorem Valid.cycle_key (valid : machine.Valid) {key : Key} (wait : IsKeyWait machine.nextWord)
    (first : machine.keypad.firstDown = some key) :
    machine.cycle.fault = none ∧
      machine.cycle.machine =
        { machine with
          registers :=
            machine.registers.write (Word.x machine.nextWord) (UInt8.ofNat key.val)
          origin := machine.pc
          word := machine.nextWord
          pc := Layout.wrap (machine.pc + 2)
          awaitingKey := false } := by
  have down : machine.fetched.keypad.firstDown = some key := first
  rw [valid.cycle_decoded (decode?_eq_awaitKey_iff.mpr ⟨wait, rfl⟩), Machine.effect,
    Machine.keyAwaited, down]
  exact ⟨rfl, rfl⟩

theorem Valid.awaitingKey_cycle (valid : machine.Valid) (other : ¬ IsKeyWait machine.nextWord) :
    machine.cycle.machine.awaitingKey = machine.awaitingKey := by
  cases decoded : Instruction.decode? machine.nextWord with
  | none =>
    rw [valid.cycle_undecoded decoded]
    rfl
  | some instruction =>
    rw [valid.cycle_decoded decoded]
    apply awaitingKey_effect
    rintro x rfl
    exact other (decode?_eq_awaitKey_iff.mp decoded).1

theorem awaitingKey_peripheral {operation : Operation} (peripheral : operation.isPeripheral) :
    (machine.perform operation).machine.awaitingKey = machine.awaitingKey := by
  obtain ⟨framebuffer, keypad, delay, sound, performed⟩ := @perform_peripheral machine _ peripheral
  rw [performed]

/-! ### Machines that wait -/

/-- The instruction that ran last is the one that runs next, and it waits for a key. -/
structure Waiting (machine : Machine) : Prop where
  origin : machine.origin = machine.pc
  word : machine.word = machine.nextWord
  wait : IsKeyWait machine.nextWord

/-- Fetching the same word again leaves no trace but the program counter. -/
theorem Waiting.refetched (waiting : machine.Waiting) :
    { machine with origin := machine.pc, word := machine.nextWord } = machine :=
  congrArg₂ (fun origin word => { machine with origin, word }) waiting.origin.symm
    waiting.word.symm

/-- A machine that claims to await a key does. -/
structure Settled (machine : Machine) : Prop where
  valid : machine.Valid
  waiting : machine.awaitingKey = true → machine.Waiting

theorem Settled.awaitingKey_cycle_iff (settled : machine.Settled) :
    machine.cycle.machine.awaitingKey = true ↔ machine.WaitsInVain := by
  by_cases wait : IsKeyWait machine.nextWord
  · cases first : machine.keypad.firstDown with
    | none =>
      have vain : machine.WaitsInVain := ⟨wait, Keypad.firstDown_eq_none_iff.mp first⟩
      rw [(settled.valid.cycle_in_vain vain).2]
      exact iff_of_true rfl vain
    | some key =>
      have down := (Keypad.firstDown_eq_some_iff.mp first).1
      rw [(settled.valid.cycle_key wait first).2]
      exact iff_of_false Bool.false_ne_true fun vain => by simp [vain.2 key] at down
  · -- Another instruction runs only where the machine did not wait, and it sets nothing.
    rw [settled.valid.awaitingKey_cycle wait]
    exact iff_of_false (fun awaiting => wait (settled.waiting awaiting).wait)
      (fun vain => wait vain.1)

theorem Settled.cycle (settled : machine.Settled) : machine.cycle.machine.Settled where
  valid := settled.valid.cycle
  waiting := by
    intro awaiting
    have vain := settled.awaitingKey_cycle_iff.mp awaiting
    rw [(settled.valid.cycle_in_vain vain).2]
    exact { origin := rfl, word := rfl, wait := vain.1 }

theorem Settled.peripheral (settled : machine.Settled) {operation : Operation}
    (peripheral : operation.isPeripheral) : (machine.perform operation).machine.Settled := by
  have valid := settled.valid.perform operation
  obtain ⟨framebuffer, keypad, delay, sound, performed⟩ := @perform_peripheral machine _ peripheral
  rw [performed] at valid ⊢
  refine { valid, waiting := ?_ }
  intro awaiting
  have waiting := settled.waiting awaiting
  exact { origin := waiting.origin, word := waiting.word, wait := waiting.wait }

theorem Settled.run (settled : machine.Settled) {operations : List Operation}
    (plays : ∀ operation ∈ operations, operation.isPeripheral ∨ operation = .cycle) :
    (machine.run operations).Settled := by
  induction operations generalizing machine with
  | nil => exact settled
  | cons operation rest ih =>
    obtain ⟨first, later⟩ := List.forall_mem_cons.mp plays
    rcases first with peripheral | rfl
    · exact ih (settled.peripheral peripheral) later
    · exact ih settled.cycle later

/-- While no key is down, a waiting machine runs cycles without effect. -/
theorem Settled.cycle_eq (settled : machine.Settled) (awaiting : machine.awaitingKey = true)
    (up : ∀ key, machine.keypad.holds key = false) :
    machine.cycle.fault = none ∧ machine.cycle.machine = machine := by
  have waiting := settled.waiting awaiting
  obtain ⟨succeeded, target⟩ := settled.valid.cycle_in_vain ⟨waiting.wait, up⟩
  refine ⟨succeeded, ?_⟩
  calc machine.cycle.machine
      = { machine with origin := machine.pc, word := machine.nextWord, awaitingKey := true } :=
        target
    _ = { machine with awaitingKey := true } :=
        congrArg (fun fetched : Machine => { fetched with awaitingKey := true }) waiting.refetched
    _ = machine := congrArg (fun awaitingKey => { machine with awaitingKey }) awaiting.symm

/-- The lowest key that is down ends the wait. -/
theorem Settled.cycle_eq_of_key (settled : machine.Settled)
    (awaiting : machine.awaitingKey = true) {key : Key} (down : machine.keypad.holds key = true)
    (lowest : ∀ lower < key, machine.keypad.holds lower = false) :
    machine.cycle.fault = none ∧
      machine.cycle.machine =
        { machine with
          registers :=
            machine.registers.write (Word.x machine.nextWord) (UInt8.ofNat key.val)
          pc := Layout.wrap (machine.pc + 2)
          awaitingKey := false } := by
  have waiting := settled.waiting awaiting
  have first := Keypad.firstDown_eq_some_iff.mpr ⟨down, lowest⟩
  obtain ⟨succeeded, target⟩ := settled.valid.cycle_key waiting.wait first
  refine ⟨succeeded, target.trans ?_⟩
  exact congrArg (fun fetched : Machine =>
    { fetched with
      registers := machine.registers.write (Word.x machine.nextWord) (UInt8.ofNat key.val)
      pc := Layout.wrap (machine.pc + 2)
      awaitingKey := false }) waiting.refetched

/-- No key is down at any cycle of a run. -/
def Idle (machine : Machine) (operations : List Operation) : Prop :=
  ∀ before after, operations = before ++ .cycle :: after →
    ∀ key, (machine.run before).keypad.holds key = false

theorem Idle.tail {operation : Operation} {rest : List Operation}
    (idle : machine.Idle (operation :: rest)) : (machine.perform operation).machine.Idle rest := by
  intro before after split
  exact idle (operation :: before) after (congrArg (List.cons operation) split)

theorem Settled.run_idle (settled : machine.Settled) (awaiting : machine.awaitingKey = true)
    {operations : List Operation}
    (plays : ∀ operation ∈ operations, operation.isPeripheral ∨ operation = .cycle)
    (idle : machine.Idle operations) :
    machine.run operations = machine.run (operations.filter (· ≠ .cycle)) := by
  induction operations generalizing machine with
  | nil => rfl
  | cons operation rest ih =>
    obtain ⟨first, later⟩ := List.forall_mem_cons.mp plays
    rcases first with peripheral | rfl
    · have kept : operation ≠ .cycle := by
        rintro rfl
        cases peripheral
      have still : (machine.perform operation).machine.awaitingKey = true :=
        (awaitingKey_peripheral peripheral).trans awaiting
      rw [List.filter_cons_of_pos (by simpa using kept), run_cons, run_cons]
      exact ih (settled.peripheral peripheral) still later idle.tail
    · have unchanged := (settled.cycle_eq awaiting (idle [] rest rfl)).2
      have rests : machine.Idle rest := unchanged ▸ idle.tail
      rw [List.filter_cons_of_neg (by simp), run_cons, perform, unchanged]
      exact ih settled awaiting later rests

/-! ### Runs from the power-on state -/

/-- Machines that have run no cycle since they were switched on or reset. -/
inductive Started : Machine → Prop
  | fresh (variant : Variant) (tracing : Bool) (random : RandomBytes) :
      Started (Machine.fresh variant tracing random)
  | reset {machine : Machine} (valid : machine.Valid) :
      Started (machine.perform .reset).machine
  | load {machine : Machine} (started : Started machine) (program : List UInt8) :
      Started (machine.perform (.load program)).machine
  | peripheral {machine : Machine} (started : Started machine) {operation : Operation}
      (peripheral : operation.isPeripheral) : Started (machine.perform operation).machine

theorem Started.valid (started : Started machine) : machine.Valid := by
  induction started with
  | fresh variant tracing random => exact valid_fresh variant tracing random
  | reset valid => exact valid.perform .reset
  | load started program ih => exact ih.perform (.load program)
  | peripheral started peripheral ih => exact ih.perform _

theorem Started.awaitingKey (started : Started machine) : machine.awaitingKey = false := by
  induction started with
  | fresh variant tracing random =>
    rw [fresh_eq]
    rfl
  | reset valid =>
    rw [valid.perform_reset]
    rfl
  | load started program ih =>
    rw [started.valid.perform_load]
    split <;> exact ih
  | peripheral started peripheral ih => exact (awaitingKey_peripheral peripheral).trans ih

theorem Started.settled (started : Started machine) : machine.Settled where
  valid := started.valid
  waiting := by
    intro awaiting
    rw [started.awaitingKey] at awaiting
    cases awaiting

/-- The machine that the most recent cycle of a run began with. -/
def LatestCycle (start : Machine) (operations : List Operation) (earlier : Machine) : Prop :=
  ∃ before after, operations = before ++ .cycle :: after ∧ .cycle ∉ after ∧
    earlier = start.run before

theorem exists_latestCycle {start : Machine} {operations : List Operation}
    (ran : .cycle ∈ operations) : ∃ earlier, LatestCycle start operations earlier := by
  -- The last cycle is the first one from the end.
  obtain ⟨after, before, reversed, none_after⟩ :=
    List.eq_append_cons_of_mem (List.mem_reverse.mpr ran)
  refine ⟨start.run before.reverse, before.reverse, after.reverse, ?_, ?_, rfl⟩
  · rw [List.reverse_eq_iff] at reversed
    simpa using reversed
  · simpa using none_after

theorem peripheral_of_no_cycle {operations : List Operation}
    (plays : ∀ operation ∈ operations, operation.isPeripheral ∨ operation = .cycle)
    (still : .cycle ∉ operations) : ∀ operation ∈ operations, operation.isPeripheral := by
  intro operation member
  rcases plays operation member with peripheral | rfl
  · exact peripheral
  · exact absurd member still

/-- Since the most recent cycle only peripheral operations have changed the machine. -/
theorem LatestCycle.run_eq {start earlier : Machine} {play : List Operation}
    (latest : LatestCycle start play earlier) (settled : start.Settled)
    (plays : ∀ operation ∈ play, operation.isPeripheral ∨ operation = .cycle) :
    earlier.Settled ∧ ∃ framebuffer keypad delay sound,
      start.run play = { earlier.cycle.machine with framebuffer, keypad, delay, sound } := by
  obtain ⟨before, after, rfl, none_after, rfl⟩ := latest
  rw [List.forall_mem_append, List.forall_mem_cons] at plays
  obtain ⟨earlier, -, later⟩ := plays
  refine ⟨settled.run earlier, ?_⟩
  rw [run_append, run_cons]
  exact run_peripheral (peripheral_of_no_cycle later none_after)

theorem Started.awaitingKey_iff {start : Machine} (started : Started start)
    {play : List Operation}
    (plays : ∀ operation ∈ play, operation.isPeripheral ∨ operation = .cycle) :
    (start.run play).awaitingKey = true ↔
      ∃ earlier, LatestCycle start play earlier ∧ earlier.WaitsInVain := by
  constructor
  · intro awaiting
    by_cases ran : .cycle ∈ play
    · obtain ⟨earlier, latest⟩ := @exists_latestCycle start play ran
      obtain ⟨settled, framebuffer, keypad, delay, sound, target⟩ :=
        latest.run_eq started.settled plays
      rw [target] at awaiting
      exact ⟨earlier, latest, settled.awaitingKey_cycle_iff.mp awaiting⟩
    · obtain ⟨framebuffer, keypad, delay, sound, target⟩ :=
        @run_peripheral start _ (peripheral_of_no_cycle plays ran)
      rw [target] at awaiting
      exact absurd (started.awaitingKey.symm.trans awaiting) Bool.false_ne_true
  · rintro ⟨earlier, latest, vain⟩
    obtain ⟨settled, framebuffer, keypad, delay, sound, target⟩ :=
      latest.run_eq started.settled plays
    rw [target]
    exact settled.awaitingKey_cycle_iff.mpr vain

/-- A machine that waits is still where its most recent cycle began. -/
theorem LatestCycle.same_word {start earlier : Machine} {play : List Operation}
    (latest : LatestCycle start play earlier) (settled : start.Settled)
    (plays : ∀ operation ∈ play, operation.isPeripheral ∨ operation = .cycle)
    (awaiting : (start.run play).awaitingKey = true) :
    (start.run play).pc = earlier.pc ∧ (start.run play).nextWord = earlier.nextWord := by
  obtain ⟨before, framebuffer, keypad, delay, sound, target⟩ := latest.run_eq settled plays
  rw [target] at awaiting ⊢
  have vain := before.awaitingKey_cycle_iff.mp awaiting
  rw [(before.valid.cycle_in_vain vain).2]
  exact ⟨rfl, rfl⟩

/-- In a run from the power-on state a machine awaits a key exactly if its most recent cycle
waited in vain. It then stays at the instruction that waits: cycles change nothing while no key
is down, and the first one with a key down takes the lowest and moves on. -/
theorem Started.key_wait {start : Machine} {play : List Operation} (started : Started start)
    (plays : ∀ operation ∈ play, operation.isPeripheral ∨ operation = .cycle) :
    let machine := start.run play
    (machine.awaitingKey = true ↔
      ∃ earlier, LatestCycle start play earlier ∧ earlier.WaitsInVain) ∧
    (machine.awaitingKey = true →
      machine.pc = machine.origin ∧ machine.nextWord = machine.word ∧
      IsKeyWait machine.nextWord ∧
      (∀ earlier, LatestCycle start play earlier →
        machine.pc = earlier.pc ∧ machine.nextWord = earlier.nextWord) ∧
      ((∀ key, machine.keypad.holds key = false) →
        machine.cycle.fault = none ∧ machine.cycle.machine = machine) ∧
      (∀ waits : List Operation,
        (∀ operation ∈ waits, operation.isPeripheral ∨ operation = .cycle) →
        machine.Idle waits → machine.run waits = machine.run (waits.filter (· ≠ .cycle))) ∧
      (∀ key, machine.keypad.holds key = true →
        (∀ lower < key, machine.keypad.holds lower = false) →
        machine.cycle.fault = none ∧
        machine.cycle.machine =
          { machine with
            registers :=
              machine.registers.write (Word.x machine.nextWord) (UInt8.ofNat key.val)
            pc := Layout.wrap (machine.pc + 2)
            awaitingKey := false })) := by
  intro machine
  have settled : machine.Settled := started.settled.run plays
  refine ⟨started.awaitingKey_iff plays, ?_⟩
  intro awaiting
  have waiting := settled.waiting awaiting
  refine ⟨waiting.origin.symm, waiting.word.symm, waiting.wait, ?_, ?_, ?_, ?_⟩
  · intro earlier latest
    exact latest.same_word started.settled plays awaiting
  · exact settled.cycle_eq awaiting
  · intro waits played idle
    exact settled.run_idle awaiting played idle
  · intro key down lowest
    exact settled.cycle_eq_of_key awaiting down lowest

/-- A machine with a program that waits for a key and puts it into `V3`. -/
def keyReader : Machine := (unpowered {} false {}).restarted.loaded [0xf3, 0x0a]

theorem started_keyReader : Started keyReader := by
  have started := Started.load (.fresh {} false {}) [0xf3, 0x0a]
  rw [(valid_fresh {} false {}).perform_load, if_pos (by decide), fresh_eq] at started
  exact started

def twoPresses : List Operation := [.cycle, .tick, .keys (.press 9), .keys (.press 7)]

theorem key_wait_keyReader :
    let machine := keyReader.run twoPresses
    machine.awaitingKey = true ∧ machine.cycle.fault = none ∧
      machine.cycle.machine =
        { machine with
          registers := machine.registers.write 3 7
          pc := 0x202
          awaitingKey := false } := by
  intro machine
  have plays : ∀ operation ∈ twoPresses, operation.isPeripheral ∨ operation = .cycle := by
    decide
  have latest : LatestCycle keyReader twoPresses keyReader :=
    ⟨[], _, rfl, by decide, (run_nil keyReader).symm⟩
  obtain ⟨word, keys⟩ :
      keyReader.nextWord = 0xf30a ∧ machine.keypad = Keypad.ofMask 0x280 := by
    decide +kernel
  have wait : keyReader.WaitsInVain := by
    rw [WaitsInVain, word, IsKeyWait]
    decide
  obtain ⟨awaits, waits⟩ := started_keyReader.key_wait plays
  have awaiting : machine.awaitingKey = true := awaits.mpr ⟨keyReader, latest, wait⟩
  obtain ⟨-, -, -, same, -, -, taken⟩ := waits awaiting
  obtain ⟨pc, again⟩ := same keyReader latest
  have lowest := taken 7 (by rw [keys]; decide) (by rw [keys]; decide)
  rw [again, word, pc] at lowest
  exact ⟨awaiting, lowest⟩

end Chip8.Machine
