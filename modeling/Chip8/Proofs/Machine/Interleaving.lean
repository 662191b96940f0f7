import Chip8.Proofs.Machine.Frame

/-! # Ticks among cycles

The timers tick sixty times a second, however many instructions run in between. An instruction
that neither reads nor sets a timer does before a tick what it does behind it. So while only such
instructions run, it matters how often the timers tick, and not when.
-/

namespace Chip8

/-- The words that read the delay timer or set one of the timers. -/
def Word.UsesTimers (word : Int) : Prop :=
  Picks 0xf 0x07 word ∨ Picks 0xf 0x15 word ∨ Picks 0xf 0x18 word

instance (word : Int) : Decidable (Word.UsesTimers word) := inferInstanceAs (Decidable (_ ∨ _))

namespace Machine

open Word (UsesTimers)

/-- What time brings to a machine. -/
inductive Beat where
  | cycle
  | tick
deriving DecidableEq, Repr

/-- A cycle that was run: the word that it fetched, and how it ended. -/
structure Ran where
  word : Int
  fault : Option Fault
deriving DecidableEq, Repr

/-- A machine and the cycles that it went through, the latest first. -/
structure Progress where
  machine : Machine
  cycles : List Ran := []

namespace Progress

/-- Whether a cycle has failed. -/
def failed (progress : Progress) : Bool := progress.cycles.any fun ran => ran.fault.isSome

/-- What a cycle leaves. -/
def cycled (progress : Progress) : Progress where
  machine := progress.machine.cycle.machine
  cycles := ⟨progress.machine.nextWord, progress.machine.cycle.fault⟩ :: progress.cycles

def ticked (progress : Progress) : Progress := { progress with machine := progress.machine.tick }

/-- What a beat leaves. A machine that stops runs no cycle behind one that failed. -/
def beat (stops : Bool) (progress : Progress) : Beat → Progress
  | .tick => progress.ticked
  | .cycle => if stops && progress.failed then progress else progress.cycled

/-- What beats leave that come one after another. -/
def run (stops : Bool) (progress : Progress) (beats : List Beat) : Progress :=
  beats.foldl (beat stops) progress

/-- No cycle so far had to do with the timers. -/
def Untimed (progress : Progress) : Prop := ∀ ran ∈ progress.cycles, ¬ UsesTimers ran.word

end Progress

variable {machine : Machine}

/-! ### One instruction and one tick -/

theorem effect_tick (machine : Machine) {instruction : Instruction}
    (untimed : ¬ UsesTimers instruction.encode) :
    machine.tick.effect instruction = (machine.effect instruction).tick := by
  cases instruction
  case readDelay x => exact absurd (.inl (Word.picks_ofByte 0xf x 0x07)) untimed
  case setDelay x => exact absurd (.inr (.inl (Word.picks_ofByte 0xf x 0x15))) untimed
  case setSound x => exact absurd (.inr (.inr (Word.picks_ofByte 0xf x 0x18))) untimed
  case ret => simp only [effect, tick]; split <;> rfl
  case call => simp only [effect, tick]; split <;> rfl
  case awaitKey => simp only [effect, keyAwaited, tick]; split <;> rfl
  all_goals rfl

theorem refusal_tick (machine : Machine) (instruction : Instruction) :
    machine.tick.refusal instruction = machine.refusal instruction := by
  cases instruction <;> rfl

/-- A cycle fails alike and leaves the same on both sides of a tick. -/
theorem Valid.cycle_tick (valid : machine.Valid) (untimed : ¬ UsesTimers machine.nextWord) :
    machine.tick.cycle.machine = machine.cycle.machine.tick ∧
      machine.tick.cycle.fault = machine.cycle.fault := by
  have word : machine.tick.nextWord = machine.nextWord := rfl
  cases decoded : Instruction.decode? machine.nextWord with
  | none =>
    rw [valid.cycle_undecoded decoded, valid.tick.cycle_undecoded (word ▸ decoded)]
    exact ⟨rfl, rfl⟩
  | some instruction =>
    rw [← decode?_nextWord_iff.mp decoded] at untimed
    rw [valid.cycle_decoded decoded, valid.tick.cycle_decoded (word ▸ decoded)]
    exact ⟨effect_tick machine.fetched untimed, refusal_tick machine.fetched instruction⟩

theorem Valid.timers_cycle (valid : machine.Valid) (untimed : ¬ UsesTimers machine.nextWord) :
    machine.cycle.machine.delay = machine.delay ∧ machine.cycle.machine.sound = machine.sound := by
  have frame := valid.confined_cycle
  constructor
  · by_contra changed
    exact untimed (.inr (.inl (frame.delay changed)))
  · by_contra changed
    exact untimed (.inr (.inr (frame.sound changed)))

/-- Both timers went down by a number of ticks, to zero at most. -/
structure Drained (ticks : Nat) (before after : Machine) : Prop where
  delay : after.delay = max 0 (before.delay - ticks)
  sound : after.sound = max 0 (before.sound - ticks)

namespace Drained

variable {before middle after : Machine} {ticks more : Nat}

theorem trans (early : Drained ticks before middle) (late : Drained more middle after) :
    Drained (ticks + more) before after where
  delay := by rw [late.delay, early.delay]; omega
  sound := by rw [late.sound, early.sound]; omega

theorem of_same (valid : before.Valid) (delay : after.delay = before.delay)
    (sound : after.sound = before.sound) : Drained 0 before after where
  delay := by rw [delay, Int.natCast_zero, Int.sub_zero, max_eq_right valid.delay.1]
  sound := by rw [sound, Int.natCast_zero, Int.sub_zero, max_eq_right valid.sound.1]

end Drained

theorem tickDown_eq {timer : Int} (least : 0 ≤ timer) : tickDown timer = max 0 (timer - 1) := by
  rw [tickDown]
  split <;> omega

theorem Valid.drained_tick (valid : machine.Valid) : Drained 1 machine machine.tick where
  delay := tickDown_eq valid.delay.1
  sound := tickDown_eq valid.sound.1

theorem Valid.drained_cycle (valid : machine.Valid) (untimed : ¬ UsesTimers machine.nextWord) :
    Drained 0 machine machine.cycle.machine := by
  obtain ⟨delay, sound⟩ := valid.timers_cycle untimed
  exact .of_same valid delay sound

/-! ### Beats in any order -/

namespace Progress

variable {progress : Progress} {stops : Bool} {first second : List Beat}

theorem valid_beat (valid : progress.machine.Valid) (stops : Bool) (beat : Beat) :
    (progress.beat stops beat).machine.Valid := by
  cases beat with
  | tick => exact valid.tick
  | cycle =>
    rw [Progress.beat]
    split
    · exact valid
    · exact valid.cycle

/-- The cycles that were run stay on record. -/
theorem suffix_beat (progress : Progress) (stops : Bool) (beat : Beat) :
    progress.cycles <:+ (progress.beat stops beat).cycles := by
  cases beat with
  | tick => exact List.suffix_rfl
  | cycle =>
    rw [Progress.beat]
    split
    · exact List.suffix_rfl
    · exact List.suffix_cons _ _

theorem suffix_run (progress : Progress) (stops : Bool) (beats : List Beat) :
    progress.cycles <:+ (progress.run stops beats).cycles := by
  induction beats generalizing progress with
  | nil => exact List.suffix_rfl
  | cons beat rest ih => exact (progress.suffix_beat stops beat).trans (ih _)

/-- What holds of the cycles of a whole run holds of those up to any point. -/
theorem Untimed.before (beats : List Beat) (untimed : (progress.run stops beats).Untimed) :
    progress.Untimed :=
  fun ran member => untimed ran ((progress.suffix_run stops beats).mem member)

theorem ticked_cycled (valid : progress.machine.Valid)
    (untimed : ¬ UsesTimers progress.machine.nextWord) :
    progress.ticked.cycled = progress.cycled.ticked := by
  obtain ⟨machine, fault⟩ := valid.cycle_tick untimed
  simp only [cycled, ticked, machine, fault]
  rfl

/-- A cycle and a tick may change places. -/
theorem beat_comm (valid : progress.machine.Valid)
    (untimed : ((progress.beat stops .tick).beat stops .cycle).Untimed ∨
      ((progress.beat stops .cycle).beat stops .tick).Untimed) :
    (progress.beat stops .tick).beat stops .cycle =
      (progress.beat stops .cycle).beat stops .tick := by
  have record : progress.ticked.failed = progress.failed := rfl
  simp only [beat, record] at untimed ⊢
  split at untimed
  · next stopped => rw [if_pos stopped, if_pos stopped]
  · next runs =>
    rw [if_neg runs, if_neg runs]
    apply ticked_cycled valid
    rcases untimed with untimed | untimed <;> exact untimed _ List.mem_cons_self

/-- The order of beats does not matter where no cycle has to do with the timers. -/
theorem run_perm (same : first.Perm second) (valid : progress.machine.Valid)
    (untimed : (progress.run stops first).Untimed) :
    progress.run stops first = progress.run stops second := by
  induction same generalizing progress with
  | nil => rfl
  | cons beat same ih => exact ih (valid_beat valid stops beat) untimed
  | swap left right rest =>
    -- What is not timed in the end is not timed behind the first two beats.
    have early : ((progress.beat stops right).beat stops left).Untimed :=
      Untimed.before rest untimed
    have swapped : (progress.beat stops right).beat stops left =
        (progress.beat stops left).beat stops right := by
      cases left <;> cases right
      case cycle.tick => exact beat_comm valid (.inl early)
      case tick.cycle => exact (beat_comm valid (.inr early)).symm
      all_goals rfl
    exact congrArg (·.run stops rest) swapped
  | trans same later early rest =>
    have middle := early valid untimed
    rw [middle] at untimed ⊢
    exact rest valid untimed

theorem drained_beat (valid : progress.machine.Valid) {beat : Beat}
    (untimed : (progress.beat stops beat).Untimed) :
    Drained ([beat].count .tick) progress.machine (progress.beat stops beat).machine := by
  cases beat with
  | tick => exact valid.drained_tick
  | cycle =>
    rw [Progress.beat] at untimed ⊢
    split at untimed
    · next stopped =>
      rw [if_pos stopped]
      exact .of_same valid rfl rfl
    · next runs =>
      rw [if_neg runs]
      exact valid.drained_cycle (untimed _ List.mem_cons_self)

/-- The timers count the ticks among the beats. -/
theorem drained_run (valid : progress.machine.Valid) {beats : List Beat}
    (untimed : (progress.run stops beats).Untimed) :
    Drained (beats.count .tick) progress.machine (progress.run stops beats).machine := by
  induction beats generalizing progress with
  | nil => exact .of_same valid rfl rfl
  | cons beat rest ih =>
    have first := drained_beat valid (Untimed.before rest untimed)
    have whole : (beat :: rest).count .tick = [beat].count .tick + rest.count .tick := by
      rw [← List.count_append, List.singleton_append]
    rw [whole]
    exact first.trans (ih (valid_beat valid stops beat) untimed)

end Progress

/-- Cycles and ticks in two orders, as many of each in one as in the other: if no word that is
fetched has to do with the timers, the same words are fetched and their cycles end alike, and the
same machine is left, its timers down by the number of ticks. That is so whether or not cycles go
on behind one that failed. -/
theorem ticks_commute (valid : machine.Valid) (stops : Bool) {first second : List Beat}
    (cycles : first.count .cycle = second.count .cycle)
    (ticks : first.count .tick = second.count .tick)
    (untimed : ∀ ran ∈ (Progress.run stops { machine } first).cycles, ¬ UsesTimers ran.word) :
    Progress.run stops { machine } first = Progress.run stops { machine } second ∧
      (Progress.run stops { machine } first).machine.delay =
        max 0 (machine.delay - first.count .tick) ∧
      (Progress.run stops { machine } first).machine.sound =
        max 0 (machine.sound - first.count .tick) := by
  have same : first.Perm second := by
    rw [List.perm_iff_count]
    intro beat
    cases beat with
    | cycle => exact cycles
    | tick => exact ticks
  have drained : Drained (first.count .tick) machine
      (Progress.run stops { machine } first).machine := Progress.drained_run valid untimed
  exact ⟨Progress.run_perm same valid untimed, drained.delay, drained.sound⟩

/-- A machine that adds to a register and then fails, with both timers running. -/
def soundingAdder : Machine :=
  { unpowered {} false {} with
    memory := (Memory.zeros Layout.memorySize).place 0 [0x73, 0x05]
    delay := 1
    sound := 9 }

theorem valid_soundingAdder : soundingAdder.Valid :=
  { valid_unpowered {} false {} with
    memory := by rw [soundingAdder, Memory.size_place, Memory.size_zeros]; rfl
    delay := by decide
    sound := by decide }

theorem ticks_commute_soundingAdder :
    let first : List Beat := [.cycle, .tick, .cycle, .cycle, .tick, .tick]
    let second : List Beat := [.tick, .tick, .cycle, .tick, .cycle, .cycle]
    let left := Progress.run true { machine := soundingAdder } first
    soundingAdder.Valid ∧ left.cycles = [⟨0x0000, some .unsupported⟩, ⟨0x7305, none⟩] ∧
      left = Progress.run true { machine := soundingAdder } second ∧
      left.machine.delay = 0 ∧ left.machine.sound = 6 := by
  intro first second left
  have ran : left.cycles = [⟨0x0000, some .unsupported⟩, ⟨0x7305, none⟩] := by decide +kernel
  have untimed : ∀ ran ∈ left.cycles, ¬ UsesTimers ran.word := by
    rw [ran]
    decide
  exact ⟨valid_soundingAdder, ran,
    @ticks_commute _ valid_soundingAdder true first second rfl rfl untimed⟩

end Machine

end Chip8
