import Chip8.Proofs.Machine.Frame

/-! # The font in memory

The font lies in memory that programs may store into. It stays whole as long as the bytes that
they store miss it, and a reset or a program that is loaded makes it whole again. While it is
whole, the index that a digit is looked up with is the address of the digit's glyph.
-/

namespace Chip8

namespace Layout

/-- Whether a glyph covers an address. -/
def InFont (address : Int) : Prop := fontStart ≤ address ∧ address < fontStart + font.length

instance (address : Int) : Decidable (InFont address) := inferInstanceAs (Decidable (_ ∧ _))

/-- The rows of a digit. -/
def glyph (digit : Nat) : List UInt8 := (font.drop (glyphSize * digit)).take glyphSize

theorem wrap_fontStart_add {offset : Nat} (inside : offset < font.length) :
    wrap (fontStart + offset) = fontStart + offset := by
  rw [length_font, keyCount, glyphSize] at inside
  rw [wrap, fontStart]
  omega

end Layout

/-- The number of bytes that a word stores, from the index on. -/
def Word.storeCount (word : Int) : Nat :=
  if Picks 0xf 0x33 word then 3
  else if Picks 0xf 0x55 word then (x word).val + 1
  else 0

/-- The font is in its place. -/
def Memory.HoldsFont (memory : Memory) : Prop :=
  memory.span Layout.fontStart Layout.font.length = Layout.font

namespace Memory

variable {memory : Memory}

theorem HoldsFont.span_glyph (holds : memory.HoldsFont) {digit : Nat} (known : digit < 16) :
    memory.span (Layout.fontStart + Layout.glyphSize * digit) Layout.glyphSize =
      Layout.glyph digit := by
  have room : Layout.glyphSize ≤ Layout.font.length - Layout.glyphSize * digit := by
    rw [Layout.length_font, Layout.keyCount, Layout.glyphSize]
    omega
  rw [Layout.glyph, ← holds, drop_span, take_span memory _ room]
  rfl

/-- The font is in its place if each of its bytes is. -/
theorem holdsFont_iff :
    memory.HoldsFont ↔ ∀ offset (inside : offset < Layout.font.length),
      memory.byteAt (Layout.fontStart + offset) = Layout.font[offset] := by
  constructor
  · intro holds offset inside
    have spanned : offset < (memory.span Layout.fontStart Layout.font.length).length := by
      rwa [length_span]
    rw [← Layout.wrap_fontStart_add inside, ← getElem_span memory _ spanned]
    exact List.getElem_of_eq holds spanned
  · intro same
    apply List.ext_getElem (length_span _ _ _)
    intro offset _ inside
    rw [getElem_span, Layout.wrap_fontStart_add inside, same offset inside]

theorem HoldsFont.of_same {other : Memory} (holds : memory.HoldsFont)
    (same : ∀ location, Layout.InFont location → other.byteAt location = memory.byteAt location) :
    other.HoldsFont := by
  rw [holdsFont_iff] at holds ⊢
  intro offset inside
  rw [← holds offset inside]
  apply same
  rw [Layout.InFont]
  omega

/-- Bytes that are stored outside the font leave it whole. -/
theorem HoldsFont.store (holds : memory.HoldsFont) (whole : memory.size = 0x1000) {address : Int}
    {bytes : List UInt8}
    (misses : ∀ offset < bytes.length, ¬ Layout.InFont (Layout.wrap (address + offset))) :
    (memory.store address bytes).HoldsFont := by
  apply holds.of_same
  intro location covered
  have known : 0 ≤ location := Int.le_trans (by decide) covered.1
  apply byteAt_store_of_outside whole known
  rintro offset inside rfl
  exact misses offset inside covered

theorem holdsFont_place (whole : memory.size = 0x1000) :
    (memory.place Layout.fontStart Layout.font).HoldsFont := by
  have most : Layout.fontStart + Layout.font.length ≤ memory.size := by
    rw [whole]
    decide
  exact holdsFont_iff.mpr fun offset inside => byteAt_place_inside (by decide) most inside

/-- Programs lie behind the font. -/
theorem HoldsFont.place (holds : memory.HoldsFont) {program : List UInt8}
    (most : Layout.programStart + program.length ≤ memory.size) :
    (memory.place Layout.programStart program).HoldsFont := by
  apply holds.of_same
  rintro location ⟨least, below⟩
  have before : Layout.fontStart + Layout.font.length ≤ Layout.programStart := by decide
  have known : 0 ≤ location := Int.le_trans (by decide) least
  exact byteAt_place_of_outside (by decide) most known (.inl (Int.lt_of_lt_of_le below before))

end Memory

namespace Machine

open Word (Picks)

variable {machine : Machine}

/-! ### What is stored -/

/-- The bytes that an instruction stores, from the index on. -/
def stored (machine : Machine) : Instruction → List UInt8
  | .storeDecimal x => decimalDigits (machine.registers.get x)
  | .storeRegisters x => (registersTo x).map machine.registers.get
  | _ => []

theorem memory_effect (machine : Machine) (instruction : Instruction) :
    (machine.effect instruction).memory =
      machine.memory.store machine.index (machine.stored instruction) := by
  cases instruction
  case ret => rw [effect]; split <;> rfl
  case call => rw [effect]; split <;> rfl
  case awaitKey => rw [effect, keyAwaited]; split <;> rfl
  all_goals rfl

theorem length_stored (machine : Machine) (instruction : Instruction) :
    (machine.stored instruction).length ≤ Word.storeCount instruction.encode := by
  cases instruction
  case storeDecimal x =>
    have picked : Picks 0xf 0x33 (Word.ofByte 0xf x 0x33) := Word.picks_ofByte 0xf x 0x33
    rw [Instruction.encode, Word.storeCount, if_pos picked]
    exact Nat.le_refl 3
  case storeRegisters x =>
    have picked : Picks 0xf 0x55 (Word.ofByte 0xf x 0x55) := Word.picks_ofByte 0xf x 0x55
    have other : ¬ Picks 0xf 0x33 (Word.ofByte 0xf x 0x55) := by simp [Picks]
    rw [Instruction.encode, Word.storeCount, if_neg other, if_pos picked, Word.x_ofByte]
    simp [stored, registersTo]
  all_goals exact Nat.zero_le _

/-- A cycle stores bytes from the index on, and no more than its word stores. -/
theorem Valid.memory_cycle (valid : machine.Valid) :
    ∃ bytes, bytes.length ≤ Word.storeCount machine.nextWord ∧
      machine.cycle.machine.memory = machine.memory.store machine.index bytes := by
  cases decoded : Instruction.decode? machine.nextWord with
  | none =>
    refine ⟨[], Nat.zero_le _, ?_⟩
    rw [valid.cycle_undecoded decoded]
    rfl
  | some instruction =>
    refine ⟨machine.fetched.stored instruction, ?_, ?_⟩
    · rw [← decode?_nextWord_iff.mp decoded]
      exact length_stored _ _
    · rw [valid.cycle_decoded decoded]
      exact memory_effect machine.fetched instruction

/-- The next cycle stores a byte where the font lies. -/
def StoresIntoFont (machine : Machine) : Prop :=
  ∃ offset < Word.storeCount machine.nextWord,
    Layout.InFont (Layout.wrap (machine.index + offset))

instance (machine : Machine) : Decidable machine.StoresIntoFont :=
  inferInstanceAs (Decidable (∃ offset, offset < _ ∧ _))

theorem Valid.holdsFont_cycle (valid : machine.Valid) (holds : machine.memory.HoldsFont)
    (misses : ¬ machine.StoresIntoFont) : machine.cycle.machine.memory.HoldsFont := by
  obtain ⟨bytes, few, left⟩ := valid.memory_cycle
  rw [left]
  apply holds.store valid.memory
  intro offset inside covered
  exact misses ⟨offset, Nat.lt_of_lt_of_le inside few, covered⟩

/-! ### What puts the font into its place -/

/-- An operation puts the font into its place: it is a reset or loads a program, and succeeds. -/
def Installs (machine : Machine) (operation : Operation) : Prop :=
  (operation = .reset ∨ ∃ program, operation = .load program) ∧
    (machine.perform operation).fault = none

theorem Valid.holdsFont_restarted (valid : machine.Valid) : machine.restarted.memory.HoldsFont :=
  Memory.holdsFont_place ((Memory.size_clear _).trans valid.memory)

theorem Valid.holdsFont_loaded (valid : machine.Valid) {program : List UInt8}
    (short : program.length ≤ 0xe00) : (machine.loaded program).memory.HoldsFont := by
  apply (Memory.holdsFont_place valid.memory).place
  rw [Memory.size_place, valid.memory, Layout.programStart]
  omega

theorem Valid.holdsFont_installed (valid : machine.Valid) {operation : Operation}
    (installs : machine.Installs operation) :
    (machine.perform operation).machine.memory.HoldsFont := by
  obtain ⟨rfl | ⟨program, rfl⟩, succeeded⟩ := installs
  · rw [valid.perform_reset]
    exact valid.holdsFont_restarted
  · rw [valid.perform_load] at succeeded ⊢
    split at succeeded
    · next short =>
      rw [if_pos short]
      exact valid.holdsFont_loaded short
    · cases succeeded

/-- An operation keeps the font in its place unless it is a cycle that stores there. -/
theorem Valid.holdsFont_perform (valid : machine.Valid) (holds : machine.memory.HoldsFont)
    {operation : Operation} (misses : operation = .cycle → ¬ machine.StoresIntoFont) :
    (machine.perform operation).machine.memory.HoldsFont := by
  cases operation with
  | cycle => exact valid.holdsFont_cycle holds (misses rfl)
  | reset =>
    rw [valid.perform_reset]
    exact valid.holdsFont_restarted
  | load program =>
    rw [valid.perform_load]
    split
    · next short => exact valid.holdsFont_loaded short
    · exact holds
  | tick | keys | present => exact holds

/-! ### Runs -/

/-- Each cycle that stores where the font lies is followed by an operation that puts the font
into its place. So none has stored there since the last such operation. -/
def FontSpared (machine : Machine) (operations : List Operation) : Prop :=
  ∀ step, operations[step]? = some .cycle →
    (machine.run (operations.take step)).StoresIntoFont →
    ∃ later operation, step < later ∧ operations[later]? = some operation ∧
      (machine.run (operations.take later)).Installs operation

/-- The font is whole at the end of a run if it was whole at the start, or put into its place on
the way, and spared behind that. -/
theorem Valid.holdsFont_run (valid : machine.Valid) {operations : List Operation}
    (source : machine.memory.HoldsFont ∨
      ∃ step operation, operations[step]? = some operation ∧
        (machine.run (operations.take step)).Installs operation)
    (spared : machine.FontSpared operations) : (machine.run operations).memory.HoldsFont := by
  induction operations generalizing machine with
  | nil =>
    rcases source with holds | ⟨step, operation, found, -⟩
    · exact holds
    · cases found
  | cons operation rest ih =>
    refine ih (valid.perform operation) ?_ ?_
    · rcases source with holds | ⟨_ | step, other, found, installs⟩
      · by_cases stores : operation = .cycle ∧ machine.StoresIntoFont
        · obtain ⟨_ | later, other, behind, found, installs⟩ :=
            spared 0 (congrArg some stores.1) stores.2
          · cases behind
          · exact .inr ⟨later, other, found, installs⟩
        · exact .inl (valid.holdsFont_perform holds fun cycles into => stores ⟨cycles, into⟩)
      · cases found
        exact .inl (valid.holdsFont_installed installs)
      · exact .inr ⟨step, other, found, installs⟩
    · intro step cycles stores
      obtain ⟨_ | later, other, behind, found, installs⟩ := spared (step + 1) cycles stores
      · cases behind
      · exact ⟨later, other, Nat.lt_of_succ_lt_succ behind, found, installs⟩

theorem holdsFont_fresh (variant : Variant) (tracing : Bool) (random : RandomBytes) :
    (fresh variant tracing random).memory.HoldsFont := by
  rw [fresh_eq]
  exact (valid_unpowered variant tracing random).holdsFont_restarted

/-! ### Looking up digits -/

/-- The index is the address of a digit's glyph. -/
def PointsAtGlyph (machine : Machine) (digit : Nat) : Prop :=
  machine.memory.span machine.index Layout.glyphSize = Layout.glyph digit

theorem pointsAtGlyph_effect (holds : machine.memory.HoldsFont) (x : Register) :
    (machine.effect (.loadGlyph x)).PointsAtGlyph ((machine.registers.get x).toNat % 16) :=
  holds.span_glyph (Nat.mod_lt _ (by decide))

/-- In a run of a machine that was just switched on, the font is whole if no cycle stored a byte
into it since it was last put into its place. Then the index that any register is looked up with
is the address of the glyph of its lower digit. -/
theorem font_intact (variant : Variant) (tracing : Bool) (random : RandomBytes)
    {operations : List Operation}
    (spared : (fresh variant tracing random).FontSpared operations) :
    let machine := (fresh variant tracing random).run operations
    machine.memory.span 0x50 80 = Layout.font ∧
      ∀ x, let digit := (machine.registers.get x).toNat % 16
        (∃ after, execute (.loadGlyph x) machine = .ok () after ∧
          after = { machine with index := after.index } ∧ after.PointsAtGlyph digit) ∧
        (machine.nextWord = Instruction.encode (.loadGlyph x) →
          machine.cycle.fault = none ∧ machine.cycle.machine.PointsAtGlyph digit) := by
  intro machine
  have validFresh := valid_fresh variant tracing random
  have valid : machine.Valid := validFresh.run operations
  have holds : machine.memory.HoldsFont :=
    validFresh.holdsFont_run (.inl (holdsFont_fresh variant tracing random)) spared
  refine ⟨holds, fun x => ⟨?_, fun word => ?_⟩⟩
  · exact ⟨_, valid.execute_eq rfl, rfl, pointsAtGlyph_effect holds x⟩
  · rw [valid.cycle_decoded (decode?_nextWord_iff.mpr word.symm)]
    exact ⟨rfl, @pointsAtGlyph_effect machine.fetched holds x⟩

/-- A program stores into the font, and another one that is loaded behind it stores at the end of
memory and around it, and is about to look up a digit. -/
def edgeStoring : List Operation :=
  [.load [0x61, 0x2b, 0xa0, 0x50, 0xf1, 0x55], .cycle, .cycle, .cycle,
    .load [0, 0, 0, 0, 0, 0, 0xaf, 0xff, 0xf1, 0x55, 0xf1, 0x29], .cycle, .cycle]

theorem edgeStoring_facts :
    (∀ step ∈ [5, 6], ¬ ((fresh {} false {}).run (edgeStoring.take step)).StoresIntoFont) ∧
      ((fresh {} false {}).run (edgeStoring.take 4)).memory.byteAt 0x51 = 0x2b ∧
      ((fresh {} false {}).run edgeStoring).nextWord = Instruction.encode (.loadGlyph 1) ∧
      (((fresh {} false {}).run edgeStoring).registers.get 1).toNat % 16 = 0xb := by
  decide +kernel

theorem fontSpared_edgeStoring : (fresh {} false {}).FontSpared edgeStoring := by
  intro step cycles stores
  have known : ∀ step < 7, edgeStoring[step]? = some .cycle → step < 4 ∨ step ∈ [5, 6] := by
    decide
  have inside : step < 7 := (List.getElem?_eq_some_iff.mp cycles).1
  have early := (known step inside cycles).resolve_right fun late =>
    edgeStoring_facts.1 step late stores
  refine ⟨4, _, early, rfl, .inr ⟨_, rfl⟩, ?_⟩
  rw [((valid_fresh {} false {}).run _).perform_load]
  rfl

theorem font_intact_edgeStoring :
    (fresh {} false {}).FontSpared edgeStoring ∧
      ((fresh {} false {}).run (edgeStoring.take 4)).memory.byteAt 0x51 = 0x2b ∧
      ((fresh {} false {}).run edgeStoring).memory.span 0x50 80 = Layout.font ∧
      let after := ((fresh {} false {}).run edgeStoring).cycle.machine
      after.memory.span after.index 5 = [0xe0, 0x90, 0xe0, 0x90, 0xe0] := by
  obtain ⟨-, broken, word, digit⟩ := edgeStoring_facts
  obtain ⟨whole, found⟩ := font_intact {} false {} fontSpared_edgeStoring
  have points := ((found 1).2 word).2
  rw [digit] at points
  exact ⟨fontSpared_edgeStoring, broken, whole, points⟩

end Machine

end Chip8
