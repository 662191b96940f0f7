import Chip8.Proofs.Machine.Failures
import Chip8.Proofs.Machine.Twins
import Chip8.Proofs.Text.Hex

/-! # What a dump tells

On a valid machine each number of a dump has the width of its field. So a full dump tells the
registers, the index, the timers, the address and the word of the instruction, its text and the
call stack, and a crash report tells all of them as well.
-/

namespace Chip8.Machine

variable {first second machine : Machine}

/-- Machines that are alike in all that a dump shows. -/
structure SameDumped (first second : Machine) : Prop where
  registers : first.registers = second.registers
  index : first.index = second.index
  delay : first.delay = second.delay
  sound : first.sound = second.sound
  origin : first.origin = second.origin
  word : first.word = second.word

/-- Machines that are alike in all that a full dump shows. -/
structure SameReported (first second : Machine) : Prop extends SameDumped first second where
  stack : first.stack = second.stack

/-! ### Fields -/

/-- A number of a field and what stands behind it. -/
theorem padded_inj {number other most : Int} {width : Nat} {rest behind : List Char}
    (bounds : 0 ≤ number ∧ number ≤ most) (others : 0 ≤ other ∧ other ≤ most)
    (same : (Hex.padded width number).toList ++ rest = (Hex.padded width other).toList ++ behind)
    (positive : 0 < width) (room : most < ((16 ^ width : Nat) : Int)) :
    number = other ∧ rest = behind := by
  obtain ⟨number, rfl⟩ := Int.eq_ofNat_of_zero_le bounds.1
  obtain ⟨other, rfl⟩ := Int.eq_ofNat_of_zero_le others.1
  rw [Hex.toList_padded bounds.1, Hex.toList_padded others.1, Int.natAbs_natCast,
    Int.natAbs_natCast] at same
  have wide : (Hex.filled width number).length = width :=
    Hex.length_filled positive (by exact_mod_cast bounds.2.trans_lt room)
  have wideToo : (Hex.filled width other).length = width :=
    Hex.length_filled positive (by exact_mod_cast others.2.trans_lt room)
  obtain ⟨numbers, rests⟩ := List.append_inj same (wide.trans wideToo.symm)
  exact ⟨congrArg Nat.cast (Hex.filled_injective numbers), rests⟩

theorem registersText_inj {first second : Registers} {rest other : List Char}
    (same : (registersText first).toList ++ rest = (registersText second).toList ++ other) :
    first = second ∧ rest = other := by
  have wide : ∀ byte : UInt8, (Hex.filled 2 byte.toNat).length = 2 :=
    fun byte => Hex.length_filled (by decide) byte.toNat_lt
  have long : ∀ registers : Registers, (registersText registers).toList.length = 32 := by
    intro registers
    rw [registersText, Hex.ofBytes, String.toList_ofList,
      length_flatMap_field fun byte _ => wide byte, List.length_reverse, Vector.length_toList]
  obtain ⟨texts, rests⟩ := List.append_inj same ((long first).trans (long second).symm)
  rw [registersText, registersText, Hex.ofBytes, Hex.ofBytes, String.toList_ofList,
    String.toList_ofList] at texts
  have bytes := eq_of_flatMap_eq (by decide) (fun byte _ => wide byte) (fun byte _ => wide byte)
    (fun byte _ other _ same => UInt8.toNat_inj.mp (Hex.filled_injective same)) texts
  exact ⟨Vector.toList_inj.mp (List.reverse_injective bytes), rests⟩

/-- A line ends at its first line break. -/
theorem line_inj {line other rest behind : List Char} (whole : '\n' ∉ line) (wholeToo : '\n' ∉ other)
    (same : line ++ '\n' :: rest = other ++ '\n' :: behind) : line = other ∧ rest = behind := by
  induction line generalizing other with
  | nil =>
    cases other with
    | nil => exact ⟨rfl, (List.cons.inj same).2⟩
    | cons c more => exact absurd ((List.cons.inj same).1 ▸ List.mem_cons_self) wholeToo
  | cons c more ih =>
    cases other with
    | nil => exact absurd ((List.cons.inj same).1 ▸ List.mem_cons_self) whole
    | cons d last =>
      obtain ⟨rfl, tails⟩ := List.cons.inj same
      obtain ⟨rfl, rests⟩ := ih (List.not_mem_of_not_mem_cons whole)
        (List.not_mem_of_not_mem_cons wholeToo) tails
      exact ⟨rfl, rests⟩

/-! ### Dumps -/

theorem dump_eq (machine : Machine) (text : String) :
    machine.dump text =
      "V: 0x" ++ registersText machine.registers ++
        " I: 0x" ++ Hex.padded 3 machine.index ++
        " DT: 0x" ++ Hex.padded 2 machine.delay ++
        " ST: 0x" ++ Hex.padded 2 machine.sound ++
        " PC: 0x" ++ Hex.padded 3 machine.origin ++
        " OP: 0x" ++ Hex.padded 4 machine.word ++
        " IN: " ++ text := rfl

/-- A dump tells all that it shows, and its text with what stands behind it. -/
theorem dump_inj (validFirst : first.Valid) (validSecond : second.Valid) {text more : String}
    {rest behind : List Char}
    (same : (first.dump text).toList ++ rest = (second.dump more).toList ++ behind) :
    SameDumped first second ∧ text.toList ++ rest = more.toList ++ behind := by
  simp only [dump_eq, String.toList_append, List.append_assoc] at same
  obtain ⟨registers, same⟩ := registersText_inj (List.append_cancel_left same)
  obtain ⟨index, same⟩ := padded_inj validFirst.index validSecond.index
    (List.append_cancel_left same) (by decide) (by decide)
  obtain ⟨delay, same⟩ := padded_inj validFirst.delay validSecond.delay
    (List.append_cancel_left same) (by decide) (by decide)
  obtain ⟨sound, same⟩ := padded_inj validFirst.sound validSecond.sound
    (List.append_cancel_left same) (by decide) (by decide)
  obtain ⟨origin, same⟩ := padded_inj validFirst.origin validSecond.origin
    (List.append_cancel_left same) (by decide) (by decide)
  obtain ⟨word, same⟩ := padded_inj validFirst.word validSecond.word
    (List.append_cancel_left same) (by decide) (by decide)
  exact ⟨⟨registers, index, delay, sound, origin, word⟩, List.append_cancel_left same⟩

/-! ### Call stacks -/

/-- The characters of an entry of the stack. -/
def entryField (entry : Int) : List Char := " 0x".toList ++ (Hex.padded 3 entry).toList

theorem toList_stackText {stack : CallStack} (some : stack.entries ≠ []) :
    (stackText stack).toList = stack.fromOutermost.flatMap entryField := by
  rw [stackText, if_neg some, String.toList_join, List.flatMap_map]
  simp only [String.toList_append]
  rfl

theorem Valid.fromOutermost (valid : machine.Valid) :
    ∀ entry ∈ machine.stack.fromOutermost, 0 ≤ entry ∧ entry ≤ 0xfff :=
  fun entry member => valid.entries entry (List.mem_reverse.mp member)

theorem Valid.length_entryField (valid : machine.Valid) :
    ∀ entry ∈ machine.stack.fromOutermost, (entryField entry).length = 6 := by
  intro entry member
  obtain ⟨least, most⟩ := valid.fromOutermost entry member
  obtain ⟨number, rfl⟩ := Int.eq_ofNat_of_zero_le least
  have wide : (Hex.filled 3 number).length = 3 := Hex.length_filled (by decide) (by omega)
  rw [entryField, Hex.toList_padded least, List.length_append, Int.natAbs_natCast, wide]
  rfl

theorem entryField_inj {entry other : Int} (bounds : 0 ≤ entry ∧ entry ≤ 0xfff)
    (others : 0 ≤ other ∧ other ≤ 0xfff) (same : entryField entry = entryField other) :
    entry = other := by
  rw [entryField, entryField] at same
  have numbers := congrArg (· ++ []) (List.append_cancel_left same)
  exact (padded_inj bounds others numbers (by decide) (by decide)).1

/-- The marker of an empty stack is as long as no entries are. -/
theorem Valid.stackText_ne_empty (valid : machine.Valid) (some : machine.stack.entries ≠ []) :
    stackText machine.stack ≠ " (Empty)" := by
  intro same
  have lengths := length_flatMap_field valid.length_entryField
  rw [← toList_stackText some, same] at lengths
  change 8 = _ at lengths
  omega

theorem stackText_inj (validFirst : first.Valid) (validSecond : second.Valid)
    (same : stackText first.stack = stackText second.stack) : first.stack = second.stack := by
  have capacity := validFirst.capacity.trans validSecond.capacity.symm
  suffices entries : first.stack.entries = second.stack.entries from
    calc first.stack
      _ = ⟨first.stack.entries, first.stack.capacity⟩ := rfl
      _ = ⟨second.stack.entries, second.stack.capacity⟩ := by rw [entries, capacity]
  by_cases empty : first.stack.entries = []
  · by_cases emptyToo : second.stack.entries = []
    · rw [empty, emptyToo]
    · rw [stackText, if_pos empty] at same
      exact absurd same.symm (validSecond.stackText_ne_empty emptyToo)
  · by_cases emptyToo : second.stack.entries = []
    · rw [stackText.eq_def second.stack, if_pos emptyToo] at same
      exact absurd same (validFirst.stackText_ne_empty empty)
    · have fields := congrArg String.toList same
      rw [toList_stackText empty, toList_stackText emptyToo] at fields
      have outermost := eq_of_flatMap_eq (by decide) validFirst.length_entryField
        validSecond.length_entryField
        (fun entry member other memberToo => entryField_inj
          (validFirst.fromOutermost entry member) (validSecond.fromOutermost other memberToo))
        fields
      exact List.reverse_injective outermost

/-- The stack stands on one line. -/
theorem Valid.newline_notMem_stackText (valid : machine.Valid) :
    '\n' ∉ (stackText machine.stack).toList := by
  by_cases empty : machine.stack.entries = []
  · rw [stackText, if_pos empty]
    decide
  · rw [toList_stackText empty, List.mem_flatMap]
    rintro ⟨entry, member, breaks⟩
    rw [entryField, Hex.toList_padded (valid.fromOutermost entry member).1, List.mem_append] at breaks
    rcases breaks with label | number
    · exact absurd label (by decide)
    · exact absurd (Hex.isSome_value?_of_mem number) (by decide)

/-! ### Full dumps and crash reports -/

theorem fullDump_eq (machine : Machine) (text : String) :
    machine.fullDump text = machine.dump text ++ "\nStack:" ++ stackText machine.stack := rfl

/-- The text of an instruction ends where the line of the stack begins. -/
theorem fullDump_inj (validFirst : first.Valid) (validSecond : second.Valid) {text more : String}
    {rest behind : List Char} (whole : '\n' ∉ text.toList) (wholeToo : '\n' ∉ more.toList)
    (same : (first.fullDump text).toList ++ rest = (second.fullDump more).toList ++ behind) :
    SameDumped first second ∧ text = more ∧
      (stackText first.stack).toList ++ rest = (stackText second.stack).toList ++ behind := by
  have label : "\nStack:".toList = '\n' :: "Stack:".toList := rfl
  simp only [fullDump_eq, String.toList_append, List.append_assoc] at same
  obtain ⟨dumped, same⟩ := dump_inj validFirst validSecond same
  rw [label, List.cons_append, List.cons_append] at same
  obtain ⟨texts, same⟩ := line_inj whole wholeToo same
  exact ⟨dumped, String.toList_injective texts, List.append_cancel_left same⟩

theorem crashReport_eq (machine : Machine) (reason : String) :
    machine.crashReport reason =
      "Emulation halted.\n\n" ++ Product.intro ++ "Debug info:\n" ++ machine.fullDump "???" ++
        "\n\n" ++ reason := rfl

theorem crashReport_inj (validFirst : first.Valid) (validSecond : second.Valid)
    {reason other : String} (same : first.crashReport reason = second.crashReport other) :
    SameReported first second := by
  have label : "\n\n".toList = '\n' :: "\n".toList := rfl
  have texts := congrArg String.toList same
  simp only [crashReport_eq, String.toList_append, List.append_assoc, List.append_cancel_left_eq]
    at texts
  obtain ⟨dumped, -, tails⟩ :=
    fullDump_inj validFirst validSecond (by decide) (by decide) texts
  -- The line of the stack ends where the reason begins.
  rw [label, List.cons_append, List.cons_append] at tails
  obtain ⟨lines, -⟩ :=
    line_inj validFirst.newline_notMem_stackText validSecond.newline_notMem_stackText tails
  exact ⟨dumped, stackText_inj validFirst validSecond (String.toList_injective lines)⟩

/-- A cycle that fails reports the machine that has fetched the word. -/
theorem Valid.report_cycle (valid : machine.Valid) {report : String}
    (reports : machine.cycle.report = some report) :
    ∃ reason, report = machine.fetched.crashReport reason := by
  obtain ⟨fault, failed, rfl⟩ := Option.map_eq_some_iff.mp reports
  rw [valid.machine_of_fault (by rw [failed]; exact Option.some_ne_none fault)]
  rcases valid.fault_eq_some_iff.mp failed with ⟨-, rfl⟩ | ⟨-, -, rfl⟩ | ⟨-, -, rfl⟩
  · exact ⟨_, rfl⟩
  · exact ⟨_, rfl⟩
  · exact ⟨_, rfl⟩

/-- Machines with the same full dump, for texts of one line, are alike in all that it shows, and
the texts are the same. So the report of a cycle that failed tells the word, the address that it
was fetched from, the registers and the call stack. -/
theorem dump_loses_nothing (validFirst : first.Valid) (validSecond : second.Valid) :
    (∀ text other : String, '\n' ∉ text.toList → '\n' ∉ other.toList →
      first.fullDump text = second.fullDump other →
      SameReported first second ∧ text = other) ∧
    ∀ report, first.cycle.report = some report → second.cycle.report = some report →
      first.nextWord = second.nextWord ∧ first.pc = second.pc ∧
        first.registers = second.registers ∧ first.stack = second.stack ∧
        SameReported first.fetched second.fetched := by
  constructor
  · intro text other whole wholeToo same
    have texts := congrArg (String.toList · ++ []) same
    obtain ⟨dumped, same, lines⟩ := fullDump_inj validFirst validSecond whole wholeToo texts
    have stack := stackText_inj validFirst validSecond
      (String.toList_injective (List.append_cancel_right lines))
    exact ⟨⟨dumped, stack⟩, same⟩
  · intro report reportsFirst reportsSecond
    obtain ⟨reason, rfl⟩ := validFirst.report_cycle reportsFirst
    obtain ⟨other, same⟩ := validSecond.report_cycle reportsSecond
    have alike := crashReport_inj validFirst.fetched validSecond.fetched same
    exact ⟨alike.word, alike.origin, alike.registers, alike.stack, alike⟩

/-- Whether a machine waits for a key is not dumped. -/
theorem dump_loses_nothing_deepCaller :
    let waiting := { deepCaller with awaitingKey := true }
    deepCaller.Valid ∧ waiting.Valid ∧ deepCaller.cycle.report.isSome = true ∧
      deepCaller.fullDump "JP 0x300" = waiting.fullDump "JP 0x300" ∧
      deepCaller.cycle.report = waiting.cycle.report ∧
      SameReported deepCaller waiting ∧ SameReported deepCaller.fetched waiting.fetched := by
  intro waiting
  have valid := valid_deepCaller
  have validWaiting : waiting.Valid := { valid with }
  obtain ⟨fails, dumps, reports⟩ : deepCaller.cycle.report.isSome = true ∧
      deepCaller.fullDump "JP 0x300" = waiting.fullDump "JP 0x300" ∧
      deepCaller.cycle.report = waiting.cycle.report := by
    decide +kernel
  obtain ⟨report, failed⟩ := Option.isSome_iff_exists.mp fails
  obtain ⟨alike, alikeFetched⟩ := dump_loses_nothing valid validWaiting
  obtain ⟨same, -⟩ := alike "JP 0x300" "JP 0x300" (by decide) (by decide) dumps
  obtain ⟨-, -, -, -, sameFetched⟩ := alikeFetched report failed (reports ▸ failed)
  exact ⟨valid, validWaiting, fails, dumps, reports, same, sameFetched⟩

end Chip8.Machine
