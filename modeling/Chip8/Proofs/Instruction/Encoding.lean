import Chip8.Instruction.Decode
import Mathlib.Data.Fin.Basic
import Mathlib.Tactic.FinCases
import Mathlib.Tactic.SplitIfs

/-! # The words of instructions

Each instruction is encoded by one word of four digits, and decoding undoes encoding: a word
decodes to an instruction exactly if it encodes it. The words that decode are those that fit one
of the forms of the instruction set, in which a digit is fixed or is part of an operand.
-/

namespace Chip8

namespace Word

/-! ### Words built from operands -/

/-- The word with an address in its last three digits. -/
def ofAddress (family : Nat) (address : Address) : Int := family * 0x1000 + address.val

/-- The word with a register in its second digit and a byte in the last two. -/
def ofByte (family : Nat) (x : Register) (byte : UInt8) : Int :=
  family * 0x1000 + x.val * 0x100 + byte.toNat

/-- The word with two registers and a nibble in its last three digits. -/
def ofNibble (family : Nat) (x y : Register) (nibble : Fin 16) : Int :=
  family * 0x1000 + x.val * 0x100 + y.val * 0x10 + nibble.val

@[simp] theorem toNat_byte (word : Int) : ((byte word).toNat : Int) = word % 0x100 := by
  simp only [byte, UInt8.toNat_ofNat']
  omega

theorem val_address (word : Int) : ((address word).val : Int) = word % 0x1000 := by
  simp only [address]
  omega

section Operands

variable (family : Nat) (x y : Register) (nibble : Fin 16) (byte : UInt8) (address : Address)

@[simp] theorem family_ofAddress : ofAddress family address / 0x1000 = family := by
  simp only [ofAddress]; omega

@[simp] theorem address_ofAddress : Word.address (ofAddress family address) = address := by
  apply Fin.ext
  simp only [Word.address, ofAddress]
  omega

@[simp] theorem last_ofAddress : ofAddress family address % 0x1000 = address.val := by
  simp only [ofAddress]; omega

@[simp] theorem family_ofByte : ofByte family x byte / 0x1000 = family := by
  have bound := byte.toNat_lt
  simp only [ofByte]; omega

@[simp] theorem x_ofByte : Word.x (ofByte family x byte) = x := by
  have bound := byte.toNat_lt
  apply Fin.ext
  simp only [Word.x, ofByte]
  omega

@[simp] theorem last_ofByte : ofByte family x byte % 0x100 = byte.toNat := by
  have bound := byte.toNat_lt
  simp only [ofByte]; omega

@[simp] theorem byte_ofByte : Word.byte (ofByte family x byte) = byte := by
  rw [Word.byte, last_ofByte]
  simp

@[simp] theorem family_ofNibble : ofNibble family x y nibble / 0x1000 = family := by
  simp only [ofNibble]; omega

@[simp] theorem x_ofNibble : Word.x (ofNibble family x y nibble) = x := by
  apply Fin.ext
  simp only [Word.x, ofNibble]
  omega

@[simp] theorem y_ofNibble : Word.y (ofNibble family x y nibble) = y := by
  apply Fin.ext
  simp only [Word.y, ofNibble]
  omega

@[simp] theorem last_ofNibble : ofNibble family x y nibble % 16 = nibble.val := by
  simp only [ofNibble]; omega

@[simp] theorem nibble_ofNibble : Word.nibble (ofNibble family x y nibble) = nibble := by
  apply Fin.ext
  simp only [Word.nibble, last_ofNibble]
  omega

end Operands

section Digits

variable {word : Int} {family : Nat}

theorem ofAddress_eq (first : word / 0x1000 = family) :
    ofAddress family (address word) = word := by
  simp only [ofAddress, address]; omega

theorem ofByte_eq (first : word / 0x1000 = family) {value : UInt8} (last : byte word = value) :
    ofByte family (x word) value = word := by
  have low := toNat_byte word
  rw [last] at low
  simp only [ofByte, x]; omega

theorem ofNibble_eq (first : word / 0x1000 = family) {value : Fin 16}
    (last : nibble word = value) : ofNibble family (x word) (y word) value = word := by
  have low : ((nibble word).val : Int) = word % 16 := by simp only [nibble]; omega
  rw [last] at low
  simp only [ofNibble, x, y]; omega

end Digits

end Word

namespace Instruction

open Word

/-- The word of an instruction. -/
def encode : Instruction → Int
  | clearScreen => 0x00e0
  | ret => 0x00ee
  | jump address => ofAddress 0x1 address
  | call address => ofAddress 0x2 address
  | skipIfByte x byte => ofByte 0x3 x byte
  | skipUnlessByte x byte => ofByte 0x4 x byte
  | skipIfEqual x y => ofNibble 0x5 x y 0x0
  | loadByte x byte => ofByte 0x6 x byte
  | addByte x byte => ofByte 0x7 x byte
  | copy x y => ofNibble 0x8 x y 0x0
  | or x y => ofNibble 0x8 x y 0x1
  | and x y => ofNibble 0x8 x y 0x2
  | xor x y => ofNibble 0x8 x y 0x3
  | add x y => ofNibble 0x8 x y 0x4
  | subtract x y => ofNibble 0x8 x y 0x5
  | shiftRight x y => ofNibble 0x8 x y 0x6
  | subtractFrom x y => ofNibble 0x8 x y 0x7
  | shiftLeft x y => ofNibble 0x8 x y 0xe
  | skipUnlessEqual x y => ofNibble 0x9 x y 0x0
  | loadIndex address => ofAddress 0xa address
  | jumpOffset address => ofAddress 0xb address
  | random x byte => ofByte 0xc x byte
  | draw x y height => ofNibble 0xd x y height
  | skipIfKey x => ofByte 0xe x 0x9e
  | skipUnlessKey x => ofByte 0xe x 0xa1
  | readDelay x => ofByte 0xf x 0x07
  | awaitKey x => ofByte 0xf x 0x0a
  | setDelay x => ofByte 0xf x 0x15
  | setSound x => ofByte 0xf x 0x18
  | addIndex x => ofByte 0xf x 0x1e
  | loadGlyph x => ofByte 0xf x 0x29
  | storeDecimal x => ofByte 0xf x 0x33
  | storeRegisters x => ofByte 0xf x 0x55
  | loadRegisters x => ofByte 0xf x 0x65

theorem decode?_encode (instruction : Instruction) :
    decode? (encode instruction) = some instruction := by
  cases instruction <;> simp [encode, decode?, decodeArithmetic, decodeMisc]

private theorem encode_of_decodeArithmetic {word : Int} {instruction : Instruction}
    (family : word / 0x1000 = (0x8 : Nat)) (found : decodeArithmetic word = some instruction) :
    encode instruction = word := by
  simp only [decodeArithmetic] at found
  split at found <;> cases found <;> exact ofNibble_eq family (Fin.ext ‹_›)

private theorem encode_of_decodeMisc {word : Int} {instruction : Instruction}
    (family : word / 0x1000 = (0xf : Nat)) (found : decodeMisc word = some instruction) :
    encode instruction = word := by
  simp only [decodeMisc] at found
  split at found <;> cases found <;> exact ofByte_eq family (UInt8.toNat_inj.mp ‹_›)

/-- A word of four digits decodes to no instruction but the one that it encodes. -/
theorem encode_of_decode? {word : Int} {instruction : Instruction} (least : 0 ≤ word)
    (most : word < 0x10000) (found : decode? word = some instruction) :
    encode instruction = word := by
  simp only [decode?] at found
  split at found
  case h_1 =>
    split_ifs at found with clears returns
    · cases found
      exact clears.symm
    · cases found
      exact returns.symm
  case h_2 family | h_3 family | h_11 family | h_12 family =>
    cases found
    exact ofAddress_eq family
  case h_4 family | h_5 family | h_7 family | h_8 family | h_13 family =>
    cases found
    exact ofByte_eq family rfl
  case h_6 family | h_10 family =>
    split_ifs at found with zero
    cases found
    exact ofNibble_eq family (Fin.ext zero)
  case h_9 family => exact encode_of_decodeArithmetic family found
  case h_14 family =>
    cases found
    exact ofNibble_eq family rfl
  case h_15 family =>
    split at found <;> cases found <;> exact ofByte_eq family (UInt8.toNat_inj.mp ‹_›)
  case h_16 =>
    have family : word / 0x1000 = (0xf : Nat) := by
      simp only [imp_false] at *
      omega
    exact encode_of_decodeMisc family found

theorem decode?_eq_some_iff {word : Int} {instruction : Instruction} (least : 0 ≤ word)
    (most : word < 0x10000) : decode? word = some instruction ↔ encode instruction = word :=
  ⟨encode_of_decode? least most, fun same => same ▸ decode?_encode instruction⟩

/-! ### The forms of the instruction set -/

/-- Four digits, of which the first is fixed and each other one is fixed or part of an operand. -/
structure Form where
  first : Nat
  second : Option Nat := none
  third : Option Nat := none
  last : Option Nat := none
deriving DecidableEq, Repr

/-- Whether a word has the digits that a form fixes. -/
structure Form.Fits (form : Form) (word : Int) : Prop where
  first : word / 0x1000 = form.first
  second : ∀ digit ∈ form.second, word / 0x100 % 16 = digit
  third : ∀ digit ∈ form.third, word / 0x10 % 16 = digit
  last : ∀ digit ∈ form.last, word % 16 = digit

/-- The forms of all instructions; a digit that is part of an operand has a letter. -/
def forms : List Form := [
  ⟨0x0, some 0x0, some 0xe, some 0x0⟩, -- 00E0
  ⟨0x0, some 0x0, some 0xe, some 0xe⟩, -- 00EE
  ⟨0x1, none, none, none⟩, -- 1nnn
  ⟨0x2, none, none, none⟩, -- 2nnn
  ⟨0x3, none, none, none⟩, -- 3xkk
  ⟨0x4, none, none, none⟩, -- 4xkk
  ⟨0x5, none, none, some 0x0⟩, -- 5xy0
  ⟨0x6, none, none, none⟩, -- 6xkk
  ⟨0x7, none, none, none⟩, -- 7xkk
  ⟨0x8, none, none, some 0x0⟩, -- 8xy0
  ⟨0x8, none, none, some 0x1⟩, -- 8xy1
  ⟨0x8, none, none, some 0x2⟩, -- 8xy2
  ⟨0x8, none, none, some 0x3⟩, -- 8xy3
  ⟨0x8, none, none, some 0x4⟩, -- 8xy4
  ⟨0x8, none, none, some 0x5⟩, -- 8xy5
  ⟨0x8, none, none, some 0x6⟩, -- 8xy6
  ⟨0x8, none, none, some 0x7⟩, -- 8xy7
  ⟨0x8, none, none, some 0xe⟩, -- 8xyE
  ⟨0x9, none, none, some 0x0⟩, -- 9xy0
  ⟨0xa, none, none, none⟩, -- Annn
  ⟨0xb, none, none, none⟩, -- Bnnn
  ⟨0xc, none, none, none⟩, -- Cxkk
  ⟨0xd, none, none, none⟩, -- Dxyn
  ⟨0xe, none, some 0x9, some 0xe⟩, -- Ex9E
  ⟨0xe, none, some 0xa, some 0x1⟩, -- ExA1
  ⟨0xf, none, some 0x0, some 0x7⟩, -- Fx07
  ⟨0xf, none, some 0x0, some 0xa⟩, -- Fx0A
  ⟨0xf, none, some 0x1, some 0x5⟩, -- Fx15
  ⟨0xf, none, some 0x1, some 0x8⟩, -- Fx18
  ⟨0xf, none, some 0x1, some 0xe⟩, -- Fx1E
  ⟨0xf, none, some 0x2, some 0x9⟩, -- Fx29
  ⟨0xf, none, some 0x3, some 0x3⟩, -- Fx33
  ⟨0xf, none, some 0x5, some 0x5⟩, -- Fx55
  ⟨0xf, none, some 0x6, some 0x5⟩] -- Fx65

section Forms

variable (family : Nat) (x y : Register) (nibble : Fin 16) (byte : UInt8) (address : Address)

private theorem fits_ofAddress : Form.Fits ⟨family, none, none, none⟩ (ofAddress family address) :=
  ⟨family_ofAddress family address, nofun, nofun, nofun⟩

private theorem fits_ofByte : Form.Fits ⟨family, none, none, none⟩ (ofByte family x byte) :=
  ⟨family_ofByte family x byte, nofun, nofun, nofun⟩

private theorem fits_ofByte_fixed :
    Form.Fits ⟨family, none, some (byte.toNat / 16), some (byte.toNat % 16)⟩
      (ofByte family x byte) := by
  have bound := byte.toNat_lt
  refine ⟨family_ofByte family x byte, nofun, ?_, ?_⟩
  · rintro digit ⟨⟩
    simp only [ofByte]; omega
  · rintro digit ⟨⟩
    simp only [ofByte]; omega

private theorem fits_ofNibble : Form.Fits ⟨family, none, none, none⟩ (ofNibble family x y nibble) :=
  ⟨family_ofNibble family x y nibble, nofun, nofun, nofun⟩

private theorem fits_ofNibble_fixed :
    Form.Fits ⟨family, none, none, some nibble.val⟩ (ofNibble family x y nibble) := by
  refine ⟨family_ofNibble family x y nibble, nofun, nofun, ?_⟩
  rintro digit ⟨⟩
  simp only [ofNibble]; omega

end Forms

/-- The word of an instruction fits a form. -/
theorem exists_fits_encode (instruction : Instruction) :
    ∃ form ∈ forms, form.Fits (encode instruction) := by
  cases instruction with
  | clearScreen =>
    refine ⟨⟨0x0, some 0x0, some 0xe, some 0x0⟩, by decide, by decide, ?_, ?_, ?_⟩ <;>
      rintro digit ⟨⟩ <;> decide
  | ret =>
    refine ⟨⟨0x0, some 0x0, some 0xe, some 0xe⟩, by decide, by decide, ?_, ?_, ?_⟩ <;>
      rintro digit ⟨⟩ <;> decide
  | jump | call | loadIndex | jumpOffset => exact ⟨_, by decide, fits_ofAddress _ _⟩
  | skipIfByte | skipUnlessByte | loadByte | addByte | random =>
    exact ⟨_, by decide, fits_ofByte _ _ _⟩
  | skipIfKey | skipUnlessKey | readDelay | awaitKey | setDelay | setSound | addIndex
  | loadGlyph | storeDecimal | storeRegisters | loadRegisters =>
    exact ⟨_, by decide, fits_ofByte_fixed _ _ _⟩
  | draw => exact ⟨_, by decide, fits_ofNibble _ _ _ _⟩
  | skipIfEqual | copy | or | and | xor | add | subtract | shiftRight | subtractFrom
  | shiftLeft | skipUnlessEqual =>
    exact ⟨_, by decide, fits_ofNibble_fixed _ _ _ _⟩

/-- A word that fits a form decodes. -/
theorem isSome_decode?_of_fits {form : Form} {word : Int} (member : form ∈ forms)
    (fits : form.Fits word) : (decode? word).isSome := by
  have nibble : (Word.nibble word).val = (word % 16).toNat := rfl
  have byte : (Word.byte word).toNat = (word / 0x10 % 16 * 16 + word % 16).toNat := by
    have low := Word.toNat_byte word
    omega
  obtain ⟨first, second, third, last⟩ := fits
  fin_cases member <;>
    simp only [Int.cast_ofNat_Int, Option.mem_def, Option.some.injEq, forall_eq', reduceCtorEq,
      IsEmpty.forall_iff, implies_true] at first second third last
  case «0» =>
    have clears : word = 0x00e0 := by omega
    rw [clears]
    rfl
  case «1» =>
    have returns : word = 0x00ee := by omega
    rw [returns]
    rfl
  all_goals simp [decode?, decodeArithmetic, decodeMisc, *]

/-- The words that decode are those that fit a form. -/
theorem isSome_decode?_iff {word : Int} (least : 0 ≤ word) (most : word < 0x10000) :
    (decode? word).isSome ↔ ∃ form ∈ forms, form.Fits word := by
  constructor
  · intro found
    obtain ⟨instruction, found⟩ := Option.isSome_iff_exists.mp found
    rw [← encode_of_decode? least most found]
    exact exists_fits_encode instruction
  · rintro ⟨form, member, fits⟩
    exact isSome_decode?_of_fits member fits

end Instruction

end Chip8
