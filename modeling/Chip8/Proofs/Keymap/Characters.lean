import Chip8.Proofs.Keymap.Parsing

/-! # Keymaps of characters

Where codes stand for characters, a field can write a number that stands for none: one that is no
code point, or the one code point whose lower case has two characters. Such a text is refused like
others if a field further left is at fault. Otherwise it is not refused as a keymap, but with the
fault of the number.
-/

namespace Chip8

/-- The numbers without a lower-case code are those that are no code points, and the one code point
with a lower case of two characters. -/
theorem LowerCase.exists_ofCode_eq_error_iff {number : Int} :
    (∃ lacking, ofCode number = .error lacking) ↔
      number < 0 ∨ 0x10ffff < number ∨ number = 0x130 := by
  rw [ofCode]
  split
  · next wide =>
    simp only [Bool.not_eq_true', ← Bool.not_eq_true, Width.fits32_iff] at wide
    refine iff_of_true ⟨_, rfl⟩ ?_
    omega
  · split
    · next outside =>
      refine iff_of_true ⟨_, rfl⟩ ?_
      omega
    · split
      · next several => exact iff_of_true ⟨_, rfl⟩ (.inr (.inr several))
      · next inside single =>
        refine iff_of_false ?_ ?_
        · rintro ⟨_, ⟨⟩⟩
        · omega

namespace Keymap

variable {text : String} {field : List Char}

theorem code_characters_eq_ok_iff {code : Int} :
    Keymap.code true field = .ok code ↔
      ∃ number, Numeral.parse? field = some number ∧ LowerCase.ofCode number = .ok code := by
  rw [Keymap.code]
  cases Numeral.parse? field with
  | none => simp
  | some number => cases lower : LowerCase.ofCode number <;> simp [Except.mapError, lower]

theorem code_characters_eq_noCharacter_iff {lacking : LowerCase.Fault} :
    code true field = .error (.noCharacter lacking) ↔
      ∃ number, Numeral.parse? field = some number ∧
        LowerCase.ofCode number = .error lacking := by
  rw [code]
  cases Numeral.parse? field with
  | none => simp
  | some number => cases lower : LowerCase.ofCode number <;> simp [Except.mapError, lower]

theorem readings_getElem? (characters : Bool) (text : String) (position : Nat) :
    (readings characters text)[position]? =
      (text.toList.splitOn ',')[position]?.map (code characters) := List.getElem?_map

/-- Each key of a keymap of characters is bound to the lower case of its field. -/
theorem key?_of_parse_characters {keymap : Keymap} (parsed : parse true text = .ok keymap)
    (key : Key) :
    ∃ field number code, (text.toList.splitOn ',')[key.val]? = some field ∧
      Numeral.parse? field = some number ∧ LowerCase.ofCode number = .ok code ∧
      keymap.key? code = some key := by
  obtain ⟨given, complete⟩ := complete_of_parse parsed
  have inside : key.val < keymap.codes.length := by
    rw [complete.count]
    exact key.isLt
  have here : keymap.codes[key.val]? = some keymap.codes[key.val] :=
    List.getElem?_eq_getElem inside
  have reads : (readings true text)[key.val]? = some (.ok keymap.codes[key.val]) := by
    rw [given, List.getElem?_map, here]
    rfl
  rw [readings_getElem?] at reads
  obtain ⟨field, placed, gives⟩ := Option.map_eq_some_iff.mp reads
  obtain ⟨number, writes, lowers⟩ := code_characters_eq_ok_iff.mp gives
  exact ⟨field, number, _, placed, writes, lowers, (complete.key?_iff _ key).mpr here⟩

theorem parse_eq_noCharacter_iff {lacking : LowerCase.Fault} :
    parse true text = .error (.noCharacter lacking) ↔
      (text.toList.splitOn ',').length = 16 ∧
        ∃ position field number, (text.toList.splitOn ',')[position]? = some field ∧
          Numeral.parse? field = some number ∧ LowerCase.ofCode number = .error lacking ∧
          ∀ earlier < position, ∀ other, ¬ Offends (readings true text) earlier other := by
  have other : Fault.noCharacter lacking ≠ .wrongCount := by simp
  rw [parse_eq_error_iff other]
  apply and_congr_right'
  constructor
  · rintro ⟨position, offends, clear⟩
    cases offends with
    | refused here =>
      rw [readings_getElem?] at here
      obtain ⟨field, placed, gives⟩ := Option.map_eq_some_iff.mp here
      obtain ⟨number, writes, lowers⟩ := code_characters_eq_noCharacter_iff.mp gives
      exact ⟨position, field, number, placed, writes, lowers, clear⟩
  · rintro ⟨position, field, number, placed, writes, lowers, clear⟩
    refine ⟨position, .refused ?_, clear⟩
    rw [readings_getElem?, placed, Option.map_some,
      code_characters_eq_noCharacter_iff.mpr ⟨number, writes, lowers⟩]

theorem isOfKeymap_eq_false_iff {fault : Fault} :
    fault.isOfKeymap = false ↔ ∃ lacking, fault = .noCharacter lacking := by
  cases fault <;> simp [Fault.isOfKeymap]

/-- A keymap of characters that is accepted binds the lower case of every field to its key. A text
that is refused otherwise than as a keymap has sixteen fields, and the leftmost at fault writes a
number without a lower-case code. -/
theorem characters_parsed_exactly (text : String) :
    let fields := text.toList.splitOn ','
    (∀ keymap, parse true text = .ok keymap →
      keymap.Complete ∧ ∀ key : Key, ∃ field number code,
        fields[key.val]? = some field ∧ Numeral.parse? field = some number ∧
        LowerCase.ofCode number = .ok code ∧ keymap.key? code = some key) ∧
    ((∃ fault, fault.isOfKeymap = false ∧ parse true text = .error fault) ↔
      fields.length = 16 ∧ ∃ position field number,
        fields[position]? = some field ∧ Numeral.parse? field = some number ∧
        (number < 0 ∨ 0x10ffff < number ∨ number = 0x130) ∧
        ∀ earlier < position, ∀ other, ¬ Offends (readings true text) earlier other) := by
  intro fields
  refine ⟨fun keymap parsed => ?_, ?_⟩
  · exact ⟨(complete_of_parse parsed).2, key?_of_parse_characters parsed⟩
  · constructor
    · rintro ⟨fault, strange, refused⟩
      obtain ⟨lacking, rfl⟩ := isOfKeymap_eq_false_iff.mp strange
      obtain ⟨count, position, field, number, placed, writes, lowers, clear⟩ :=
        parse_eq_noCharacter_iff.mp refused
      have lacks := LowerCase.exists_ofCode_eq_error_iff.mp ⟨lacking, lowers⟩
      exact ⟨count, position, field, number, placed, writes, lacks, clear⟩
    · rintro ⟨count, position, field, number, placed, writes, lacks, clear⟩
      obtain ⟨lacking, lowers⟩ := LowerCase.exists_ofCode_eq_error_iff.mpr lacks
      refine ⟨.noCharacter lacking, rfl, ?_⟩
      exact parse_eq_noCharacter_iff.mpr
        ⟨count, position, field, number, placed, writes, lowers, clear⟩

/-- The standard keys, with the letters in upper case. -/
def capitals : String := "88,49,50,51,81,87,69,65,83,68,90,67,52,82,70,86"

/-- The first number has a lower case of two characters. Further right stand one that is no code
point, and two letters that are the same in lower case. -/
def dottedCapital : String := "304,-1,65,97,4,5,6,7,8,9,10,11,12,13,14,15"

theorem characters_parsed_capitals :
    (∃ keymap, parse true capitals = .ok keymap ∧ keymap.Complete) ∧
      ∃ fault, fault.isOfKeymap = false ∧ parse true dottedCapital = .error fault := by
  have accepted : parse true capitals =
      .ok ⟨[120, 49, 50, 51, 113, 119, 101, 97, 115, 100, 122, 99, 52, 114, 102, 118]⟩ := by
    decide +kernel
  constructor
  · exact ⟨_, accepted, ((characters_parsed_exactly capitals).1 _ accepted).1⟩
  · apply (characters_parsed_exactly dottedCapital).2.mpr
    refine ⟨by decide +kernel, 0, ['3', '0', '4'], 304, by decide +kernel, by decide +kernel,
      .inr (.inr rfl), ?_⟩
    intro earlier before
    exact absurd before (Nat.not_lt_zero earlier)

/-- Sixteen different numbers, the first of which is below zero. -/
def negativeCode : String := "-1,0,1,2,3,4,5,6,7,8,9,10,11,12,13,14"

/-- A text may be neither accepted nor refused as a keymap. -/
theorem negativeCode_refused_otherwise :
    ¬ ((∃ keymap, parse true negativeCode = .ok keymap) ∨
      ∃ fault, fault.isOfKeymap = true ∧ parse true negativeCode = .error fault) := by
  have failed : parse true negativeCode = .error (.noCharacter (.notACodePoint (-1))) := by
    decide +kernel
  rintro (⟨keymap, accepted⟩ | ⟨fault, own, refused⟩)
  · cases failed.symm.trans accepted
  · cases failed.symm.trans refused
    cases own

end Keymap

end Chip8
