import Chip8.Keymap
import Mathlib.Data.List.Nodup
import Mathlib.Data.Set.List

/-! # Which keymaps are accepted

Every field of a text between commas gives a code or is refused. A text with sixteen fields that
give distinct codes is a keymap, which binds the codes to the keys in order. Any other text is
refused: for the number of its fields, or else for the leftmost field that gives no code or a code
given before.
-/

namespace Chip8.Keymap

variable {characters : Bool} {text : String} {keymap : Keymap} {codes : List Int}
  {results more : List (Except Fault Int)} {position : Nat} {fault : Fault}

theorem fields_eq_splitOn (text : List Char) : fields text = text.splitOn ',' := by
  induction text with
  | nil => rfl
  | cons c rest ih =>
    rw [fields, List.splitOn_cons_eq_if_modifyHead, ih]
    by_cases comma : c = ','
    · rw [if_pos comma, if_pos (beq_iff_eq.mpr comma)]
    · rw [if_neg comma, if_neg (mt beq_iff_eq.mp comma)]
      cases split : rest.splitOn ',' with
      | nil => exact absurd split (List.splitOn_ne_nil ',' rest)
      | cons field others => rfl

/-! ### Fields at fault -/

/-- The field at a position gives no code, or the code of a field before it. -/
inductive Offends (results : List (Except Fault Int)) (position : Nat) : Fault → Prop
  | refused {fault : Fault} (here : results[position]? = some (.error fault)) :
      Offends results position fault
  | repeated {code : Int} (here : results[position]? = some (.ok code))
      (before : .ok code ∈ results.take position) : Offends results position .duplicate

/-- What the leftmost field at fault is at fault for. -/
def LeftmostFault (results : List (Except Fault Int)) (fault : Fault) : Prop :=
  ∃ position, Offends results position fault ∧
    ∀ earlier < position, ∀ other, ¬ Offends results earlier other

theorem Offends.unique {other : Fault} (one : Offends results position fault)
    (two : Offends results position other) : fault = other := by
  cases one with
  | refused here =>
    cases two with
    | refused again => exact Except.error.inj (Option.some.inj (here.symm.trans again))
    | repeated again => cases here.symm.trans again
  | repeated here =>
    cases two with
    | refused again => cases here.symm.trans again
    | repeated => rfl

theorem LeftmostFault.unique {other : Fault} (one : LeftmostFault results fault)
    (two : LeftmostFault results other) : fault = other := by
  obtain ⟨first, offends, clear⟩ := one
  obtain ⟨second, offended, cleared⟩ := two
  rcases Nat.lt_trichotomy first second with before | same | behind
  · exact absurd offends (cleared first before fault)
  · exact offends.unique (same ▸ offended)
  · exact absurd offended (clear second behind other)

/-- Whether a field is at fault does not depend on the fields behind it. -/
theorem offends_append_iff (inside : position < results.length) :
    Offends (results ++ more) position fault ↔ Offends results position fault := by
  have here : (results ++ more)[position]? = results[position]? :=
    List.getElem?_append_left inside
  have before : (results ++ more).take position = results.take position :=
    List.take_append_of_le_length (Nat.le_of_lt inside)
  constructor
  · rintro (refused | ⟨given, repeated⟩)
    · exact .refused (here ▸ refused)
    · exact .repeated (here ▸ given) (before ▸ repeated)
  · rintro (refused | ⟨given, repeated⟩)
    · exact .refused (here.trans refused)
    · exact .repeated (here.trans given) (before.symm ▸ repeated)

theorem ok_injective : Function.Injective (Except.ok : Int → Except Fault Int) :=
  fun _ _ => Except.ok.inj

/-- Fields that give distinct codes are not at fault. -/
theorem not_offends_of_nodup (distinct : codes.Nodup) :
    ¬ Offends (codes.map .ok) position fault := by
  rintro (refused | @⟨code, given, repeated⟩)
  · obtain ⟨_, -, ⟨⟩⟩ := List.mem_map.mp (List.mem_of_getElem? refused)
  · have here : codes[position]? = some code := by simpa using given
    obtain ⟨inside, rfl⟩ := List.getElem?_eq_some_iff.mp here
    have before : codes[position] ∈ codes.take position := by
      rw [← List.map_take] at repeated
      exact (List.mem_map_of_injective ok_injective).mp repeated
    have behind : codes[position] ∈ codes.drop position := by
      rw [List.drop_eq_getElem_cons inside]
      exact List.mem_cons_self
    exact List.disjoint_take_drop distinct (Nat.le_refl position) before behind

/-- The field behind fields that give distinct codes is the leftmost at fault, if it is at fault. -/
theorem Offends.leftmost (offends : Offends results codes.length fault) (distinct : codes.Nodup)
    (whole : results = codes.map .ok ++ more) : LeftmostFault results fault := by
  refine ⟨codes.length, offends, ?_⟩
  intro earlier before other offended
  have inside : earlier < (codes.map (Except.ok : Int → Except Fault Int)).length := by
    rw [List.length_map]
    exact before
  rw [whole] at offended
  exact not_offends_of_nodup distinct ((offends_append_iff inside).mp offended)

/-! ### Verdicts -/

/-- What becomes of a text whose fields give some results. -/
inductive Verdict (results : List (Except Fault Int)) : Except Fault Keymap → Prop
  | miscounted (count : results.length ≠ 16) : Verdict results (.error .wrongCount)
  | refused {fault : Fault} (count : results.length = 16) (leftmost : LeftmostFault results fault) :
      Verdict results (.error fault)
  | accepted {codes : List Int} (count : results.length = 16) (given : results = codes.map .ok)
      (distinct : codes.Nodup) : Verdict results (.ok ⟨codes⟩)

theorem LeftmostFault.not_nodup (leftmost : LeftmostFault results fault)
    (given : results = codes.map .ok) : ¬ codes.Nodup := by
  intro distinct
  obtain ⟨position, offends, -⟩ := leftmost
  exact not_offends_of_nodup distinct (given ▸ offends)

theorem Verdict.unique {one two : Except Fault Keymap} (first : Verdict results one)
    (second : Verdict results two) : one = two := by
  cases first with
  | miscounted count =>
    cases second with
    | miscounted => rfl
    | refused right | accepted right => exact absurd right count
  | refused count leftmost =>
    cases second with
    | miscounted wrong => exact absurd count wrong
    | refused _ other => rw [leftmost.unique other]
    | accepted _ given distinct => exact absurd distinct (leftmost.not_nodup given)
  | accepted count given distinct =>
    cases second with
    | miscounted wrong => exact absurd count wrong
    | refused _ leftmost => exact absurd distinct (leftmost.not_nodup given)
    | accepted _ again =>
      rw [List.map_injective_iff.mpr ok_injective (given.symm.trans again)]

/-- The fields so far gave distinct codes, and with those to come they give the results. What
becomes of the fields to come is what becomes of the whole. -/
theorem codesAfter_verdict (characters : Bool) (rest : List (List Char)) {before : List Int}
    (distinct : before.Nodup) (whole : results = before.map .ok ++ rest.map (code characters))
    (count : results.length = 16) :
    Verdict results ((codesAfter characters before rest).map Keymap.mk) := by
  induction rest generalizing before with
  | nil =>
    rw [List.map_nil, List.append_nil] at whole
    exact .accepted count whole distinct
  | cons field rest ih =>
    have here : results[before.length]? = some (code characters field) := by
      rw [whole, List.getElem?_append_right (by simp)]
      simp
    rw [List.map_cons] at whole
    cases gives : code characters field with
    | error fault =>
      simp only [codesAfter, gives]
      rw [gives] at whole here
      have leftmost := (Offends.refused here).leftmost distinct whole
      exact .refused count leftmost
    | ok code =>
      simp only [codesAfter, gives]
      rw [gives] at whole here
      by_cases known : code ∈ before
      · rw [if_pos known]
        have repeats : .ok code ∈ results.take before.length := by
          rw [whole, List.take_left' (List.length_map _)]
          exact List.mem_map_of_mem known
        have leftmost := (Offends.repeated here repeats).leftmost distinct whole
        exact .refused count leftmost
      · rw [if_neg known]
        apply ih
        · exact List.concat_eq_append ▸ distinct.concat known
        · rw [whole, List.map_append, List.append_assoc]
          rfl

/-- What the fields of a text give. -/
def readings (characters : Bool) (text : String) : List (Except Fault Int) :=
  (text.toList.splitOn ',').map (code characters)

theorem parse_verdict (characters : Bool) (text : String) :
    Verdict (readings characters text) (parse characters text) := by
  have length : (readings characters text).length = (fields text.toList).length := by
    rw [readings, List.length_map, fields_eq_splitOn]
  rw [parse]
  split
  · next miscounted => exact .miscounted (length ▸ miscounted)
  · next counted =>
    have count := length.trans (Decidable.not_not.mp counted)
    have whole : readings characters text =
        [].map .ok ++ (fields text.toList).map (code characters) := by
      rw [readings, fields_eq_splitOn]
      rfl
    exact codesAfter_verdict characters _ List.nodup_nil whole count

theorem parse_eq_iff {outcome : Except Fault Keymap} :
    parse characters text = outcome ↔ Verdict (readings characters text) outcome := by
  constructor
  · rintro rfl
    exact parse_verdict characters text
  · exact (parse_verdict characters text).unique

theorem length_readings (characters : Bool) (text : String) :
    (readings characters text).length = (text.toList.splitOn ',').length := List.length_map _

theorem parse_eq_ok_iff :
    parse characters text = .ok keymap ↔
      (text.toList.splitOn ',').length = 16 ∧
        readings characters text = keymap.codes.map .ok ∧ keymap.codes.Nodup := by
  rw [parse_eq_iff, ← length_readings characters]
  constructor
  · rintro (_ | _ | ⟨count, given, distinct⟩)
    exact ⟨count, given, distinct⟩
  · rintro ⟨count, given, distinct⟩
    exact .accepted count given distinct

theorem parse_eq_error_iff (other : fault ≠ .wrongCount) :
    parse characters text = .error fault ↔
      (text.toList.splitOn ',').length = 16 ∧ LeftmostFault (readings characters text) fault := by
  rw [parse_eq_iff, ← length_readings characters]
  constructor
  · rintro (_ | ⟨count, leftmost⟩)
    · exact absurd rfl other
    · exact ⟨count, leftmost⟩
  · rintro ⟨count, leftmost⟩
    exact .refused count leftmost

theorem code_ne_wrongCount (characters : Bool) (field : List Char) :
    code characters field ≠ .error .wrongCount := by
  intro counted
  rw [code] at counted
  split at counted
  · cases counted
  · split at counted
    · next number _ _ =>
      cases gives : LowerCase.ofCode number <;> rw [gives] at counted <;> cases counted
    · cases counted

theorem parse_eq_wrongCount_iff :
    parse characters text = .error .wrongCount ↔ (text.toList.splitOn ',').length ≠ 16 := by
  rw [parse_eq_iff, ← length_readings characters]
  constructor
  · rintro (miscounted | ⟨-, position, refused, -⟩)
    · exact miscounted
    · cases refused with
      | refused here =>
        obtain ⟨field, -, gives⟩ := List.mem_map.mp (List.mem_of_getElem? here)
        exact absurd gives (code_ne_wrongCount characters field)
  · exact .miscounted

/-! ### Bindings -/

/-- Sixteen codes are bound to the sixteen keys, in order, and no other code is bound. -/
structure Complete (keymap : Keymap) : Prop where
  count : keymap.codes.length = 16
  distinct : keymap.codes.Nodup
  key?_iff : ∀ code key, keymap.key? code = some key ↔ keymap.codes[key.val]? = some code
  bijective : Set.BijOn keymap.key? {code | code ∈ keymap.codes} (Set.range some)

theorem key?_eq_some_iff (distinct : keymap.codes.Nodup) {code : Int} {key : Key} :
    keymap.key? code = some key ↔ keymap.codes[key.val]? = some code := by
  have bound (found : Key) (finds : keymap.key? code = some found) :
      keymap.codes[found.val]? = some code := by
    rw [key?] at finds
    simpa using List.find?_some finds
  refine ⟨bound key, fun here => ?_⟩
  have known : (keymap.key? code).isSome := by
    rw [key?, List.find?_isSome]
    exact ⟨key, List.mem_finRange key, beq_iff_eq.mpr here⟩
  obtain ⟨found, finds⟩ := Option.isSome_iff_exists.mp known
  obtain ⟨inside, -⟩ := List.getElem?_eq_some_iff.mp here
  have same : key.val = found.val :=
    (List.getElem?_inj inside distinct).mp (here.trans (bound found finds).symm)
  rw [finds, Fin.ext same]

theorem exists_key_of_mem (count : keymap.codes.length = 16) (distinct : keymap.codes.Nodup)
    {code : Int} (member : code ∈ keymap.codes) : ∃ key, keymap.key? code = some key := by
  obtain ⟨place, inside, here⟩ := List.getElem_of_mem member
  refine ⟨⟨place, count ▸ inside⟩, ?_⟩
  rw [key?_eq_some_iff distinct, List.getElem?_eq_some_iff]
  exact ⟨inside, here⟩

theorem complete_of_nodup (count : keymap.codes.length = 16) (distinct : keymap.codes.Nodup) :
    keymap.Complete where
  count
  distinct
  key?_iff _ _ := key?_eq_some_iff distinct
  bijective := by
    refine ⟨?_, ?_, ?_⟩
    · intro code member
      obtain ⟨key, finds⟩ := exists_key_of_mem count distinct member
      exact ⟨key, finds.symm⟩
    · intro code member other _ same
      obtain ⟨key, finds⟩ := exists_key_of_mem count distinct member
      have one := (key?_eq_some_iff distinct).mp finds
      have two := (key?_eq_some_iff distinct).mp (same.symm.trans finds)
      exact Option.some.inj (one.symm.trans two)
    · rintro _ ⟨key, rfl⟩
      have inside : key.val < keymap.codes.length := by
        rw [count]
        exact key.isLt
      refine ⟨keymap.codes[key.val], List.getElem_mem inside, ?_⟩
      exact (key?_eq_some_iff distinct).mpr (List.getElem?_eq_getElem inside)

/-- A text that is accepted binds what its fields give. -/
theorem complete_of_parse (parsed : parse characters text = .ok keymap) :
    readings characters text = keymap.codes.map .ok ∧ keymap.Complete := by
  obtain ⟨count, given, distinct⟩ := parse_eq_ok_iff.mp parsed
  refine ⟨given, complete_of_nodup ?_ distinct⟩
  rw [← count, ← length_readings characters, given, List.length_map]

/-! ### Codes that are numbers -/

/-- What a field gives that writes a number, or none. -/
def ofNumber? : Option Int → Except Fault Int
  | some number => .ok number
  | none => .error .notIntegers

theorem ofNumber?_injective : Function.Injective ofNumber? := by
  rintro (_ | one) (_ | other) same <;> cases same <;> rfl

theorem readings_numbers (text : String) :
    readings false text = ((text.toList.splitOn ',').map Numeral.parse?).map ofNumber? := by
  rw [readings, List.map_map]
  apply List.map_congr_left
  intro field _
  rw [code, Function.comp_apply]
  cases Numeral.parse? field <;> rfl

/-- The fields of a text give some codes exactly if they write those numbers. -/
theorem readings_numbers_iff :
    readings false text = codes.map .ok ↔
      (text.toList.splitOn ',').map Numeral.parse? = codes.map some := by
  have written : codes.map (Except.ok : Int → Except Fault Int) = (codes.map some).map ofNumber? :=
    (List.map_map (g := ofNumber?) (f := some)).symm
  rw [readings_numbers, written, (List.map_injective_iff.mpr ofNumber?_injective).eq_iff]

theorem exists_parse_numbers_iff :
    (∃ keymap, parse false text = .ok keymap) ↔
      (text.toList.splitOn ',').length = 16 ∧
        (∀ field ∈ text.toList.splitOn ',', (Numeral.parse? field).isSome) ∧
        ((text.toList.splitOn ',').map Numeral.parse?).Nodup := by
  simp only [parse_eq_ok_iff, readings_numbers_iff]
  constructor
  · rintro ⟨keymap, count, written, distinct⟩
    refine ⟨count, fun field member => ?_, ?_⟩
    · have found : Numeral.parse? field ∈ keymap.codes.map some :=
        written ▸ List.mem_map_of_mem member
      obtain ⟨number, -, writes⟩ := List.mem_map.mp found
      rw [← writes]
      rfl
    · rw [written]
      exact distinct.map (Option.some_injective Int)
  · rintro ⟨count, numbers, distinct⟩
    have present : (text.toList.splitOn ',').map Numeral.parse? ∈ Set.range (List.map some) := by
      rw [Set.range_list_map]
      intro written found
      obtain ⟨field, member, rfl⟩ := List.mem_map.mp found
      obtain ⟨number, writes⟩ := Option.isSome_iff_exists.mp (numbers field member)
      exact ⟨number, writes.symm⟩
    obtain ⟨codes, written⟩ := present
    rw [← written] at distinct
    exact ⟨⟨codes⟩, count, written.symm, distinct.of_map some⟩

/-- A fault of the keymap as such. A number that stands for no character is none. -/
def Fault.isOfKeymap : Fault → Bool
  | wrongCount => true
  | notIntegers => true
  | duplicate => true
  | noCharacter _ => false

theorem isOfKeymap_of_numbers (refused : parse false text = .error fault) :
    fault.isOfKeymap = true := by
  cases fault with
  | wrongCount | notIntegers | duplicate => rfl
  | noCharacter lacking =>
    have other : Fault.noCharacter lacking ≠ .wrongCount := by simp
    obtain ⟨-, position, offends, -⟩ := (parse_eq_error_iff other).mp refused
    cases offends with
    | refused here =>
      rw [readings_numbers] at here
      obtain ⟨number?, -, gives⟩ := List.mem_map.mp (List.mem_of_getElem? here)
      cases number? <;> cases gives

/-- A text is a keymap of numbers exactly if it has sixteen fields that write different numbers,
which are then bound to the keys in order. Any other text is refused as a keymap: for the number of
its fields if that is not sixteen, and else for the leftmost field that writes no number or the
number of a field before it. -/
theorem numbers_parsed_exactly (text : String) :
    let fields := text.toList.splitOn ','
    let numbers := fields.map Numeral.parse?
    ((∃ keymap, parse false text = .ok keymap) ↔
      fields.length = 16 ∧ (∀ field ∈ fields, (Numeral.parse? field).isSome) ∧ numbers.Nodup) ∧
    (∀ keymap, parse false text = .ok keymap →
      numbers = keymap.codes.map some ∧ keymap.Complete) ∧
    (parse false text = .error .wrongCount ↔ fields.length ≠ 16) ∧
    (∀ fault, fault ≠ .wrongCount →
      (parse false text = .error fault ↔
        fields.length = 16 ∧ LeftmostFault (numbers.map ofNumber?) fault)) ∧
    (∀ fault, parse false text = .error fault → fault.isOfKeymap = true) := by
  intro fields numbers
  refine ⟨exists_parse_numbers_iff, ?_, parse_eq_wrongCount_iff, ?_, ?_⟩
  · intro keymap parsed
    obtain ⟨given, complete⟩ := complete_of_parse parsed
    exact ⟨readings_numbers_iff.mp given, complete⟩
  · intro fault other
    rw [parse_eq_error_iff other, readings_numbers]
  · intro fault refused
    exact isOfKeymap_of_numbers refused

/-- The third field writes the number of the first in another way, and the sixth writes none. -/
def writtenTwice : String := "65,66, +0_65,68,69,7 0,71,72,73,74,75,76,77,78,79,80"

theorem numbers_parsed_writtenTwice :
    parse false writtenTwice = .error .duplicate ∧
      LeftmostFault (((writtenTwice.toList.splitOn ',').map Numeral.parse?).map ofNumber?)
        .duplicate := by
  have refused : parse false writtenTwice = .error .duplicate := by decide +kernel
  have other : Fault.duplicate ≠ .wrongCount := by decide
  obtain ⟨-, -, -, faults, -⟩ := numbers_parsed_exactly writtenTwice
  exact ⟨refused, ((faults .duplicate other).mp refused).2⟩

end Chip8.Keymap
