import Backplane.Address.Notation
import Backplane.Proofs.Text.Blank
import Backplane.Proofs.Text.Numeral

/-!
# The languages of the readers

`Operand` says which texts are operands: a numeral with blanks around it.  Each
reader accepts the operands whose value passes its test, and nothing else; a
data word has the character constants besides, and an address the mark of the
io page.
-/

namespace Backplane

namespace Text

/-- A numeral with blanks around it. -/
def Operand (radix : Nat) (text : String) (value : Nat) : Prop :=
  ∃ core, TrimsTo text.toList core ∧ Numeral radix core value

theorem Numeral.ne_nil {radix value : Nat} {chars : List Char}
    (numeral : Numeral radix chars value) : chars ≠ [] := by
  cases numeral with
  | unsigned inhabited => exact inhabited
  | signed => exact List.cons_ne_nil _ _

theorem operand_iff {radix value : Nat} {text : String} :
    Operand radix text value ↔ Numeral radix (trim text.toList) value := by
  constructor
  · rintro ⟨core, trims, numeral⟩
    rwa [trim_eq_iff.mpr trims]
  · exact fun numeral => ⟨_, trim_eq_iff.mp rfl, numeral⟩

theorem readOperand_eq_ok {radix value : Nat} {text : String}
    (decimal : radix ≤ 10) :
    readOperand radix text = .ok value ↔
      Operand radix text value ∧ value ≤ operandLimit := by
  rw [operand_iff, ← readNumeral_eq_ok decimal, readOperand]
  split
  · rename_i empty
    rw [readNumeral_eq_ok decimal]
    constructor
    · intro impossible
      cases impossible
    · intro read
      exact absurd (List.isEmpty_iff.mp empty) read.1.ne_nil
  · split <;> rename_i read <;> rw [read]
    · exact ⟨fun accepted => congrArg _ (Except.ok.inj accepted),
        fun accepted => congrArg _ (Except.ok.inj accepted)⟩
    all_goals exact ⟨nofun, nofun⟩

/-- A value passes its test after it was read. -/
theorem readAccepting_eq_ok {radix value : Nat} {text : String}
    (decimal : radix ≤ 10) {acceptable : Nat → Bool} :
    (do accepting text acceptable (← readOperand radix text)) = .ok value ↔
      Operand radix text value ∧ value ≤ operandLimit ∧
      acceptable value = true := by
  rw [← and_assoc, ← readOperand_eq_ok decimal]
  cases readOperand radix text with
  | error fault => exact ⟨nofun, fun accepted => nomatch accepted.1⟩
  | ok read =>
      change accepting text acceptable read = .ok value ↔ _
      rw [accepting]
      split
      · rename_i passes
        constructor
        · intro accepted
          obtain rfl := Except.ok.inj accepted
          exact ⟨rfl, passes⟩
        · exact fun accepted => accepted.1
      · rename_i rejected
        constructor
        · intro impossible
          cases impossible
        · rintro ⟨same, passes⟩
          obtain rfl := Except.ok.inj same
          exact absurd passes rejected

section Readers

variable {text : String} {value : Nat}

/-- A character constant is exactly one character after the apostrophe, blank or
not; any other text that begins with the apostrophe is refused. -/
theorem readWord_eq_ok :
    readWord text = .ok value ↔
      (∃ c, text.toList = ['\'', c] ∧ c.toNat < 128 ∧ value = c.toNat) ∨
        (text.toList.head? ≠ some '\'' ∧ Operand 8 text value ∧
          value ≤ 0xffff) := by
  unfold readWord
  split
  · rename_i alone
    simp [alone]
  · rename_i c constant
    simp only [constant, List.cons.injEq, true_and, and_true,
      List.head?_cons, ne_eq, not_true_eq_false, false_and, or_false,
      exists_eq_left']
    split
    · rename_i ascii
      rw [Except.ok.injEq]
      exact ⟨fun same => ⟨ascii, same.symm⟩, fun accepted => accepted.2.symm⟩
    · rename_i foreign
      exact ⟨nofun, fun accepted => absurd accepted.1 foreign⟩
  · rename_i rest notEmpty notOne long
    simp only [long, List.cons.injEq, true_and, List.head?_cons, ne_eq,
      not_true_eq_false, false_and, or_false]
    constructor
    · intro impossible
      cases impossible
    · rintro ⟨c, rfl, _⟩
      exact absurd rfl (notOne c)
  · rename_i notEmpty notOne notLong
    have plain : text.toList.head? ≠ some '\'' := by
      intro apostrophe
      obtain ⟨rest, begins⟩ := List.head?_eq_some_iff.mp apostrophe
      exact notLong rest begins
    have notConstant : ¬ ∃ c, text.toList = ['\'', c] ∧ c.toNat < 128 ∧
        value = c.toNat := by
      rintro ⟨c, constant, _⟩
      exact notOne c constant
    rw [or_iff_right notConstant, and_iff_right plain, readOctal,
      readAccepting_eq_ok (by decide), decide_eq_true_eq, operandLimit]
    exact and_congr_right fun _ => by omega

theorem readInterruptLevel_eq_ok :
    readInterruptLevel text = .ok value ↔ Operand 8 text value ∧ 4 ≤ value ∧
    value ≤ 7 := by
  rw [readInterruptLevel, readOctal, readAccepting_eq_ok (by decide),
    Bool.and_eq_true, decide_eq_true_eq, decide_eq_true_eq, operandLimit]
  exact and_congr_right fun _ => by omega

theorem readInterruptVector_eq_ok {limit : Nat} :
    readInterruptVector text limit = .ok value ↔
      Operand 8 text value ∧ value ≤ limit ∧ value < 2 ^ 32 ∧ 4 ∣ value := by
  rw [readInterruptVector, readOctal, readAccepting_eq_ok (by decide),
    Bool.and_eq_true, decide_eq_true_eq, beq_iff_eq, operandLimit]
  exact and_congr_right fun _ => by omega

theorem readPrioritySlot_eq_ok :
    readPrioritySlot text = .ok value ↔ Operand 10 text value ∧ 1 ≤ value ∧
    value ≤ 31 := by
  rw [readPrioritySlot, readAccepting_eq_ok (by decide), Bool.and_eq_true,
    decide_eq_true_eq, decide_eq_true_eq, operandLimit]
  exact and_congr_right fun _ => by omega

end Readers

/-! ## Written digits as operands -/

theorem IsDigit.solid {radix : Nat} {c : Char} (decimal : radix ≤ 10)
    (digit : IsDigit radix c) : isBlank c = false := by
  have solid : ∀ digit : Fin 10, isBlank (Nat.digitChar digit) = false := by
    decide
  obtain ⟨value, below, rfl⟩ := digit
  exact solid ⟨value, Nat.lt_of_lt_of_le below decimal⟩

theorem TrimsTo.refl {chars : List Char}
    (solid : ∀ c ∈ chars, isBlank c = false) : TrimsTo chars chars where
  around := ⟨[], [], (List.append_nil _).symm, nofun, nofun⟩
  firstSolid c head := solid c (List.mem_of_mem_head? head)
  lastSolid c last := solid c (List.mem_of_mem_getLast? last)

/-- The lowest digits of a number are an operand that writes them. -/
theorem operand_octalPadded {count : Nat} (shown : 0 < count) (value : Nat) :
    Operand 8 (octalPadded count value) (value % 8 ^ count) := by
  have digits := isDigit_octalDigits count value
  have inhabited : octalDigits count value ≠ [] := by
    rw [← List.length_pos_iff, length_octalDigits]
    exact shown
  refine ⟨octalDigits count value, ?_, ?_⟩
  · rw [octalPadded, String.toList_ofList]
    exact .refl fun c member => (digits c member).solid (by decide)
  · rw [← ofDigitChars_octalDigits]
    exact .unsigned inhabited digits

theorem readWord_octalWord (value : Nat) :
    readWord (octalWord value) =
      if value ≤ 0xffff then .ok value else .error (.malformed "??????") := by
  rw [octalWord]
  split
  · rename_i fits
    have operand := operand_octalPadded (by decide : 0 < 6) value
    rw [Nat.mod_eq_of_lt (by omega)] at operand
    refine readWord_eq_ok.mpr (.inr ⟨?_, operand, fits⟩)
    rw [octalPadded, String.toList_ofList]
    intro apostrophe
    have digit := isDigit_octalDigits _ _ _ (List.mem_of_mem_head? apostrophe)
    exact absurd digit
      (by rintro ⟨value, _, same⟩; exact Nat.digitChar_ne '\'' rfl same.symm)
  · rfl

end Text

namespace AddressWidth

open Text

/-- A text with one mark of the io page taken off its front, if there is one. -/
inductive Unmarked : List Char → List Char → Prop where
  | marked (digits : List Char) : Unmarked ('i' :: 'o' :: digits) digits
  | bare {chars : List Char} (plain : ¬ ['i', 'o'] <+: chars) :
      Unmarked chars chars

theorem unmarked_eq_iff {chars digits : List Char} :
    unmarked chars = digits ↔ Unmarked chars digits := by
  constructor
  · rintro rfl
    unfold unmarked
    split
    · exact .marked _
    · rename_i other
      refine .bare ?_
      rintro ⟨rest, rfl⟩
      exact other rest rfl
  · intro split
    cases split with
    | marked => rfl
    | bare plain =>
        unfold unmarked
        split
        · exact absurd ⟨_, rfl⟩ plain
        · rfl

/-- A text that writes an address: an operand, perhaps behind the mark of the io
page. -/
def AddressText (text : String) (address : Nat) : Prop :=
  ∃ core digits, TrimsTo text.toList core ∧ Unmarked core digits ∧
    Operand 8 (String.ofList digits) address

theorem maxAddress_le_operandLimit (width : AddressWidth) :
    width.maxAddress ≤ operandLimit := by
  cases width <;> decide

/-- The operand of an address, before it is compared with the end of the address
space. -/
theorem readOctal_unmarked_eq_ok {text : String} {address : Nat} :
    readOctal (String.ofList (unmarked (trim text.toList))) = .ok address ↔
      AddressText text address ∧ address ≤ operandLimit := by
  rw [readOctal, readOperand_eq_ok (by decide)]
  refine and_congr_left fun _ => ⟨fun operand => ?_, ?_⟩
  · exact ⟨_, _, trim_eq_iff.mp rfl, unmarked_eq_iff.mp rfl, operand⟩
  · rintro ⟨core, digits, trims, split, operand⟩
    rwa [trim_eq_iff.mpr trims, unmarked_eq_iff.mpr split]

theorem readAddress_eq_ok {width : AddressWidth} {text : String}
    {address : Nat} :
    width.readAddress text = .ok address ↔
      AddressText text address ∧ address ≤ width.maxAddress := by
  have within := width.maxAddress_le_operandLimit
  have accepted : width.readAddress text = .ok address ↔
      readOctal (String.ofList (unmarked (trim text.toList))) = .ok address ∧
        address ≤ width.maxAddress := by
    rw [readAddress]
    split <;> rename_i outcome <;> rw [outcome]
    · rename_i result
      rw [Except.ok.injEq]
      split
      · rename_i fits
        rw [Except.ok.injEq]
        exact ⟨fun same => ⟨same, same ▸ fits⟩, fun accepted => accepted.1⟩
      · rename_i exceeds
        exact ⟨nofun, fun accepted => absurd (accepted.1 ▸ accepted.2) exceeds⟩
    all_goals exact ⟨nofun, fun accepted => nomatch accepted.1⟩
  rw [accepted, readOctal_unmarked_eq_ok, and_assoc]
  exact and_congr_right fun _ =>
    ⟨fun bounds => bounds.2, fun fits => ⟨by omega, fits⟩⟩

end AddressWidth

/-- What the readers accept, and with which value: a data word may be a
character constant, and all else are operands whose value passes the reader's
test. -/
theorem readers_accept (text : String) (value : Nat) :
    (Text.readWord text = .ok value ↔
      (∃ c, text.toList = ['\'', c] ∧ c.toNat < 128 ∧ value = c.toNat) ∨
        (text.toList.head? ≠ some '\'' ∧ Text.Operand 8 text value ∧
          value ≤ 0xffff)) ∧
    (Text.readInterruptLevel text = .ok value ↔
      Text.Operand 8 text value ∧ 4 ≤ value ∧ value ≤ 7) ∧
    (∀ limit, Text.readInterruptVector text limit = .ok value ↔
      Text.Operand 8 text value ∧ value ≤ limit ∧ value < 2 ^ 32 ∧ 4 ∣ value) ∧
    (∀ width : AddressWidth, width.readAddress text = .ok value ↔
      AddressWidth.AddressText text value ∧ value ≤ width.maxAddress) ∧
    (Text.readPrioritySlot text = .ok value ↔
      Text.Operand 10 text value ∧ 1 ≤ value ∧ value ≤ 31) ∧
    Text.readWord (Text.octalWord value) =
      if value ≤ 0xffff then .ok value else .error (.malformed "??????") := by
  refine ⟨Text.readWord_eq_ok, Text.readInterruptLevel_eq_ok, ?_, ?_,
    Text.readPrioritySlot_eq_ok, Text.readWord_octalWord value⟩
  · exact fun limit => Text.readInterruptVector_eq_ok
  · exact fun width => AddressWidth.readAddress_eq_ok

-- A blank is a character constant like any other.
example : Text.readWord "' " = .ok 32 := rfl

example : AddressWidth.bits18.readAddress " io +760000" = .ok 0x3e000 := rfl

end Backplane
