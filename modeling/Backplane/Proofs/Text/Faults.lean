import Backplane.Proofs.Text.Operand

/-!
# What is wrong with an operand

A text that is not accepted is empty between its blanks, no numeral, or a
numeral whose value does not pass.  The readers tell these apart, with one
exception: digits that lead past every operand are taken for a number out of
range, whatever stands behind them.
-/

namespace Backplane

namespace Text

theorem Numeral.unique {radix left right : Nat} {chars : List Char}
    (first : Numeral radix chars left) (second : Numeral radix chars right) :
    left = right := by
  rw [(numeral_iff.mp first).2.2, (numeral_iff.mp second).2.2]

theorem Exceeds.lt_of_numeral {radix limit value : Nat} {chars : List Char}
    (exceeds : Exceeds radix limit chars) (decimal : radix ≤ 10)
    (numeral : Numeral radix chars value) : limit < value := by
  apply Nat.lt_of_not_le
  intro within
  have accepted := (readNumeral_eq_ok decimal).mpr ⟨numeral, within⟩
  rw [(readNumeral_eq_tooLarge decimal).mpr exceeds] at accepted
  cases accepted

/-- What a reader asks of the value of an operand, and what it shows of a value
that it refuses. -/
structure OperandRule where
  radix : Nat
  accepts : Nat → Prop
  shows : Nat → Nat
  decimal : radix ≤ 10
  held : ∀ value, accepts value → value ≤ 0xffffffff
  /-- Values that no operand can hold are shown alike. -/
  saturates : ∀ value, 0xffffffff ≤ value → shows value = shows 0xffffffff

namespace OperandRule

/-- Refused values are shown as far as an operand can hold them. -/
def capped (radix : Nat) (accepts : Nat → Prop) (decimal : radix ≤ 10)
    (held : ∀ value, accepts value → value ≤ 0xffffffff) : OperandRule where
  radix := radix
  accepts := accepts
  shows value := min value 0xffffffff
  decimal := decimal
  held := held
  saturates value large := by omega

/-- Every value that an operand can hold. -/
def any (radix : Nat) (decimal : radix ≤ 10) : OperandRule :=
  capped radix (· ≤ 0xffffffff) decimal fun _ within => within

def word : OperandRule :=
  capped 8 (· ≤ 0xffff) (by decide) fun value within =>
    Nat.le_trans within (by decide : 0xffff ≤ 0xffffffff)

def interruptLevel : OperandRule :=
  capped 8 (fun level => 4 ≤ level ∧ level ≤ 7) (by decide) fun value within =>
    Nat.le_trans within.2 (by decide : 7 ≤ 0xffffffff)

def interruptVector (limit : Nat) : OperandRule :=
  capped 8 (fun vector => vector ≤ limit ∧ vector < 2 ^ 32 ∧ 4 ∣ vector)
    (by decide) fun value within => Nat.le_of_lt_succ within.2.1

def prioritySlot : OperandRule :=
  capped 10 (fun slot => 1 ≤ slot ∧ slot ≤ 31) (by decide) fun value within =>
    Nat.le_trans within.2 (by decide : 31 ≤ 0xffffffff)

/-- An address past the end is shown as the end of the address space. -/
def address (width : AddressWidth) : OperandRule where
  radix := 8
  accepts := (· ≤ width.maxAddress)
  shows _ := width.maxAddress
  decimal := by decide
  held value within := Nat.le_trans within width.maxAddress_le_operandLimit
  saturates _ _ := rfl

end OperandRule

/-! ## How a reading ends -/

/-- The result of reading `core` under a rule, with the texts that errors
quote. -/
inductive Reading (rule : OperandRule) (core : List Char)
    (text quoted : String) : Except ParseError Nat → Prop where
  | accepted {value : Nat} (numeral : Numeral rule.radix core value)
      (passes : rule.accepts value) : Reading rule core text quoted (.ok value)
  | refused {value : Nat} (numeral : Numeral rule.radix core value)
      (within : value ≤ 0xffffffff) (fails : ¬ rule.accepts value) :
      Reading rule core text quoted
        (.error (.outOfRange text (rule.shows value)))
  | exceeding (exceeds : Exceeds rule.radix 0xffffffff core) :
      Reading rule core text quoted
        (.error (.outOfRange text (rule.shows 0xffffffff)))
  | empty (nothing : core = []) : Reading rule core text quoted (.error .empty)
  | malformed (something : core ≠ [])
      (foreign : ∀ value, ¬ Numeral rule.radix core value)
      (bounded : ¬ Exceeds rule.radix 0xffffffff core) :
      Reading rule core text quoted (.error (.malformed quoted))

theorem readOperand_reading (rule : OperandRule) (text : String) :
    Reading (.any rule.radix rule.decimal) (trim text.toList) text text
      (readOperand rule.radix text) := by
  rw [readOperand]
  split
  · rename_i nothing
    exact .empty (List.isEmpty_iff.mp nothing)
  · rename_i something
    split
    · rename_i value read
      obtain ⟨numeral, within⟩ := (readNumeral_eq_ok rule.decimal).mp read
      exact .accepted numeral within
    · rename_i read
      have bounded : ¬ Exceeds rule.radix 0xffffffff (trim text.toList) := by
        intro exceeds
        cases read.symm.trans
          ((readNumeral_eq_tooLarge rule.decimal).mpr exceeds)
      refine .malformed
        (fun nothing => something (List.isEmpty_iff.mpr nothing)) ?_ bounded
      intro value numeral
      rcases Nat.lt_or_ge 0xffffffff value with large | within
      · exact bounded ⟨_, value, List.prefix_rfl, numeral, large⟩
      · cases read.symm.trans
          ((readNumeral_eq_ok rule.decimal).mpr ⟨numeral, within⟩)
    · rename_i read
      have exceeds := (readNumeral_eq_tooLarge rule.decimal).mp read
      have shown : operandLimit =
          (OperandRule.any rule.radix rule.decimal).shows 0xffffffff := rfl
      rw [shown]
      exact .exceeding exceeds

/-- A test of the value that was read narrows the rule. -/
theorem Reading.accepting {rule : OperandRule} {core : List Char}
    {text quoted : String} {read : Except ParseError Nat}
    {acceptable : Nat → Bool}
    (reading : Reading (.any rule.radix rule.decimal) core text quoted read)
    (tests : ∀ value ≤ 0xffffffff, acceptable value = true ↔ rule.accepts value)
    (shows : ∀ value ≤ 0xffffffff, rule.shows value = value) :
    Reading rule core text quoted
      (do Text.accepting text acceptable (← read)) := by
  cases reading with
  | @accepted value numeral within =>
      change Reading rule core text quoted
        (Text.accepting text acceptable value)
      rw [Text.accepting]
      split
      · rename_i passes
        exact .accepted numeral ((tests value within).mp passes)
      · rename_i fails
        have refused : Reading rule core text quoted
            (.error (.outOfRange text (rule.shows value))) :=
          .refused numeral within fun passes =>
            fails ((tests value within).mpr passes)
        rw [shows value within] at refused
        exact refused
  | refused _ within fails => exact absurd within fails
  | exceeding exceeds =>
      have shown : (OperandRule.any rule.radix rule.decimal).shows 0xffffffff =
          rule.shows 0xffffffff := (shows 0xffffffff (Nat.le_refl _)).symm
      rw [shown]
      exact .exceeding exceeds
  | empty nothing => exact .empty nothing
  | malformed something foreign bounded =>
      exact .malformed something foreign bounded

section Readers

variable (text : String)

/-- A data word that is no character constant. -/
theorem readOctal_word_reading :
    Reading .word (trim text.toList) text text
      (do Text.accepting text (· ≤ 0xffff) (← readOctal text)) :=
  (readOperand_reading .word text).accepting
    (by simp [OperandRule.word, OperandRule.capped])
    (fun _ within => Nat.min_eq_left within)

theorem readWord_reading (plain : text.toList.head? ≠ some '\'') :
    Reading .word (trim text.toList) text text (readWord text) := by
  unfold readWord
  split
  · rename_i constant
    exact absurd (congrArg List.head? constant) plain
  · rename_i constant
    exact absurd (congrArg List.head? constant) plain
  · rename_i constant
    exact absurd (congrArg List.head? constant) plain
  · exact readOctal_word_reading text

theorem readInterruptLevel_reading :
    Reading .interruptLevel (trim text.toList) text text
      (readInterruptLevel text) :=
  (readOperand_reading .interruptLevel text).accepting
    (by simp [OperandRule.interruptLevel, OperandRule.capped])
    (fun _ within => Nat.min_eq_left within)

theorem readInterruptVector_reading (limit : Nat) :
    Reading (.interruptVector limit) (trim text.toList) text text
      (readInterruptVector text limit) := by
  refine (readOperand_reading (.interruptVector limit) text).accepting ?_
    fun _ within => Nat.min_eq_left within
  intro value within
  change (decide (value ≤ limit) && value % 4 == 0) = true ↔
    value ≤ limit ∧ value < 2 ^ 32 ∧ 4 ∣ value
  have short : value < 2 ^ 32 := Nat.lt_succ_of_le within
  rw [Bool.and_eq_true, decide_eq_true_eq, beq_iff_eq, Nat.dvd_iff_mod_eq_zero,
    and_iff_right short]

theorem readPrioritySlot_reading :
    Reading .prioritySlot (trim text.toList) text text
      (readPrioritySlot text) :=
  (readOperand_reading .prioritySlot text).accepting
    (by simp [OperandRule.prioritySlot, OperandRule.capped])
    (fun _ within => Nat.min_eq_left within)

/-- An address behind its mark is trimmed once more, and an error of that inner
text is passed on where it is no matter of range. -/
theorem readAddress_reading (width : AddressWidth) {digits : List Char}
    (split : AddressWidth.unmarked (trim text.toList) = digits) :
    Reading (.address width) (trim digits) text (String.ofList digits)
      (width.readAddress text) := by
  have inner := readOperand_reading (.address width) (String.ofList digits)
  rw [String.toList_ofList] at inner
  rw [AddressWidth.readAddress, split, readOctal]
  change Reading _ _ _ _ (readOperand 8 (String.ofList digits)) at inner
  generalize readOperand 8 (String.ofList digits) = read at inner
  cases inner with
  | @accepted value numeral within =>
      dsimp only
      split
      · rename_i passes
        exact .accepted numeral passes
      · rename_i fails
        exact .refused numeral within fails
  | refused _ within fails => exact absurd within fails
  | exceeding exceeds => exact .exceeding exceeds
  | empty nothing => exact .empty nothing
  | malformed something foreign bounded =>
      exact .malformed something foreign bounded

end Readers

/-! ## Classes of errors -/

/-- The classes of errors.  Nothing to read is told apart from something that is
no numeral, and this from a numeral whose value does not pass. -/
structure Classified (rule : OperandRule) (core : List Char)
    (result : Except ParseError Nat) : Prop where
  empty_iff : result = .error .empty ↔ core = []
  malformed_iff : (∃ quoted, result = .error (.malformed quoted)) ↔
    core ≠ [] ∧ ∀ value, ¬ Numeral rule.radix core value
  outOfRange_iff : ∀ shown,
    (∃ quoted, result = .error (.outOfRange quoted shown)) ↔
    ∃ value, Numeral rule.radix core value ∧ ¬ rule.accepts value ∧
    shown = rule.shows value

/-- A text that is no numeral, but begins with digits that no operand can
hold. -/
def Overrun (radix : Nat) (core : List Char) : Prop :=
  (∀ value, ¬ Numeral radix core value) ∧ Exceeds radix 0xffffffff core

/-- Errors are told apart by their classes, but for an overrun, which is taken
for a value out of range. -/
structure Judged (rule : OperandRule) (core : List Char)
    (result : Except ParseError Nat) : Prop where
  classified : ¬ Overrun rule.radix core → Classified rule core result
  overrun : Overrun rule.radix core →
    ∃ quoted, result = .error (.outOfRange quoted (rule.shows 0xffffffff))

/-- A numeral decides the class by its value. -/
theorem Numeral.classified {rule : OperandRule} {core : List Char} {value : Nat}
    {text : String} (numeral : Numeral rule.radix core value)
    (fails : ¬ rule.accepts value) :
    Classified rule core (.error (.outOfRange text (rule.shows value))) where
  empty_iff := ⟨nofun, fun nothing => absurd nothing numeral.ne_nil⟩
  malformed_iff := ⟨nofun, fun foreign => absurd numeral (foreign.2 value)⟩
  outOfRange_iff shown := by
    constructor
    · rintro ⟨quoted, same⟩
      cases same
      exact ⟨value, numeral, fails, rfl⟩
    · rintro ⟨other, written, _, rfl⟩
      obtain rfl := written.unique numeral
      exact ⟨text, rfl⟩

theorem Reading.classified {rule : OperandRule} {core : List Char}
    {text quoted : String} {result : Except ParseError Nat}
    (reading : Reading rule core text quoted result)
    (honest : ¬ Overrun rule.radix core) : Classified rule core result := by
  cases reading with
  | @accepted value numeral passes =>
      refine ⟨⟨nofun, fun nothing => absurd nothing numeral.ne_nil⟩,
        ⟨nofun, fun foreign => absurd numeral (foreign.2 value)⟩,
        fun shown => ⟨nofun, ?_⟩⟩
      rintro ⟨other, written, fails, _⟩
      obtain rfl := written.unique numeral
      exact absurd passes fails
  | refused numeral _ fails => exact numeral.classified fails
  | exceeding exceeds =>
      -- No overrun, so the digits that exceed belong to a numeral as a whole.
      have whole : ∃ value, Numeral rule.radix core value := by
        apply Classical.byContradiction
        intro foreign
        exact honest ⟨not_exists.mp foreign, exceeds⟩
      obtain ⟨value, numeral⟩ := whole
      have large := exceeds.lt_of_numeral rule.decimal numeral
      rw [← rule.saturates value (Nat.le_of_lt large)]
      exact numeral.classified fun passes =>
        absurd (rule.held value passes) (Nat.not_le.mpr large)
  | empty nothing =>
      refine ⟨iff_of_true rfl nothing,
        ⟨nofun, fun foreign => absurd nothing foreign.1⟩,
        fun shown => ⟨nofun, ?_⟩⟩
      rintro ⟨_, numeral, _⟩
      exact absurd nothing numeral.ne_nil
  | malformed something foreign =>
      refine ⟨⟨nofun, fun nothing => absurd nothing something⟩,
        iff_of_true ⟨_, rfl⟩ ⟨something, foreign⟩, fun shown => ⟨nofun, ?_⟩⟩
      rintro ⟨value, numeral, _⟩
      exact absurd numeral (foreign value)

theorem Reading.judged {rule : OperandRule} {core : List Char}
    {text quoted : String} {result : Except ParseError Nat}
    (reading : Reading rule core text quoted result) :
    Judged rule core result where
  classified := reading.classified
  overrun := by
    rintro ⟨foreign, exceeds⟩
    cases reading with
    | accepted numeral | refused numeral => exact absurd numeral (foreign _)
    | exceeding => exact ⟨text, rfl⟩
    | empty nothing =>
        obtain ⟨leading, _, leads, numeral, _⟩ := exceeds
        rw [nothing] at leads
        exact absurd (List.prefix_nil.mp leads) numeral.ne_nil
    | malformed _ _ bounded => exact absurd exceeds bounded

/-- How the readers tell errors apart.  Between the blanks of an operand, and
behind the mark of an address, nothing is left, or something that is no numeral,
or a numeral that does not pass; only leading digits beyond every operand hide
what stands behind them. -/
theorem readers_judge (text : String) :
    (∃ core, TrimsTo text.toList core ∧
      (text.toList.head? ≠ some '\'' → Judged .word core (readWord text)) ∧
      Judged .interruptLevel core (readInterruptLevel text) ∧
      (∀ limit, Judged (.interruptVector limit) core
        (readInterruptVector text limit)) ∧
      Judged .prioritySlot core (readPrioritySlot text)) ∧
    ∀ width : AddressWidth, ∃ trimmed digits core, TrimsTo text.toList trimmed ∧
      AddressWidth.Unmarked trimmed digits ∧ TrimsTo digits core ∧
      Judged (.address width) core (width.readAddress text) := by
  refine ⟨⟨_, trim_eq_iff.mp rfl, ?_, ?_, ?_, ?_⟩, fun width => ?_⟩
  · exact fun plain => (readWord_reading text plain).judged
  · exact (readInterruptLevel_reading text).judged
  · exact fun limit => (readInterruptVector_reading text limit).judged
  · exact (readPrioritySlot_reading text).judged
  · exact ⟨_, _, _, trim_eq_iff.mp rfl, AddressWidth.unmarked_eq_iff.mp rfl,
      trim_eq_iff.mp rfl, (readAddress_reading text width rfl).judged⟩

/-- Digits that no slot can hold, with something behind them that is no
digit. -/
def strayDigits : String := "4294967296x"

theorem overrun_strayDigits : Overrun 10 strayDigits.toList := by
  refine ⟨fun value numeral => ?_, (readNumeral_eq_tooLarge (by decide)).mp rfl⟩
  obtain ⟨digit, _, same⟩ := (numeral_iff.mp numeral).2.1 'x' (by decide)
  exact Nat.digitChar_ne 'x' rfl same.symm

/-- The stray digits are reported as out of range, other texts by their
class. -/
theorem readers_judge_of_strayDigits :
    strayDigits.toList.head? ≠ some '\'' ∧
    (∃ quoted,
      readPrioritySlot strayDigits = .error (.outOfRange quoted 0xffffffff)) ∧
    ∃ core, TrimsTo strayDigits.toList core ∧
    Classified .word core (readWord strayDigits) := by
  have plain : strayDigits.toList.head? ≠ some '\'' := by decide
  obtain ⟨⟨core, trims, word, _, _, slot⟩, _⟩ := readers_judge strayDigits
  obtain rfl := (trim_eq_iff.mpr trims).symm
  refine ⟨plain, slot.overrun overrun_strayDigits, _, trims,
    (word plain).classified ?_⟩
  rintro ⟨_, exceeds⟩
  have small : readNumeral 8 operandLimit strayDigits.toList =
      .error .notNumeral := rfl
  cases small.symm.trans ((readNumeral_eq_tooLarge (by decide)).mpr exceeds)

/-- No numeral at all, and yet reported as a number out of range. -/
theorem strayDigits_not_classified :
    TrimsTo strayDigits.toList strayDigits.toList ∧
      ¬ Classified .prioritySlot strayDigits.toList
        (readPrioritySlot strayDigits) := by
  refine ⟨trim_eq_iff.mp rfl, fun classified => ?_⟩
  obtain ⟨value, numeral, _⟩ :=
    (classified.outOfRange_iff 0xffffffff).mp ⟨strayDigits, rfl⟩
  exact overrun_strayDigits.1 value numeral

end Text

end Backplane
