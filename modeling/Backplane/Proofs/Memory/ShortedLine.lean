import Backplane.Proofs.Memory.Aliasing

/-!
# A shorted address line

A line that is shorted high folds the address space: a word whose address has
the line low selects the cell of the word whose address has it high.  When a
range is written in ascending order, the higher word of such a pair is the last
writer of their cell.
-/

namespace Backplane

/-- Setting a bit that is clear adds its value. -/
theorem or_shiftLeft_eq_add {number bit : Nat}
    (clear : number.testBit bit = false) :
    number ||| 1 <<< bit = number + 1 <<< bit := by
  induction bit generalizing number with
  | zero =>
      have even : number % 2 = 0 :=
        Nat.mod_two_eq_zero_iff_testBit_zero.mpr clear
      have half : (number ||| 1) / 2 = number / 2 := by
        rw [Nat.or_div_two]
        simp
      have odd : (number ||| 1) % 2 = 1 := Nat.or_mod_two_eq_one.mpr (.inr rfl)
      rw [Nat.shiftLeft_zero]
      omega
  | succ bit induction =>
      have halfClear : (number / 2).testBit bit = false := by
        rw [← Nat.testBit_succ]
        exact clear
      have half : (number ||| 1 <<< (bit + 1)) / 2 =
          number / 2 + 1 <<< bit := by
        rw [Nat.or_div_two, ← induction halfClear]
        congr 1
        omega
      have parity : (number ||| 1 <<< (bit + 1)) % 2 = 1 ↔
          number % 2 = 1 ∨ 1 <<< (bit + 1) % 2 = 1 := Nat.or_mod_two_eq_one
      omega

theorem testBit_or_shiftLeft (number bit : Nat) :
    (number ||| 1 <<< bit).testBit bit = true := by
  simp

theorem or_shiftLeft_eq_self {number bit : Nat}
    (set : number.testBit bit = true) : number ||| 1 <<< bit = number := by
  apply Nat.eq_of_testBit_eq
  intro index
  by_cases here : index = bit
  · rw [here, set, testBit_or_shiftLeft]
  · have elsewhere : (1 <<< bit).testBit index = false := by
      rw [Nat.one_shiftLeft]
      exact Nat.testBit_two_pow_of_ne (Ne.symm here)
    rw [Nat.testBit_or, elsewhere, Bool.or_false]

/-- Numbers that agree once a bit is set in both differ in that bit at most. -/
theorem or_shiftLeft_eq_iff {first second bit : Nat} :
    first ||| 1 <<< bit = second ||| 1 <<< bit ↔
      first = second ∨
      (first.testBit bit = false ∧ second = first + 1 <<< bit) ∨
        (second.testBit bit = false ∧ first = second + 1 <<< bit) := by
  constructor
  · intro same
    cases firstBit : first.testBit bit with
    | true =>
        rw [or_shiftLeft_eq_self firstBit] at same
        cases secondBit : second.testBit bit with
        | true => exact .inl (same.trans (or_shiftLeft_eq_self secondBit))
        | false =>
            exact .inr (.inr ⟨rfl, same.trans (or_shiftLeft_eq_add secondBit)⟩)
    | false =>
        rw [or_shiftLeft_eq_add firstBit] at same
        cases secondBit : second.testBit bit with
        | true =>
            exact .inr
              (.inl ⟨rfl, (same.trans (or_shiftLeft_eq_self secondBit)).symm⟩)
        | false =>
            rw [or_shiftLeft_eq_add secondBit] at same
            exact .inl (Nat.add_right_cancel same)
  · intro related
    have raised {number : Nat} (clear : number.testBit bit = false) :
        (number + 1 <<< bit) ||| 1 <<< bit = number ||| 1 <<< bit := by
      rw [← or_shiftLeft_eq_add clear]
      exact or_shiftLeft_eq_self (testBit_or_shiftLeft number bit)
    rcases related with rfl | ⟨clear, rfl⟩ | ⟨clear, rfl⟩
    · rfl
    · exact (raised clear).symm
    · exact raised clear

namespace MemoryBoard

/-- The words of a range whose address has a line low, while the range reaches
up to the address that has it high. -/
def hiddenWords (range : AddressRange) (line : Nat) : List Nat :=
  range.words.filter fun word =>
    !(2 * word).testBit line && decide (2 * word + 1 <<< line ≤ range.last)

section Shorted

variable {board : MemoryBoard} {range : AddressRange} {bit : Nat}

theorem select?_of_stuckLine (stuck : board.stuckLine? = some (bit + 1))
    {word : Nat} (answers : board.answers (2 * word) = true) :
    board.select? (2 * word) = some (word ||| 1 <<< bit) := by
  rw [select?_of_answers answers]
  simp only [driven, stuck, Nat.or_div_two]
  congr 2
  · omega
  · omega

/-- Two words share a cell if they differ in the shorted line at most. -/
theorem select?_eq_iff_of_stuckLine (stuck : board.stuckLine? = some (bit + 1))
    {first second : Nat} (firstAnswers : board.answers (2 * first) = true)
    (secondAnswers : board.answers (2 * second) = true) :
    board.select? (2 * first) = board.select? (2 * second) ↔
      first = second ∨
        (first.testBit bit = false ∧ second = first + 1 <<< bit) ∨
        (second.testBit bit = false ∧ first = second + 1 <<< bit) := by
  rw [select?_of_stuckLine stuck firstAnswers,
    select?_of_stuckLine stuck secondAnswers, Option.some.injEq]
  exact or_shiftLeft_eq_iff

theorem mem_hiddenWords (wellFormed : range.isWellFormed = true) {word : Nat} :
    word ∈ hiddenWords range (bit + 1) ↔
      word ∈ range.words ∧ word.testBit bit = false ∧
        word + 1 <<< bit ∈ range.words := by
  have last := AddressRange.last_eq_two_mul wellFormed
  have sameBit : (2 * word).testBit (bit + 1) = word.testBit bit := by
    rw [Nat.testBit_succ]
    congr 1
    omega
  have raised : 2 * word + 1 <<< (bit + 1) = 2 * (word + 1 <<< bit) := by omega
  simp only [hiddenWords, List.mem_filter, sameBit, raised, Bool.and_eq_true,
    Bool.not_eq_true', decide_eq_true_eq, AddressRange.mem_words wellFormed]
  generalize 1 <<< bit = step
  constructor
  · intro hidden
    obtain ⟨inside, clear, reaches⟩ := hidden
    exact ⟨inside, clear, by omega, by omega⟩
  · intro hidden
    obtain ⟨inside, clear, _, reaches⟩ := hidden
    exact ⟨inside, clear, by omega⟩

/-- A hidden word reads what the word above it wrote. -/
theorem lastWriter_of_hidden (stuck : board.stuckLine? = some (bit + 1))
    (installed : board.Installed range) {word : Nat}
    (inside : word ∈ range.words) (clear : word.testBit bit = false)
    (reaches : word + 1 <<< bit ∈ range.words) :
    board.lastWriter range word = word + 1 <<< bit := by
  have sameCell {other : Nat} (otherInside : other ∈ range.words) :=
    select?_eq_iff_of_stuckLine stuck (installed other otherInside)
      (installed word inside)
  apply IsLastWriter.lastWriter_eq inside
  refine ⟨reaches, (sameCell reaches).mpr (.inr (.inr ⟨clear, rfl⟩)), ?_⟩
  intro other otherInside shared
  rcases (sameCell otherInside).mp shared with rfl | ⟨_, rfl⟩ | ⟨_, rfl⟩
  · exact Nat.le_add_right _ _
  · exact Nat.le_trans (Nat.le_add_right _ _) (Nat.le_add_right _ _)
  · exact Nat.le_refl _

theorem lastWriter_of_not_hidden (stuck : board.stuckLine? = some (bit + 1))
    (installed : board.Installed range) {word : Nat}
    (inside : word ∈ range.words)
    (alone : word.testBit bit = false → word + 1 <<< bit ∉ range.words) :
    board.lastWriter range word = word := by
  apply IsLastWriter.lastWriter_eq inside
  refine ⟨inside, rfl, ?_⟩
  intro other otherInside shared
  have sameCell :=
    select?_eq_iff_of_stuckLine stuck (installed other otherInside)
      (installed word inside)
  rcases sameCell.mp shared with rfl | ⟨_, rfl⟩ | ⟨clear, rfl⟩
  · exact Nat.le_refl _
  · exact Nat.le_add_right _ _
  · exact absurd otherInside (alone clear)

end Shorted

end MemoryBoard

end Backplane
