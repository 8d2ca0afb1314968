import Backplane.Exerciser.Run

/-!
# Words of an accepted range

The two range checks accept the same ranges, up to the length of a buffer.  An
accepted range is a row of consecutive words inside the address space.
-/

namespace Backplane

theorem AddressWidth.maxAddress_lt (width : AddressWidth) :
    width.maxAddress < 0x400000 := by
  cases width <;> decide

/-- The last byte of the address space is the second one of its word. -/
theorem AddressWidth.maxAddress_mod_two (width : AddressWidth) :
    width.maxAddress % 2 = 1 := by
  cases width <;> decide

theorem AddressWidth.byteCount_eq (width : AddressWidth) :
    width.byteCount = width.maxAddress + 1 := by
  cases width <;> decide

/-- The io page follows the last word of memory. -/
theorem AddressWidth.memoryEnd_add_two (width : AddressWidth) :
    width.memoryEnd + 2 = width.ioPageStart := by
  cases width <;> decide

theorem AddressWidth.ioPageStart_mod_two (width : AddressWidth) :
    width.ioPageStart % 2 = 0 := by
  cases width <;> decide

namespace AddressRange

variable {range : AddressRange}

theorem isWellFormed_iff :
    range.isWellFormed = true ↔
      range.first % 2 = 0 ∧ range.last % 2 = 0 ∧ range.first ≤ range.last := by
  simp [isWellFormed, and_assoc]

theorem isWellFormed_eq_false_iff {first last : Nat} :
    isWellFormed ⟨first, last⟩ = false ↔
      first % 2 = 1 ∨ last % 2 = 1 ∨ last < first := by
  rw [← Bool.not_eq_true, isWellFormed_iff]
  simp only
  omega

theorem first_eq_two_mul (wellFormed : range.isWellFormed = true) :
    range.first = 2 * range.firstWord := by
  have ends := isWellFormed_iff.mp wellFormed
  simp only [firstWord]
  omega

theorem last_eq_two_mul (wellFormed : range.isWellFormed = true) :
    range.last = 2 * range.lastWord := by
  have ends := isWellFormed_iff.mp wellFormed
  simp only [lastWord]
  omega

theorem firstWord_add_wordCount (wellFormed : range.isWellFormed = true) :
    range.firstWord + range.wordCount = range.lastWord + 1 := by
  have ends := isWellFormed_iff.mp wellFormed
  simp only [firstWord, wordCount, lastWord]
  omega

theorem first_add_wordCount (wellFormed : range.isWellFormed = true) :
    range.first + 2 * range.wordCount = range.last + 2 := by
  have count := firstWord_add_wordCount wellFormed
  have first := first_eq_two_mul wellFormed
  have last := last_eq_two_mul wellFormed
  omega

theorem mem_words (wellFormed : range.isWellFormed = true) {word : Nat} :
    word ∈ range.words ↔ range.firstWord ≤ word ∧ word ≤ range.lastWord := by
  have ends := firstWord_add_wordCount wellFormed
  simp only [words, List.mem_range'_1]
  omega

end AddressRange

namespace Dma.Engine

theorem checkRange_eq_ok {width : AddressWidth} {range : AddressRange}
    {bufferWords : Nat} :
    checkRange width range bufferWords = .ok () ↔
      range.isWellFormed = true ∧ range.last ≤ width.maxAddress ∧
        range.lastWord < bufferWords := by
  rw [checkRange]
  split
  · simp_all
  · split
    · constructor
      · intro impossible
        cases impossible
      · intro valid
        omega
    · split
      · constructor
        · intro impossible
          cases impossible
        · intro valid
          omega
      · simp_all

/-- An accepted range as a part of its buffer. -/
structure AcceptedWords (range : AddressRange) (bufferWords : Nat) : Prop where
  start : range.first = 2 * range.firstWord
  positive : 0 < range.wordCount
  covered : range.firstWord + range.wordCount ≤ bufferWords
  bounded : range.wordCount < RandomSource.wordRange

theorem acceptedWords {width : AddressWidth} {range : AddressRange}
    {bufferWords : Nat}
    (accepted : checkRange width range bufferWords = .ok ()) :
    AcceptedWords range bufferWords := by
  obtain ⟨wellFormed, inSpace, covered⟩ := checkRange_eq_ok.mp accepted
  have ends := AddressRange.firstWord_add_wordCount wellFormed
  have last := AddressRange.last_eq_two_mul wellFormed
  have space := width.maxAddress_lt
  refine ⟨AddressRange.first_eq_two_mul wellFormed, Nat.succ_pos _,
    by omega, ?_⟩
  simp only [RandomSource.wordRange]
  omega

end Dma.Engine

namespace Exerciser

theorem checkRange_eq_ok {width : AddressWidth} {range : AddressRange} :
    checkRange width range = .ok () ↔
      range.isWellFormed = true ∧ range.last ≤ width.maxAddress := by
  rw [checkRange]
  split
  · simp_all
  · split
    · constructor
      · intro impossible
        cases impossible
      · intro valid
        omega
    · simp_all

/-- What the exerciser accepts, its engine accepts for buffers that are long
enough. -/
theorem engine_checkRange {width : AddressWidth} {range : AddressRange}
    {bufferWords : Nat} (accepted : checkRange width range = .ok ())
    (covered : bufferWords = range.lastWord + 1) :
    Dma.Engine.checkRange width range bufferWords = .ok () := by
  obtain ⟨wellFormed, inSpace⟩ := checkRange_eq_ok.mp accepted
  exact Dma.Engine.checkRange_eq_ok.mpr ⟨wellFormed, inSpace, by omega⟩

end Exerciser

end Backplane
