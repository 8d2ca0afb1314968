import Backplane.Proofs.Address.Range
import Backplane.Proofs.Memory.Block

/-!
# Words that share a cell

A shorted address line lets several words of a range select one cell.  Once the
whole range was written, the cell holds what its last writer left there, and
each of the words shows it with the bits that are stuck at its own address.
-/

namespace Backplane.MemoryBoard

/-- Every word of a range selects an installed cell. -/
def Installed (board : MemoryBoard) (range : AddressRange) : Prop :=
  ∀ word ∈ range.words, board.answers (2 * word) = true

/-- A word is the last one of a range that selects the cell of `word`. -/
structure IsLastWriter (board : MemoryBoard) (range : AddressRange)
    (word writer : Nat) : Prop where
  inside : writer ∈ range.words
  sameCell : board.select? (2 * writer) = board.select? (2 * word)
  last : ∀ other ∈ range.words,
    board.select? (2 * other) = board.select? (2 * word) → other ≤ writer

/-- The last word of a range that selects the cell of `word`. -/
def lastWriter (board : MemoryBoard) (range : AddressRange) (word : Nat) :
    Nat :=
  (range.words.filter fun other =>
    board.select? (2 * other) == board.select? (2 * word)).getLastD word

/-- What a range shows at a word after a pattern was written to it. -/
def shown (board : MemoryBoard) (range : AddressRange) (pattern : Array UInt16)
    (word : Nat) : UInt16 :=
  pattern.getD (board.lastWriter range word) 0 ||| board.stuckAt (2 * word)

/-- The words of a range that do not show what was written, ascending. -/
def faultyWords (board : MemoryBoard) (range : AddressRange)
    (pattern : Array UInt16) : List Nat :=
  range.words.filter fun word => pattern.getD word 0 != board.shown
    range pattern word

/-- What the last writer of its cell wrote at a word, with the bits that are
stuck at the word, is not what a pattern has there. -/
def IsFaulty (board : MemoryBoard) (range : AddressRange)
    (pattern : Array UInt16) (word : Nat) : Prop :=
  ∃ writer, board.IsLastWriter range word writer ∧
    pattern.getD writer 0 ||| board.stuckBits.getD word 0 ≠ pattern.getD word 0

/-- Reading a range delivers what it shows of a pattern. -/
def Shows (board : MemoryBoard) (range : AddressRange)
    (pattern : Array UInt16) : Prop :=
  ∀ word ∈ range.words, board.deliver (2 * word) =
    board.shown range pattern word

namespace SameWiring

variable {left right : MemoryBoard}

theorem installed (same : SameWiring left right) {range : AddressRange}
    (installed : right.Installed range) : left.Installed range := by
  intro word inside
  rw [same.answers]
  exact installed word inside

theorem lastWriter (same : SameWiring left right) (range : AddressRange)
    (word : Nat) :
    left.lastWriter range word = right.lastWriter range word := by
  simp only [MemoryBoard.lastWriter, same.select?]

theorem shown (same : SameWiring left right) (range : AddressRange)
    (pattern : Array UInt16) (word : Nat) :
    left.shown range pattern word = right.shown range pattern word := by
  simp only [MemoryBoard.shown, same.lastWriter, same.stuckAt]

end SameWiring

theorem Installed.answered {board : MemoryBoard} {range : AddressRange}
    (installed : board.Installed range) :
    board.answered (2 * range.firstWord) range.wordCount = range.wordCount := by
  apply answered_eq_self_iff.mpr
  intro index before
  have address : 2 * range.firstWord + 2 * index =
      2 * (range.firstWord + index) := by
    omega
  rw [address]
  exact installed _ (List.mem_range'_1.mpr (by omega))

/-! ## The last writer -/

theorem isLastWriter_lastWriter {board : MemoryBoard} {range : AddressRange}
    {word : Nat} (inside : word ∈ range.words) :
    board.IsLastWriter range word (board.lastWriter range word) := by
  have ascending : (range.words.filter fun other =>
      board.select? (2 * other) == board.select? (2 * word)).Pairwise (· < ·) :=
    List.Pairwise.filter _ List.pairwise_lt_range'
  have memberIff (other : Nat) : other ∈ (range.words.filter fun other =>
      board.select? (2 * other) == board.select? (2 * word)) ↔
        other ∈ range.words ∧ board.select? (2 * other) =
        board.select? (2 * word) := by
    simp
  have nonempty := List.ne_nil_of_mem ((memberIff word).mpr ⟨inside, rfl⟩)
  have writer : board.lastWriter range word = List.getLast _ nonempty := by
    rw [lastWriter, List.getLastD_eq_getLast?,
      List.getLast?_eq_some_getLast nonempty]
    rfl
  have written := (memberIff _).mp (List.getLast_mem nonempty)
  rw [← List.dropLast_concat_getLast nonempty, List.pairwise_append]
    at ascending
  rw [writer]
  refine ⟨written.1, written.2, ?_⟩
  intro other otherInside sameCell
  have member := (memberIff other).mpr ⟨otherInside, sameCell⟩
  rw [← List.dropLast_concat_getLast nonempty, List.mem_append] at member
  rcases member with before | here
  · exact Nat.le_of_lt
      (ascending.2.2 other before _ (List.mem_singleton_self _))
  · exact Nat.le_of_eq (List.mem_singleton.mp here)

theorem IsLastWriter.unique {board : MemoryBoard} {range : AddressRange}
    {word first second : Nat} (left : board.IsLastWriter range word first)
    (right : board.IsLastWriter range word second) : first = second :=
  Nat.le_antisymm (right.last first left.inside left.sameCell)
    (left.last second right.inside right.sameCell)

theorem IsLastWriter.lastWriter_eq {board : MemoryBoard} {range : AddressRange}
    {word writer : Nat} (inside : word ∈ range.words)
    (isLast : board.IsLastWriter range word writer) :
    board.lastWriter range word = writer :=
  (isLastWriter_lastWriter inside).unique isLast

theorem IsLastWriter.isFaulty_iff {board : MemoryBoard} {range : AddressRange}
    {pattern : Array UInt16} {word writer : Nat}
    (isLast : board.IsLastWriter range word writer) :
    board.IsFaulty range pattern word ↔
      pattern.getD writer 0 ||| board.stuckBits.getD word 0 ≠
        pattern.getD word 0 := by
  constructor
  · rintro ⟨other, otherLast, differ⟩
    rwa [otherLast.unique isLast] at differ
  · exact fun differ => ⟨writer, isLast, differ⟩

theorem stuckAt_word (board : MemoryBoard) (word : Nat) :
    board.stuckAt (2 * word) = board.stuckBits.getD word 0 := by
  rw [stuckAt, Nat.mul_div_cancel_left word Nat.two_pos]

theorem mem_faultyWords {board : MemoryBoard} {range : AddressRange}
    {pattern : Array UInt16} {word : Nat} :
    word ∈ board.faultyWords range pattern ↔
      word ∈ range.words ∧ board.IsFaulty range pattern word := by
  rw [faultyWords, List.mem_filter, bne_iff_ne, ne_comm]
  refine and_congr_right fun inside => ?_
  rw [(isLastWriter_lastWriter inside).isFaulty_iff, shown, stuckAt_word]

theorem nodup_faultyWords (board : MemoryBoard) (range : AddressRange)
    (pattern : Array UInt16) : (board.faultyWords range pattern).Nodup :=
  List.Nodup.sublist List.filter_sublist List.nodup_range'

/-- A range shows a pattern as it is where none of its words is faulty. -/
theorem faultyWords_eq_nil_iff {board : MemoryBoard} {range : AddressRange}
    {pattern : Array UInt16} :
    board.faultyWords range pattern = [] ↔
      ∀ word ∈ range.words, ¬ board.IsFaulty range pattern word := by
  rw [List.eq_nil_iff_forall_not_mem]
  simp only [mem_faultyWords, not_and]

/-! ## The content of a cell -/

theorem select?_of_answers {board : MemoryBoard} {address : Nat}
    (answers : board.answers address = true) :
    board.select? address = some (board.driven address / 2) := by
  simp only [MemoryBoard.answers, select?] at answers ⊢
  split
  · rfl
  · rename_i outside
    rw [if_neg outside] at answers
    cases answers

theorem lt_size_of_select? {board : MemoryBoard} {address cell : Nat}
    (selected : board.select? address = some cell) :
    cell < board.cells.size := by
  simp only [select?] at selected
  split at selected
  · rename_i inside
    cases selected
    exact inside
  · cases selected

/-- Of two writes to a cell the second decides. -/
theorem merge_merge (cycle : Cycle) (content first second : UInt16) :
    merge cycle (merge cycle content first) second =
      merge cycle content second := by
  have highByte : ((content &&& 0xff00) ||| (first &&& 0x00ff)) &&& 0xff00 =
      content &&& 0xff00 := by
    have distributed :
        ((content &&& 0xff00) ||| (first &&& 0x00ff)) &&& 0xff00 =
        (content &&& 0xff00 &&& 0xff00) ||| (first &&& 0x00ff &&& 0xff00) :=
      UInt16.toBitVec_inj.mp BitVec.and_or_distrib_right
    have apart : (0x00ff : UInt16) &&& 0xff00 = 0 := rfl
    rw [distributed, UInt16.and_assoc, UInt16.and_self, UInt16.and_assoc, apart,
      UInt16.and_zero, UInt16.or_zero]
  unfold merge
  split
  · rw [highByte]
  · rfl

theorem cell_accept_of_selected {board : MemoryBoard} {address cell : Nat}
    (selected : board.select? address = some cell) (cycle : Cycle)
    (value : UInt16) :
    (board.accept cycle address value).cell cell =
      merge cycle (board.cell cell) value := by
  have installed := lt_size_of_select? selected
  simp [accept, selected, store, MemoryBoard.cell, installed]

theorem cell_accept_of_not_selected {board : MemoryBoard} {address cell : Nat}
    (elsewhere : board.select? address ≠ some cell) (cycle : Cycle)
    (value : UInt16) :
    (board.accept cycle address value).cell cell = board.cell cell := by
  simp only [accept]
  split
  · rename_i other selected
    have different : other ≠ cell := by
      intro same
      exact elsewhere (same ▸ selected)
    simp [store, MemoryBoard.cell, Array.getElem?_setIfInBounds_ne different]
  · rfl

section Row

variable {board : MemoryBoard} {cycle : Cycle} {base : Nat}
  {words : Array UInt16} {first count cell : Nat}

/-- Where no word of a row selects it, a cell keeps its content. -/
theorem cell_acceptWords_of_untouched
    (untouched : ∀ other, first ≤ other → other < first + count →
      board.select? (base + 2 * other) ≠ some cell) :
    (board.acceptWords cycle base words first count).cell cell =
      board.cell cell := by
  induction count with
  | zero => rfl
  | succ count induction =>
      have wiring := board.acceptWords_sameWiring cycle base words first count
      have elsewhere := untouched (first + count) (by omega) (by omega)
      rw [acceptWords_succ,
        cell_accept_of_not_selected (by rw [wiring.select?]; exact elsewhere)]
      exact induction fun other behind before =>
        untouched other behind (by omega)

/-- No row of writes shows in a cell behind one more write to it. -/
theorem merge_cell_acceptWords (value : UInt16) :
    merge cycle ((board.acceptWords cycle base words first count).cell cell)
      value = merge cycle (board.cell cell) value := by
  induction count with
  | zero => rfl
  | succ count induction =>
      have wiring := board.acceptWords_sameWiring cycle base words first count
      rw [acceptWords_succ]
      by_cases selected : board.select? (base + 2 * (first + count)) = some cell
      · rw [cell_accept_of_selected (by rw [wiring.select?]; exact selected),
          merge_merge, induction]
      · rw [cell_accept_of_not_selected
          (by rw [wiring.select?]; exact selected), induction]

/-- A cell keeps what the last of a row of writes left there. -/
theorem cell_acceptWords {writer : Nat}
    (inside : first ≤ writer ∧ writer < first + count)
    (selected : board.select? (base + 2 * writer) = some cell)
    (last : ∀ other, writer < other → other < first + count →
      board.select? (base + 2 * other) ≠ some cell) :
    (board.acceptWords cycle base words first count).cell cell =
      merge cycle (board.cell cell) (words.getD writer 0) := by
  induction count with
  | zero => omega
  | succ count induction =>
      have wiring := board.acceptWords_sameWiring cycle base words first count
      rw [acceptWords_succ]
      by_cases here : writer = first + count
      · rw [here] at selected
        rw [cell_accept_of_selected (by rw [wiring.select?]; exact selected),
          merge_cell_acceptWords, here]
      · have elsewhere := last (first + count) (by omega) (by omega)
        rw [cell_accept_of_not_selected
          (by rw [wiring.select?]; exact elsewhere)]
        exact induction (by omega) fun other behind before =>
          last other behind (by omega)

end Row

/-- After a range was written, it shows the pattern. -/
theorem shows_acceptWords {board : MemoryBoard} {range : AddressRange}
    (pattern : Array UInt16) (installed : board.Installed range) :
    (board.acceptWords .dataOut 0 pattern range.firstWord range.wordCount).Shows
      range pattern := by
  intro word inside
  have wiring := board.acceptWords_sameWiring .dataOut 0 pattern range.firstWord
    range.wordCount
  have selected := select?_of_answers (installed word inside)
  have writer : board.IsLastWriter range word (board.lastWriter range word) :=
    isLastWriter_lastWriter inside
  have content : (board.acceptWords .dataOut 0 pattern range.firstWord
      range.wordCount).cell (board.driven (2 * word) / 2) =
        pattern.getD (board.lastWriter range word) 0 := by
    apply cell_acceptWords (List.mem_range'_1.mp writer.inside)
    · rw [Nat.zero_add]
      exact writer.sameCell.trans selected
    · intro other behind before sameCell
      rw [Nat.zero_add] at sameCell
      have ends := List.mem_range'_1.mp writer.inside
      have bound := writer.last other (List.mem_range'_1.mpr (by omega))
        (sameCell.trans selected.symm)
      omega
  rw [deliver, wiring.driven, content, wiring.shown, wiring.stuckAt, shown]

end Backplane.MemoryBoard
