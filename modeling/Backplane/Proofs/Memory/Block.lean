import Backplane.Transport.Simulated

/-!
# What a block does to a board

A block moves the words before the first silent address, and nothing else.
`answered` counts them, `deliverWords` and `acceptWords` say what a read and a
write of that many words leave.  Both act on consecutive indices of a row of
words, so they describe a block on its own as well as a part of a larger
buffer.
-/

namespace Backplane

open Dma

namespace MemoryBoard

/-- Whether an address selects an installed cell. -/
def answers (board : MemoryBoard) (address : Nat) : Bool :=
  (board.select? address).isSome

/-- How many of `count` words from `start` on come before the first silent
one. -/
def answered (board : MemoryBoard) (start : Nat) : Nat → Nat
  | 0 => 0
  | count + 1 =>
    if board.answers start then board.answered (start + 2) count + 1 else 0

/-- The word that a read cycle puts on the data lines. -/
def deliver (board : MemoryBoard) (address : Nat) : UInt16 :=
  board.cell (board.driven address / 2) ||| board.stuckAt address

/-- The board after a write cycle. -/
def accept (board : MemoryBoard) (cycle : Cycle) (address : Nat)
    (value : UInt16) : MemoryBoard :=
  match board.select? address with
  | some cell => board.store cycle cell value
  | none => board

/-- A row of words whose word zero belongs to the address `base`, after `count`
words from index `first` on were read. -/
def deliverWords (board : MemoryBoard) (base : Nat) (words : Array UInt16)
    (first count : Nat) : Array UInt16 :=
  words.mapIdx fun index word =>
    if first ≤ index ∧ index < first + count then
      board.deliver (base + 2 * index)
    else word

/-- The board after `count` words from index `first` on of such a row were
written. -/
def acceptWords (board : MemoryBoard) (cycle : Cycle) (base : Nat)
    (words : Array UInt16) (first count : Nat) : MemoryBoard :=
  (List.range' first count).foldl
    (fun board index => board.accept cycle (base + 2 * index)
      (words.getD index 0)) board

/-- Two boards that differ in the content of their cells at most. -/
structure SameWiring (left right : MemoryBoard) : Prop where
  size : left.cells.size = right.cells.size
  stuckBits : left.stuckBits = right.stuckBits
  stuckLine : left.stuckLine? = right.stuckLine?

namespace SameWiring

theorem refl (board : MemoryBoard) : SameWiring board board :=
  ⟨rfl, rfl, rfl⟩

theorem trans {first second third : MemoryBoard}
    (left : SameWiring first second) (right : SameWiring second third) :
    SameWiring first third :=
  ⟨left.size.trans right.size, left.stuckBits.trans right.stuckBits,
    left.stuckLine.trans right.stuckLine⟩

variable {left right : MemoryBoard}

theorem driven (same : SameWiring left right) (address : Nat) :
    left.driven address = right.driven address := by
  unfold MemoryBoard.driven
  rw [same.stuckLine]

theorem select? (same : SameWiring left right) (address : Nat) :
    left.select? address = right.select? address := by
  unfold MemoryBoard.select?
  rw [same.driven, same.size]

theorem answers (same : SameWiring left right) (address : Nat) :
    left.answers address = right.answers address := by
  unfold MemoryBoard.answers
  rw [same.select?]

theorem answered (same : SameWiring left right) (start count : Nat) :
    left.answered start count = right.answered start count := by
  induction count generalizing start with
  | zero => rfl
  | succ count induction =>
      simp only [MemoryBoard.answered, same.answers, induction]

theorem stuckAt (same : SameWiring left right) (address : Nat) :
    left.stuckAt address = right.stuckAt address := by
  unfold MemoryBoard.stuckAt
  rw [same.stuckBits]

end SameWiring

/-! ## Leading answers -/

theorem answered_le (board : MemoryBoard) (start count : Nat) :
    board.answered start count ≤ count := by
  induction count generalizing start with
  | zero => exact Nat.le_refl 0
  | succ count induction =>
      have tailBound := induction (start + 2)
      unfold answered
      split <;> omega

/-- A block is answered in full if its first part and the rest are. -/
theorem answered_add (board : MemoryBoard) (start first rest : Nat) :
    board.answered start (first + rest) =
      if board.answered start first = first then
        first + board.answered (start + 2 * first) rest
      else
        board.answered start first := by
  induction first generalizing start with
  | zero => simp [answered]
  | succ first induction =>
      have shift : start + 2 + 2 * first = start + 2 * (first + 1) := by omega
      rw [Nat.add_right_comm]
      by_cases answers : board.answers start = true
      · simp only [answered, answers, if_true, induction, shift,
          Nat.add_right_cancel_iff]
        split <;> omega
      · simp [answered, answers]

theorem answers_of_lt_answered {board : MemoryBoard} {start count index : Nat}
    (before : index < board.answered start count) :
    board.answers (start + 2 * index) = true := by
  induction count generalizing start index with
  | zero => exact absurd before (Nat.not_lt_zero index)
  | succ count induction =>
      unfold answered at before
      split at before
      · rename_i answers
        cases index with
        | zero => exact answers
        | succ index =>
            have shift : start + 2 * (index + 1) = start + 2 + 2 * index := by
              omega
            rw [shift]
            exact induction (Nat.lt_of_succ_lt_succ before)
      · exact absurd before (Nat.not_lt_zero index)

theorem silent_at_answered {board : MemoryBoard} {start count : Nat}
    (short : board.answered start count ≠ count) :
    board.answers (start + 2 * board.answered start count) = false := by
  induction count generalizing start with
  | zero => exact absurd rfl short
  | succ count induction =>
      unfold answered at short ⊢
      split
      · rename_i answers
        have tailShort : board.answered (start + 2) count ≠ count := by
          intro full
          simp [answers, full] at short
        have shift : start + 2 * (board.answered (start + 2) count + 1) =
            start + 2 + 2 * board.answered (start + 2) count := by omega
        rw [shift]
        exact induction tailShort
      · rename_i silent
        simpa using silent

theorem answered_eq_self_iff {board : MemoryBoard} {start count : Nat} :
    board.answered start count = count ↔
      ∀ index < count, board.answers (start + 2 * index) = true := by
  constructor
  · intro full index before
    rw [← full] at before
    exact answers_of_lt_answered before
  · intro allAnswer
    by_cases full : board.answered start count = count
    · exact full
    · have bound := board.answered_le start count
      have silent := silent_at_answered full
      rw [allAnswer _ (by omega)] at silent
      exact absurd silent (by decide)

/-! ## Reading -/

@[simp] theorem size_deliverWords (board : MemoryBoard) (base : Nat)
    (words : Array UInt16) (first count : Nat) :
    (board.deliverWords base words first count).size = words.size := by
  simp [deliverWords]

theorem getElem_deliverWords (board : MemoryBoard) (base : Nat)
    (words : Array UInt16) (first count index : Nat)
    (inside : index < words.size)
    (bound : index < (board.deliverWords base words first count).size) :
    (board.deliverWords base words first count)[index] =
      if first ≤ index ∧ index < first + count then
        board.deliver (base + 2 * index)
      else
        words[index] := by
  simp [deliverWords]

theorem getD_deliverWords (board : MemoryBoard) (base : Nat)
    (words : Array UInt16) {first count index : Nat}
    (inside : index < words.size)
    (delivered : first ≤ index ∧ index < first + count) :
    (board.deliverWords base words first count).getD index 0 =
      board.deliver (base + 2 * index) := by
  have bound : index < (board.deliverWords base words first count).size := by
    simpa using inside
  rw [Array.getD, dif_pos bound]
  exact (getElem_deliverWords _ _ _ _ _ _ inside bound).trans (if_pos delivered)

theorem deliverWords_zero (board : MemoryBoard) (base : Nat)
    (words : Array UInt16) (first : Nat) :
    board.deliverWords base words first 0 = words := by
  apply Array.ext
  · simp
  · intro index _ inside
    rw [getElem_deliverWords _ _ _ _ _ _ inside, if_neg (by omega)]

theorem deliverWords_add (board : MemoryBoard) (base : Nat)
    (words : Array UInt16) (first count rest : Nat) :
    board.deliverWords base (board.deliverWords base words first count)
        (first + count) rest =
      board.deliverWords base words first (count + rest) := by
  apply Array.ext
  · simp
  · intro index inBoth _
    have inside : index < words.size := by simpa using inBoth
    rw [getElem_deliverWords _ _ _ _ _ _ (by simpa using inside),
      getElem_deliverWords _ _ _ _ _ _ inside,
      getElem_deliverWords _ _ _ _ _ _ inside]
    by_cases inFirst : first ≤ index ∧ index < first + count
    · rw [if_neg (by omega), if_pos inFirst, if_pos (by omega)]
    · by_cases inRest : first + count ≤ index ∧ index < first + count + rest
      · rw [if_pos inRest, if_pos (by omega)]
      · rw [if_neg inRest, if_neg inFirst, if_neg (by omega)]

theorem deliver_of_select? {board : MemoryBoard} {address cell : Nat}
    (selected : board.select? address = some cell) :
    board.deliver address = board.cell cell ||| board.stuckAt address := by
  have cellEquality : board.driven address / 2 = cell := by
    simp only [select?] at selected
    split at selected
    · exact Option.some.inj selected
    · cases selected
  rw [deliver, cellEquality]

theorem readBlock_eq (board : MemoryBoard) (start : Nat) (words : Array UInt16)
    (done : Nat) :
    board.readBlock start words done =
      (board.deliverWords start words done
        (board.answered (start + 2 * done) (words.size - done)),
       done + board.answered (start + 2 * done) (words.size - done)) := by
  fun_induction board.readBlock start words done with
  | case1 words done inside cell selected value induction =>
      have answers : board.answers (start + 2 * done) = true := by
        simp [MemoryBoard.answers, selected]
      have remaining : words.size - done = words.size - (done + 1) + 1 := by
        omega
      have shift : start + 2 * done + 2 = start + 2 * (done + 1) := by omega
      have firstWord : words.set done value inside =
          board.deliverWords start words done 1 := by
        apply Array.ext
        · simp
        · intro index _ bound
          have insideWords : index < words.size := by simpa using bound
          rw [getElem_deliverWords _ _ _ _ _ _ insideWords, Array.getElem_set]
          by_cases here : done = index
          · subst index
            rw [if_pos rfl, if_pos (by omega), deliver_of_select? selected]
          · rw [if_neg here, if_neg (by omega)]
      rw [induction, remaining, answered, if_pos answers, shift,
        Array.size_set, firstWord, deliverWords_add]
      simp only [Prod.mk.injEq]
      constructor
      · rw [Nat.add_comm 1]
      · omega
  | case2 words done inside silent =>
      have silence : board.answers (start + 2 * done) = false := by
        simp [MemoryBoard.answers, silent]
      have remaining : words.size - done = words.size - (done + 1) + 1 := by
        omega
      rw [remaining, answered, silence, if_neg (by decide), deliverWords_zero]
      rfl
  | case3 words done outside =>
      have nothingLeft : words.size - done = 0 := by omega
      rw [nothingLeft, answered, deliverWords_zero]
      rfl

/-! ## Writing -/

theorem acceptWords_add (board : MemoryBoard) (cycle : Cycle) (base : Nat)
    (words : Array UInt16) (first count rest : Nat) :
    (board.acceptWords cycle base words first count).acceptWords
      cycle base words (first + count) rest =
      board.acceptWords cycle base words first (count + rest) := by
  unfold acceptWords
  rw [← List.foldl_append, List.range'_append_1]

theorem acceptWords_succ (board : MemoryBoard) (cycle : Cycle) (base : Nat)
    (words : Array UInt16) (first count : Nat) :
    board.acceptWords cycle base words first (count + 1) =
      (board.acceptWords cycle base words first count).accept cycle
        (base + 2 * (first + count)) (words.getD (first + count) 0) := by
  unfold acceptWords
  rw [List.range'_1_concat, List.foldl_append]
  rfl

theorem accept_sameWiring (board : MemoryBoard) (cycle : Cycle) (address : Nat)
    (value : UInt16) : SameWiring (board.accept cycle address value) board := by
  unfold accept
  split
  · exact ⟨by simp [store], rfl, rfl⟩
  · exact .refl board

theorem acceptWords_sameWiring (board : MemoryBoard) (cycle : Cycle)
    (base : Nat) (words : Array UInt16) (first count : Nat) :
    SameWiring (board.acceptWords cycle base words first count) board := by
  induction count with
  | zero => exact .refl board
  | succ count induction =>
      rw [acceptWords_succ]
      exact (accept_sameWiring _ _ _ _).trans induction

theorem writeBlock_eq (board : MemoryBoard) (cycle : Cycle) (start : Nat)
    (words : Array UInt16) (done : Nat) :
    board.writeBlock cycle start words done =
      (board.acceptWords cycle start words done
        (board.answered (start + 2 * done) (words.size - done)),
       done + board.answered (start + 2 * done) (words.size - done)) := by
  fun_induction board.writeBlock cycle start words done with
  | case1 board done inside cell selected induction =>
      have answers : board.answers (start + 2 * done) = true := by
        simp [MemoryBoard.answers, selected]
      have remaining : words.size - done = words.size - (done + 1) + 1 := by
        omega
      have shift : start + 2 * done + 2 = start + 2 * (done + 1) := by omega
      have firstWord : board.store cycle cell words[done] =
          board.acceptWords cycle start words done 1 := by
        simp [acceptWords, accept, selected, Array.getD, inside]
      have wiring :=
        (board.acceptWords_sameWiring cycle start words done 1).answered
      rw [induction, remaining, answered, if_pos answers, shift,
        firstWord, wiring, acceptWords_add]
      simp only [Prod.mk.injEq]
      constructor
      · rw [Nat.add_comm 1]
      · omega
  | case2 board done inside silent =>
      have silence : board.answers (start + 2 * done) = false := by
        simp [MemoryBoard.answers, silent]
      have remaining : words.size - done = words.size - (done + 1) + 1 := by
        omega
      rw [remaining, answered, silence, if_neg (by decide)]
      rfl
  | case3 board done outside =>
      have nothingLeft : words.size - done = 0 := by omega
      rw [nothingLeft, answered]
      rfl

/-- Words of a buffer that are written as a block of their own. -/
theorem acceptWords_extract (board : MemoryBoard) (cycle : Cycle)
    (buffer : Array UInt16) {first count part : Nat}
    (covered : first + count ≤ buffer.size) (within : part ≤ count) :
    board.acceptWords cycle (2 * first)
      (buffer.extract first (first + count)) 0 part =
        board.acceptWords cycle 0 buffer first part := by
  induction part with
  | zero => rfl
  | succ part induction =>
      have sameAddress : 2 * first + 2 * (0 + part) =
          0 + 2 * (first + part) := by omega
      have inBuffer : first + part < buffer.size := by omega
      have inSlice : part < (buffer.extract first (first + count)).size := by
        rw [Array.size_extract]
        omega
      have sameValue : (buffer.extract first (first + count)).getD
          (0 + part) 0 = buffer.getD (first + part) 0 := by
        rw [Nat.zero_add, Array.getD, dif_pos inSlice, Array.getD,
          dif_pos inBuffer]
        exact Array.getElem_extract inSlice
      rw [acceptWords_succ, acceptWords_succ, induction (by omega),
        sameAddress, sameValue]

/-! ## Moving in either direction -/

/-- The board after `count` words from index `first` on were moved. -/
def boardAfter (board : MemoryBoard) (cycle : Cycle) (base : Nat)
    (words : Array UInt16) (first count : Nat) : MemoryBoard :=
  if cycle.isRead then board else board.acceptWords cycle base words first count

/-- The row of words after `count` of them from index `first` on were moved. -/
def wordsAfter (board : MemoryBoard) (cycle : Cycle) (base : Nat)
    (words : Array UInt16) (first count : Nat) : Array UInt16 :=
  if cycle.isRead then board.deliverWords base words first count else words

theorem boardAfter_sameWiring (board : MemoryBoard) (cycle : Cycle) (base : Nat)
    (words : Array UInt16) (first count : Nat) :
    SameWiring (board.boardAfter cycle base words first count) board := by
  unfold boardAfter
  split
  · exact .refl board
  · exact board.acceptWords_sameWiring cycle base words first count

@[simp] theorem size_wordsAfter (board : MemoryBoard) (cycle : Cycle)
    (base : Nat) (words : Array UInt16) (first count : Nat) :
    (board.wordsAfter cycle base words first count).size = words.size := by
  unfold wordsAfter
  split
  · exact board.size_deliverWords base words first count
  · rfl

theorem boardAfter_zero (board : MemoryBoard) (cycle : Cycle) (base : Nat)
    (words : Array UInt16) (first : Nat) :
    board.boardAfter cycle base words first 0 = board := by
  unfold boardAfter
  split <;> rfl

theorem wordsAfter_zero (board : MemoryBoard) (cycle : Cycle) (base : Nat)
    (words : Array UInt16) (first : Nat) :
    board.wordsAfter cycle base words first 0 = words := by
  unfold wordsAfter
  split
  · exact board.deliverWords_zero base words first
  · rfl

theorem boardAfter_add (board : MemoryBoard) (cycle : Cycle) (base : Nat)
    (words : Array UInt16) (first count rest : Nat) :
    (board.boardAfter cycle base words first count).boardAfter cycle base
        (board.wordsAfter cycle base words first count) (first + count) rest =
      board.boardAfter cycle base words first (count + rest) := by
  unfold boardAfter wordsAfter
  split
  · rfl
  · exact board.acceptWords_add cycle base words first count rest

theorem wordsAfter_add (board : MemoryBoard) (cycle : Cycle) (base : Nat)
    (words : Array UInt16) (first count rest : Nat) :
    (board.boardAfter cycle base words first count).wordsAfter cycle base
        (board.wordsAfter cycle base words first count) (first + count) rest =
      board.wordsAfter cycle base words first (count + rest) := by
  unfold boardAfter wordsAfter
  split
  · exact board.deliverWords_add base words first count rest
  · rfl

/-- The board after the first `count` words of a buffer moved: those of a source
are written. -/
def boardBehind (board : MemoryBoard) (cycle : Cycle) (start : Nat)
    (buffer : Buffer) (count : Nat) : MemoryBoard :=
  match buffer with
  | .sink _ => board
  | .source words => board.acceptWords cycle start words 0 count

/-- The words of a buffer after the first `count` of them moved: those of a sink
are read. -/
def wordsBehind (board : MemoryBoard) (start : Nat) (buffer : Buffer)
    (count : Nat) : Array UInt16 :=
  match buffer with
  | .sink words => board.deliverWords start words 0 count
  | .source words => words

theorem boardBehind_sameWiring (board : MemoryBoard) (cycle : Cycle)
    (start : Nat) (buffer : Buffer) (count : Nat) :
    SameWiring (board.boardBehind cycle start buffer count) board := by
  cases buffer with
  | sink words => exact .refl board
  | source words => exact board.acceptWords_sameWiring cycle start words 0 count

section Faces

variable {cycle : Cycle} {buffer : Buffer}
  (faces : buffer.isSink = cycle.isRead)

include faces

/-- Behind a buffer in the direction of the cycle, the cycle tells what
moved. -/
theorem boardBehind_of_faces (board : MemoryBoard) (start count : Nat) :
    board.boardBehind cycle start buffer count =
      board.boardAfter cycle start buffer.words 0 count := by
  unfold boardAfter
  rw [← faces]
  cases buffer <;> rfl

theorem wordsBehind_of_faces (board : MemoryBoard) (start count : Nat) :
    board.wordsBehind start buffer count =
      board.wordsAfter cycle start buffer.words 0 count := by
  unfold wordsAfter
  rw [← faces]
  cases buffer <;> rfl

end Faces

end MemoryBoard

theorem SimulatedBus.move_eq (board : MemoryBoard) (cycle : Cycle) (start : Nat)
    (buffer : Buffer) :
    SimulatedBus.move board cycle start buffer =
      (board.boardBehind cycle start buffer
        (board.answered start buffer.words.size),
       board.wordsBehind start buffer (board.answered start buffer.words.size),
       board.answered start buffer.words.size) := by
  cases buffer with
  | sink words =>
      simp [SimulatedBus.move, MemoryBoard.readBlock_eq,
        MemoryBoard.boardBehind, MemoryBoard.wordsBehind, Buffer.words]
  | source words =>
      simp [SimulatedBus.move, MemoryBoard.writeBlock_eq,
        MemoryBoard.boardBehind, MemoryBoard.wordsBehind, Buffer.words]

end Backplane
