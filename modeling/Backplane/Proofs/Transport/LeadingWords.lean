import Backplane.Proofs.Memory.Healthy
import Backplane.Proofs.Transport.Simulated

/-!
# Requests end at their first silent word

A request moves the words before the first address that selects no installed
cell, one after the other, and nothing else.  Where several of them select one
cell, a read delivers its content to each, and a write leaves there what the
last of them wrote.  Data, outcome, clock and record all tell the same number of
words.
-/

namespace Backplane

open Dma

namespace MemoryBoard

/-- Of `words` consecutive words from `start` on, the first `count` select an
installed cell, and the next one, if there is one, does not. -/
structure Leading (board : MemoryBoard) (start words count : Nat) : Prop where
  within : count ≤ words
  installed : ∀ index < count, board.select? (start + 2 * index) ≠ none
  silent : count < words → board.select? (start + 2 * count) = none

theorem answers_iff_ne_none {board : MemoryBoard} {address : Nat} :
    board.answers address = true ↔ board.select? address ≠ none :=
  Option.isSome_iff_ne_none

theorem leading_answered (board : MemoryBoard) (start words : Nat) :
    board.Leading start words (board.answered start words) where
  within := board.answered_le start words
  installed _ before := answers_iff_ne_none.mp (answers_of_lt_answered before)
  silent short := by
    have silence := silent_at_answered (Nat.ne_of_lt short)
    exact Option.not_isSome_iff_eq_none.mp (Bool.eq_false_iff.mp silence)

theorem Leading.unique {board : MemoryBoard} {start words first second : Nat}
    (left : board.Leading start words first)
    (right : board.Leading start words second) : first = second := by
  rcases Nat.lt_trichotomy first second with shorter | same | longer
  · have silent := left.silent (Nat.lt_of_lt_of_le shorter right.within)
    exact absurd silent (right.installed first shorter)
  · exact same
  · have silent := right.silent (Nat.lt_of_lt_of_le longer left.within)
    exact absurd silent (left.installed second longer)

theorem Leading.answered_eq {board : MemoryBoard} {start words count : Nat}
    (leading : board.Leading start words count) :
    board.answered start words = count :=
  (board.leading_answered start words).unique leading

/-- What comes back for a row of words when the first `count` of them were read:
the cells that they select, with the bits that are stuck at the words' own
addresses. -/
structure Delivered (board : MemoryBoard) (start : Nat) (words : Array UInt16)
    (count : Nat) (moved : Array UInt16) : Prop where
  size : moved.size = words.size
  read : ∀ index < count, ∀ cell,
    board.select? (start + 2 * index) = some cell →
    moved[index]? = some (board.cells.getD cell 0 |||
      board.stuckBits.getD ((start + 2 * index) / 2) 0)
  kept : ∀ index, count ≤ index → moved[index]? = words[index]?

/-- The board after the first `count` words of a row were written. -/
structure Stored (board : MemoryBoard) (cycle : Cycle) (start : Nat)
    (words : Array UInt16) (count : Nat) (after : MemoryBoard) : Prop where
  /-- Later words that select the same cell win. -/
  written : ∀ index < count, ∀ cell,
    board.select? (start + 2 * index) = some cell →
    (∀ later < count, index < later →
      board.select? (start + 2 * later) ≠ some cell) →
    ∃ value, words[index]? = some value ∧
      after.cells.getD cell 0 =
        if cycle = .dataOutByte then
          UInt16.ofNat ((board.cells.getD cell 0).toNat / 256 * 256 +
            value.toNat % 256)
        else
          value
  kept : ∀ cell,
    (∀ index < count, board.select? (start + 2 * index) ≠ some cell) →
    after.cells.getD cell 0 = board.cells.getD cell 0

theorem merge_eq (cycle : Cycle) (content value : UInt16) :
    merge cycle content value =
      if cycle = .dataOutByte then
        UInt16.ofNat (content.toNat / 256 * 256 + value.toNat % 256)
      else
        value := by
  by_cases byte : cycle = .dataOutByte
  · rw [byte, merge_dataOutByte, if_pos rfl]
  · rw [merge, if_neg byte, if_neg byte]

theorem delivered_deliverWords (board : MemoryBoard) (start : Nat)
    (words : Array UInt16) {count : Nat} (within : count ≤ words.size) :
    board.Delivered start words count
      (board.deliverWords start words 0 count) where
  size := size_deliverWords _ _ _ _ _
  read index before cell selected := by
    have inside : index < words.size := Nat.lt_of_lt_of_le before within
    have bound : index < (board.deliverWords start words 0 count).size := by
      rwa [size_deliverWords]
    rw [Array.getElem?_eq_getElem bound,
      getElem_deliverWords _ _ _ _ _ _ inside,
      if_pos ⟨Nat.zero_le index, by omega⟩, deliver_of_select? selected]
    rfl
  kept index behind := by
    have unread : ¬ (0 ≤ index ∧ index < 0 + count) := by omega
    simp only [deliverWords, Array.getElem?_mapIdx, unread, if_false,
      Option.map_id_fun', id]

theorem stored_acceptWords (board : MemoryBoard) (cycle : Cycle) (start : Nat)
    (words : Array UInt16) {count : Nat} (within : count ≤ words.size) :
    board.Stored cycle start words count
      (board.acceptWords cycle start words 0 count) where
  written index before cell selected last := by
    have inside : index < words.size := Nat.lt_of_lt_of_le before within
    have inRow : 0 ≤ index ∧ index < 0 + count := by omega
    have content : (board.acceptWords cycle start words 0 count).cell cell =
        merge cycle (board.cell cell) (words.getD index 0) :=
      cell_acceptWords inRow selected fun later behind inRow =>
        last later (by omega) behind
    refine ⟨words[index], Array.getElem?_eq_getElem inside, content.trans ?_⟩
    rw [merge_eq, Array.getD, dif_pos inside]
    rfl
  kept cell untouched :=
    cell_acceptWords_of_untouched fun index _ inRow =>
      untouched index (by omega)

end MemoryBoard

namespace SimulatedBus

open MemoryBoard

variable {bus : SimulatedBus} {request : Request} {count : Nat}

/-- A request moves the words before its first silent address, in the direction
of its buffer, and outcome, clock and record tell how many these are.  Nothing
else on the bus changes but the journal. -/
theorem submit_moves_leading_words
    (leading : bus.board.Leading request.start request.words.size count)
    (affords : bus.Affords
      (count + if count = request.words.size then 0 else timeoutCycles)) :
    ∃ reply after,
      (Transport.submit (σ := SimulatedBus) request).run bus =
        .ok (.ok reply, after) ∧
      (∀ words, request.buffer = .sink words →
        bus.board.Delivered request.start words count reply.words ∧
          after.board = bus.board) ∧
      (∀ words, request.buffer = .source words →
        reply.words = words ∧
          bus.board.Stored request.cycle request.start words count
            after.board) ∧
      SameWiring after.board bus.board ∧
      (reply.outcome.success = true ↔ count = request.words.size) ∧
      reply.outcome.faultAddress =
        (if count = request.words.size then 0 else request.start + 2 * count) ∧
      (bus.clockMode = .simulated →
        after.clock = bus.clock + bus.wordTime * count +
          if count = request.words.size then 0 else 10 * bus.wordTime) ∧
      (bus.clockMode = .wall → after.clock = bus.clock) ∧
      after.requests = bus.requests.push
        ⟨request.slot, request.cycle, request.start, request.words.size,
          reply.outcome⟩ ∧
      after.closed = bus.closed ∧ after.edges = bus.edges ∧
      after.wordTime = bus.wordTime ∧ after.clockMode = bus.clockMode := by
  have answered := leading.answered_eq
  have cycles : bus.board.blockCycles request.start request.words.size =
      count + if count = request.words.size then 0 else timeoutCycles := by
    rw [blockCycles, answered]
  have outcome : bus.board.blockOutcome request.start request.words.size =
      if count = request.words.size then .acknowledged
      else .timedOut (request.start + 2 * count) := by
    rw [blockOutcome, answered]
  have accepts :
      bus.Affords (bus.board.blockCycles request.start request.words.size) :=
    cycles ▸ affords
  refine ⟨bus.replyTo request, bus.after request,
    transport_submit_eq_ok.mpr ⟨accepts, rfl, rfl⟩, ?_, ?_,
    boardBehind_sameWiring _ _ _ _ _, ?_, ?_, ?_, ?_, rfl, rfl, rfl, rfl, rfl⟩
  · intro words reads
    simp only [replyTo, after, answered, reads, wordsBehind, boardBehind]
    have within : count ≤ words.size := by
      have within := leading.within
      rwa [Request.words, reads] at within
    exact ⟨delivered_deliverWords _ _ _ within, trivial⟩
  · intro words writes
    simp only [replyTo, after, answered, writes, wordsBehind, boardBehind]
    have within : count ≤ words.size := by
      have within := leading.within
      rwa [Request.words, writes] at within
    exact ⟨trivial, stored_acceptWords _ _ _ _ within⟩
  · simp only [replyTo, outcome]
    split <;> simp_all [Outcome.success]
  · simp only [replyTo, outcome]
    split <;> rfl
  · intro simulated
    simp only [after, cycles, elapsedFor, simulated, timeoutCycles]
    rw [Nat.mul_add]
    split <;> omega
  · intro wall
    simp only [after, elapsedFor, wall, Nat.add_zero]

/-- A bus with three cells, where line 1 is shorted, bit 0 is stuck at the first
word and bit 15 at the second. -/
def faultyBus : SimulatedBus where
  board :=
    { cells := #[0x1111, 0x2222, 0x3333]
      stuckBits := Std.HashMap.insert (Std.HashMap.insert ∅ 0 0x0001) 1 0x8000
      stuckLine? := some 1 }

theorem stuckBits_faultyBus (word : Nat) :
    faultyBus.board.stuckBits.getD word 0 =
      if word = 1 then 0x8000 else if word = 0 then 0x0001 else 0 := by
  simp only [faultyBus, Std.HashMap.getD_insert,
    Std.HashMap.getD_empty, beq_iff_eq, @eq_comm Nat word]

/-- Four words to read from address zero on. -/
def fourWords : Request where
  slot := 5
  cycle := .dataIn
  start := 0
  buffer := .sink #[7, 7, 7, 7]
  blocking := true

/-- Four bytes to write there. -/
def fourBytes : Request where
  slot := 5
  cycle := .dataOutByte
  start := 0
  buffer := .source #[0xaaaa, 0xbbbb, 0xcccc, 0xdddd]
  blocking := true

/-- The first two words select one cell, and the cell of the third is missing.
A read shows the cell with the stuck bits of each of the two words, and a byte
write leaves the second byte there.  Words to write are written even under a
cycle that reads. -/
theorem submit_moves_two_words :
    faultyBus.board.Leading 0 4 2 ∧ faultyBus.Affords 12 ∧
      (∃ reply after,
        (Transport.submit (σ := SimulatedBus) fourWords).run faultyBus =
          .ok (.ok reply, after) ∧
        reply.words = #[0x2223, 0xa222, 7, 7] ∧
        reply.outcome.faultAddress = 4 ∧ after.clock = 12000) ∧
      (∃ reply after,
        (Transport.submit (σ := SimulatedBus) fourBytes).run faultyBus =
          .ok (.ok reply, after) ∧
        after.board.cells.getD 0 0 = 0x1111 ∧
        after.board.cells.getD 1 0 = 0x22bb ∧
        reply.outcome.faultAddress = 4 ∧ after.clock = 12000) ∧
      ∃ reply after,
        (Transport.submit (σ := SimulatedBus)
          { fourBytes with cycle := .dataIn }).run
            faultyBus = .ok (.ok reply, after) ∧
        reply.words = #[0xaaaa, 0xbbbb, 0xcccc, 0xdddd] ∧
        after.board.cells.getD 1 0 = 0xbbbb := by
  have leading : faultyBus.board.Leading 0 4 2 :=
    ⟨by decide, by decide, fun _ => by decide⟩
  have affords : faultyBus.Affords 12 := by decide
  refine ⟨leading, affords, ?_, ?_, ?_⟩
  · obtain ⟨reply, after, submitted, reads, _, _, _, fault, clock, _⟩ :=
      @submit_moves_leading_words faultyBus fourWords 2 leading affords
    obtain ⟨delivered, _⟩ := reads _ rfl
    have first := delivered.read 0 (by decide) 1 (by decide)
    have second := delivered.read 1 (by decide) 1 (by decide)
    refine ⟨reply, after, submitted, ?_, fault, clock rfl⟩
    apply Array.ext_getElem?
    intro index
    rcases index with _ | _ | index
    · exact first.trans (by rw [stuckBits_faultyBus]; decide)
    · exact second.trans (by rw [stuckBits_faultyBus]; decide)
    · exact (delivered.kept (index + 2) (Nat.le_add_left 2 index)).trans rfl
  · obtain ⟨reply, after, submitted, _, writes, _, _, fault, clock, _⟩ :=
      @submit_moves_leading_words faultyBus fourBytes 2 leading affords
    obtain ⟨_, stored⟩ := writes _ rfl
    obtain ⟨value, given, last⟩ :=
      stored.written 1 (by decide) 1 (by decide) (by decide)
    cases given
    exact ⟨reply, after, submitted, stored.kept 0 (by decide), last,
      fault, clock rfl⟩
  · obtain ⟨reply, after, submitted, _, writes, _⟩ :=
      @submit_moves_leading_words faultyBus
        { fourBytes with cycle := .dataIn } 2 leading affords
    obtain ⟨kept, stored⟩ := writes _ rfl
    obtain ⟨value, given, last⟩ :=
      stored.written 1 (by decide) 1 (by decide) (by decide)
    cases given
    exact ⟨reply, after, submitted, kept, last⟩

end SimulatedBus

end Backplane
