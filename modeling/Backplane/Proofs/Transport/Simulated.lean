import Backplane.Proofs.Memory.Block
import Backplane.Proofs.Timed

/-!
# Requests on a simulated bus

A simulated bus carries out every request: the words before the first silent
address move, and the clock advances by their bus cycles and by the cycles
after which a silent address is given up.  Only the clock can overflow.
-/

namespace Backplane

open Dma

namespace MemoryBoard

/-- How a block of `count` words from `start` on ends. -/
def blockOutcome (board : MemoryBoard) (start count : Nat) : Outcome :=
  if board.answered start count = count then
    .acknowledged
  else
    .timedOut (start + 2 * board.answered start count)

/-- The bus cycles that such a block takes. -/
def blockCycles (board : MemoryBoard) (start count : Nat) : Nat :=
  board.answered start count +
    if board.answered start count = count then 0 else SimulatedBus.timeoutCycles

theorem blockOutcome_eq_acknowledged_iff {board : MemoryBoard}
    {start count : Nat} :
    board.blockOutcome start count = .acknowledged ↔
      board.answered start count = count := by
  unfold blockOutcome
  split <;> simp_all

theorem blockOutcome_eq_timedOut_iff {board : MemoryBoard}
    {start count fault : Nat} :
    board.blockOutcome start count = .timedOut fault ↔
      board.answered start count ≠ count ∧
        fault = start + 2 * board.answered start count := by
  unfold blockOutcome
  split
  · simp_all
  · simp_all [eq_comm]

/-! The block behind a first part goes on where the first part was answered in
full, and not at all where it was not. -/

section Parts

variable {board : MemoryBoard} {start first : Nat}

theorem answered_add_of_full (full : board.answered start first = first)
    (rest : Nat) :
    board.answered start (first + rest) =
      first + board.answered (start + 2 * first) rest := by
  rw [answered_add, if_pos full]

theorem answered_add_of_short (short : board.answered start first ≠ first)
    (rest : Nat) :
    board.answered start (first + rest) = board.answered start first := by
  rw [answered_add, if_neg short]

theorem blockOutcome_add_of_full (full : board.answered start first = first)
    (rest : Nat) :
    board.blockOutcome start (first + rest) =
      board.blockOutcome (start + 2 * first) rest := by
  have sameAddress : start + 2 *
      (first + board.answered (start + 2 * first) rest) =
      start + 2 * first + 2 * board.answered (start + 2 * first) rest := by
      omega
  simp only [blockOutcome, answered_add_of_full full,
    Nat.add_right_inj, sameAddress]

theorem blockOutcome_add_of_short (short : board.answered start first ≠ first)
    (rest : Nat) :
    board.blockOutcome start (first + rest) =
      board.blockOutcome start first := by
  have bound := board.answered_le start first
  rw [blockOutcome, blockOutcome, answered_add_of_short short, if_neg short,
    if_neg (by omega)]

theorem blockCycles_add_of_full (full : board.answered start first = first)
    (rest : Nat) :
    board.blockCycles start (first + rest) =
      board.blockCycles start first + board.blockCycles
        (start + 2 * first) rest := by
  simp only [blockCycles, answered_add_of_full full, full, Nat.add_right_inj,
    Nat.add_assoc, if_true, Nat.zero_add]

theorem blockCycles_add_of_short (short : board.answered start first ≠ first)
    (rest : Nat) :
    board.blockCycles start (first + rest) = board.blockCycles start first := by
  have bound := board.answered_le start first
  rw [blockCycles, blockCycles, answered_add_of_short short, if_neg short,
    if_neg (by omega)]

/-- A longer block takes no fewer cycles. -/
theorem blockCycles_mono (board : MemoryBoard) (start : Nat) {first count : Nat}
    (within : first ≤ count) :
    board.blockCycles start first ≤ board.blockCycles start count := by
  obtain ⟨rest, rfl⟩ := Nat.exists_eq_add_of_le within
  by_cases full : board.answered start first = first
  · rw [blockCycles_add_of_full full]
    exact Nat.le_add_right _ _
  · exact Nat.le_of_eq (blockCycles_add_of_short full rest).symm

theorem SameWiring.blockOutcome {left right : MemoryBoard}
    (same : SameWiring left right) (start count : Nat) :
    left.blockOutcome start count = right.blockOutcome start count := by
  simp only [MemoryBoard.blockOutcome, same.answered]

theorem SameWiring.blockCycles {left right : MemoryBoard}
    (same : SameWiring left right) (start count : Nat) :
    left.blockCycles start count = right.blockCycles start count := by
  simp only [MemoryBoard.blockCycles, same.answered]

end Parts

end MemoryBoard

namespace SimulatedBus

/-- The time that bus cycles take on the clock. -/
def elapsedFor (bus : SimulatedBus) (cycles : Nat) : Nat :=
  match bus.clockMode with
  | .simulated => bus.wordTime * cycles
  | .wall => 0

@[simp] theorem elapsedFor_zero (bus : SimulatedBus) :
    bus.elapsedFor 0 = 0 := by
  unfold elapsedFor
  split <;> rfl

theorem elapsedFor_add (bus : SimulatedBus) (first rest : Nat) :
    bus.elapsedFor (first + rest) =
      bus.elapsedFor first + bus.elapsedFor rest := by
  unfold elapsedFor
  split
  · exact Nat.mul_add _ _ _
  · rfl

/-- Bus cycles that do not overflow the clock. -/
def Affords (bus : SimulatedBus) (cycles : Nat) : Prop :=
  bus.wordTime * cycles < Duration.limit ∧
    (bus.clockMode = .simulated →
      bus.clock + bus.wordTime * cycles < Duration.limit)

instance (bus : SimulatedBus) (cycles : Nat) : Decidable (bus.Affords cycles) :=
  inferInstanceAs (Decidable (_ ∧ _))

/-- The words after a request and how it ended. -/
def replyTo (bus : SimulatedBus) (request : Request) : Reply where
  words := bus.board.wordsBehind request.start request.buffer
    (bus.board.answered request.start request.words.size)
  outcome := bus.board.blockOutcome request.start request.words.size

def after (bus : SimulatedBus) (request : Request) : SimulatedBus :=
  { bus with
    board := bus.board.boardBehind request.cycle request.start request.buffer
      (bus.board.answered request.start request.words.size)
    clock := bus.clock +
      bus.elapsedFor (bus.board.blockCycles request.start request.words.size)
    requests := bus.requests.push
      ⟨request.slot, request.cycle, request.start, request.words.size,
        bus.board.blockOutcome request.start request.words.size⟩
    journal := bus.journal.push
      (.blockMoved request.cycle request.start request.words.size
        (bus.board.blockOutcome request.start request.words.size).success) }

theorem advance_eq_ok {bus : SimulatedBus} {cycles clock : Nat} :
    advance bus.clockMode bus.clock (bus.wordTime * cycles) = .ok clock ↔
      (bus.clockMode = .simulated →
        bus.clock + bus.wordTime * cycles < Duration.limit) ∧
        clock = bus.clock + bus.elapsedFor cycles := by
  unfold advance elapsedFor
  cases bus.clockMode with
  | simulated => simp [Duration.plus_eq_ok]
  | wall => simp [eq_comm]

theorem submit_eq_ok {request : Request} {bus stopped : SimulatedBus}
    {reply : Reply} :
    SimulatedBus.submit request bus = .ok (reply, stopped) ↔
      bus.Affords (bus.board.blockCycles request.start request.words.size) ∧
        reply = bus.replyTo request ∧ stopped = bus.after request := by
  have ending (start count : Nat) :
      (if bus.board.answered start count = count then
          (Outcome.acknowledged, bus.board.answered start count)
        else
          (Outcome.timedOut (start + 2 * bus.board.answered start count),
            bus.board.answered start count + timeoutCycles)) =
        (bus.board.blockOutcome start count,
          bus.board.blockCycles start count) := by
    unfold MemoryBoard.blockOutcome MemoryBoard.blockCycles
    split <;> rfl
  unfold SimulatedBus.submit
  simp only [move_eq, ending, except_bind_eq_ok, Duration.times_eq_ok]
  constructor
  · rintro ⟨_, ⟨timeFits, rfl⟩, _, advances, built⟩
    obtain ⟨clockFits, rfl⟩ := advance_eq_ok.mp advances
    cases built
    exact ⟨⟨timeFits, clockFits⟩, rfl, rfl⟩
  · rintro ⟨⟨timeFits, clockFits⟩, rfl, rfl⟩
    exact ⟨_, ⟨timeFits, rfl⟩, _, advance_eq_ok.mpr ⟨clockFits, rfl⟩, rfl⟩

theorem sleep_eq_ok {duration : Nat} {bus stopped : SimulatedBus} :
    SimulatedBus.sleep duration bus = .ok ((), stopped) ↔
      bus.clock + duration < Duration.limit ∧
        stopped = { bus with clock := bus.clock + duration } := by
  unfold SimulatedBus.sleep
  simp only [except_bind_eq_ok, Duration.plus_eq_ok]
  constructor
  · rintro ⟨_, ⟨fits, rfl⟩, built⟩
    cases built
    exact ⟨fits, rfl⟩
  · rintro ⟨fits, rfl⟩
    exact ⟨_, ⟨fits, rfl⟩, rfl⟩

/-- A request on the bus behind an engine never fails. -/
theorem transport_submit_eq_ok {request : Request} {bus stopped : SimulatedBus}
    {outcome : Except BusError Reply} :
    (Transport.submit (σ := SimulatedBus) request).run bus =
      .ok (outcome, stopped) ↔
      bus.Affords (bus.board.blockCycles request.start request.words.size) ∧
        outcome = .ok (bus.replyTo request) ∧ stopped = bus.after request := by
  change (SimulatedBus.submit request >>= fun reply => pure (Except.ok reply))
    bus = _ ↔ _
  rw [Timed.bind_eq_ok]
  simp only [submit_eq_ok]
  constructor
  · rintro ⟨_, _, ⟨affords, rfl, rfl⟩, built⟩
    cases built
    exact ⟨affords, rfl, rfl⟩
  · rintro ⟨affords, rfl, rfl⟩
    exact ⟨_, _, ⟨affords, rfl, rfl⟩, rfl⟩

end SimulatedBus

end Backplane
