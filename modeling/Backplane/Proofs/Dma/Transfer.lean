import Backplane.Proofs.Address.Range
import Backplane.Proofs.Dma.Block
import Backplane.Proofs.Dma.BlockTrace

/-!
# Transfers on a simulated bus

A transfer moves words of a buffer in one block or in many.  Its effect does
not tell which: the words before the first silent address move, and the time
spent in the blocks adds up to the time of one.
-/

namespace Backplane.Dma

open MemoryBoard

namespace Engine

variable {γ : Type}

/-- What no transfer changes. -/
structure SameSettings (before after : Engine SimulatedBus γ) : Prop where
  width : after.width = before.width
  config : after.config = before.config
  pending : after.pending? = before.pending?
  wordTime : after.transport.wordTime = before.transport.wordTime
  clockMode : after.transport.clockMode = before.transport.clockMode
  closed : after.transport.closed = before.transport.closed
  edges : after.transport.edges = before.transport.edges

namespace SameSettings

theorem refl (engine : Engine SimulatedBus γ) : SameSettings engine engine :=
  ⟨rfl, rfl, rfl, rfl, rfl, rfl, rfl⟩

theorem trans {first second third : Engine SimulatedBus γ}
    (left : SameSettings first second) (right : SameSettings second third) :
    SameSettings first third where
  width := right.width.trans left.width
  config := right.config.trans left.config
  pending := right.pending.trans left.pending
  wordTime := right.wordTime.trans left.wordTime
  clockMode := right.clockMode.trans left.clockMode
  closed := right.closed.trans left.closed
  edges := right.edges.trans left.edges

theorem elapsedFor {before after : Engine SimulatedBus γ}
    (same : SameSettings before after) (cycles : Nat) :
    after.transport.elapsedFor cycles = before.transport.elapsedFor cycles := by
  simp only [SimulatedBus.elapsedFor, same.clockMode, same.wordTime]

theorem idleFor {before after : Engine SimulatedBus γ}
    (same : SameSettings before after) (cycles : Nat) :
    after.idleFor cycles = before.idleFor cycles := by
  simp only [Engine.idleFor, same.elapsedFor, same.config]

end SameSettings

/-- A transfer of `count` words from word number `first` on, in whatever blocks:
where it leaves the buffer and the engine, and the time spent in it. -/
structure TransferEffect (cycle : Cycle) (engine : Engine SimulatedBus γ)
    (buffer : Array UInt16) (first count elapsed : Nat) (moved : Array UInt16)
    (result : Except BusError Unit) (stopped : Engine SimulatedBus γ) :
    Prop where
  moved : moved = engine.transport.board.wordsAfter cycle 0 buffer first
    (engine.transport.board.answered (2 * first) count)
  board : stopped.transport.board =
    engine.transport.board.boardAfter cycle 0 buffer
    first (engine.transport.board.answered (2 * first) count)
  result :
    result = (engine.transport.board.blockOutcome (2 * first) count).toResult
  elapsed : elapsed = engine.transport.elapsedFor
    (engine.transport.board.blockCycles (2 * first) count)
  settings : SameSettings engine stopped

theorem BlockEffect.transferEffect {cycle : Cycle}
    {engine stopped : Engine SimulatedBus γ} {buffer moved : Array UInt16}
    {first count : Nat} {reply : Except BusError Completion}
    {result : Except BusError Unit}
    (effect : BlockEffect cycle engine buffer first count reply moved
      result stopped) :
    TransferEffect cycle engine buffer first count
      (IssuedBlock.elapsed ⟨2 * first, count, reply⟩) moved result stopped := by
  obtain ⟨journal, stopping⟩ := effect.stopped
  subst stopping
  refine ⟨effect.moved, rfl, effect.result, ?_,
    ⟨rfl, rfl, rfl, rfl, rfl, rfl, rfl⟩⟩
  rw [effect.reply]
  rfl

theorem TransferEffect.sameWiring {cycle : Cycle}
    {engine stopped : Engine SimulatedBus γ} {buffer moved : Array UInt16}
    {first count elapsed : Nat} {result : Except BusError Unit}
    (effect : TransferEffect cycle engine buffer first count elapsed moved
      result stopped) :
    SameWiring stopped.transport.board engine.transport.board := by
  rw [effect.board]
  exact boardAfter_sameWiring _ _ _ _ _ _

theorem toResult_eq_ok {outcome : Outcome} :
    outcome.toResult = .ok () ↔ outcome = .acknowledged := by
  cases outcome <;> simp [Outcome.toResult]

section Compose

variable {cycle : Cycle} {engine middle stopped : Engine SimulatedBus γ}
  {buffer moved last : Array UInt16}
  {first count rest elapsed restElapsed : Nat} {result : Except BusError Unit}

theorem TransferEffect.full
    (effect : TransferEffect cycle engine buffer first count elapsed
      moved (.ok ()) stopped) :
    engine.transport.board.answered (2 * first) count = count :=
  blockOutcome_eq_acknowledged_iff.mp (toResult_eq_ok.mp effect.result.symm)

/-- A completed transfer and the transfer of the words behind it. -/
theorem TransferEffect.append
    (head : TransferEffect cycle engine buffer first count elapsed moved
      (.ok ()) middle)
    (tail : TransferEffect cycle middle moved (first + count) rest
      restElapsed last result stopped) :
    TransferEffect cycle engine buffer first (count + rest)
      (elapsed + restElapsed) last result stopped := by
  have full := head.full
  have wiring := head.sameWiring
  have address : 2 * (first + count) = 2 * first + 2 * count := by omega
  have headMoved := head.moved
  have headBoard := head.board
  rw [full] at headMoved headBoard
  refine ⟨?_, ?_, ?_, ?_, head.settings.trans tail.settings⟩
  · rw [tail.moved, wiring.answered, address,
      answered_add_of_full full, headMoved, headBoard, wordsAfter_add]
  · rw [tail.board, wiring.answered, address,
      answered_add_of_full full, headMoved, headBoard, boardAfter_add]
  · rw [tail.result, wiring.blockOutcome, address,
      blockOutcome_add_of_full full]
  · rw [head.elapsed, tail.elapsed, head.settings.elapsedFor,
      wiring.blockCycles, address, blockCycles_add_of_full full]
    exact (SimulatedBus.elapsedFor_add _ _ _).symm

theorem TransferEffect.short {fault : BusError}
    (effect : TransferEffect cycle engine buffer first count elapsed moved
      (.error fault) stopped) :
    engine.transport.board.answered (2 * first) count ≠ count := by
  intro full
  have success := toResult_eq_ok.mpr (blockOutcome_eq_acknowledged_iff.mpr full)
  have failure := effect.result
  rw [success] at failure
  cases failure

/-- Behind a silent address nothing moves. -/
theorem TransferEffect.extend {fault : BusError}
    (effect : TransferEffect cycle engine buffer first count elapsed moved
      (.error fault) stopped) (rest : Nat) :
    TransferEffect cycle engine buffer first (count + rest) elapsed moved
      (.error fault) stopped := by
  have short := effect.short
  refine ⟨?_, ?_, ?_, ?_, effect.settings⟩
  · rw [answered_add_of_short short]
    exact effect.moved
  · rw [answered_add_of_short short]
    exact effect.board
  · rw [blockOutcome_add_of_short short]
    exact effect.result
  · rw [blockCycles_add_of_short short]
    exact effect.elapsed

theorem TransferEffect.nothing (cycle : Cycle) (engine : Engine SimulatedBus γ)
    (buffer : Array UInt16) (first : Nat) :
    TransferEffect cycle engine buffer first 0 0 buffer (.ok ()) engine := by
  refine ⟨?_, ?_, rfl, ?_, .refl engine⟩
  · exact (wordsAfter_zero _ _ _ _ _).symm
  · exact (boardAfter_zero _ _ _ _ _).symm
  · exact (SimulatedBus.elapsedFor_zero _).symm

end Compose

theorem TransferEffect.size_moved {cycle : Cycle}
    {engine stopped : Engine SimulatedBus γ} {buffer moved : Array UInt16}
    {first count elapsed : Nat} {result : Except BusError Unit}
    (effect : TransferEffect cycle engine buffer first count elapsed moved
      result stopped) :
    moved.size = buffer.size := by
  rw [effect.moved, size_wordsAfter]

variable [RandomSource γ]

theorem BlockStep.transferEffect_of_drawn {cycle : Cycle}
    {engine stopped : Engine SimulatedBus γ} {buffer moved : Array UInt16}
    {first remaining : Nat} {reply : Except BusError Completion}
    {result : Except BusError Unit} (remains : remaining ≠ 0)
    (covered : first + remaining ≤ buffer.size)
    (bounded : remaining < RandomSource.wordRange)
    (step : BlockStep cycle (engine.drawnLength remaining) buffer (2 * first)
      (engine.nextLength remaining) reply moved result stopped) :
    TransferEffect cycle engine buffer first (engine.nextLength remaining)
      (IssuedBlock.elapsed ⟨2 * first, engine.nextLength remaining, reply⟩)
      moved result stopped := by
  have positive := engine.nextLength_pos remaining
  have within := engine.nextLength_le remains bounded
  have effect := (step.simulated positive (by omega)).transferEffect
  have drawn : SameSettings engine (engine.drawnLength remaining) :=
    ⟨rfl, rfl, rfl, rfl, rfl, rfl, rfl⟩
  exact ⟨effect.moved, effect.board, effect.result, effect.elapsed,
    drawn.trans effect.settings⟩

/-- The blocks of a random access move what one block moves. -/
theorem BlockTrace.transferEffect {cycle : Cycle}
    {engine stopped : Engine SimulatedBus γ} {buffer moved : Array UInt16}
    {address first remaining : Nat} {issued : List IssuedBlock}
    {result : Except BusError Unit}
    (trace : BlockTrace cycle engine buffer address remaining issued moved
      result stopped)
    (start : address = 2 * first) (covered : first + remaining ≤ buffer.size)
    (bounded : remaining < RandomSource.wordRange) :
    TransferEffect cycle engine buffer first remaining (totalElapsed issued)
      moved result stopped := by
  induction trace generalizing first with
  | done => exact .nothing cycle _ _ first
  | @failed engine stopped buffer moved address remaining reply fault
      remains step =>
      subst address
      have within := engine.nextLength_le remains bounded
      have effect :=
        (step.transferEffect_of_drawn remains covered bounded).extend
        (remaining - engine.nextLength remaining)
      rw [Nat.add_sub_cancel' within] at effect
      exact effect
  | @next engine middle stopped buffer moved last address remaining
      reply blocks result remains step rest induction =>
      subst address
      have within := engine.nextLength_le remains bounded
      have head := step.transferEffect_of_drawn remains covered bounded
      have tail := induction
        (by omega : _ = 2 * (first + engine.nextLength remaining))
        (by rw [head.size_moved]; omega) (by omega)
      have effect := head.append tail
      rw [Nat.add_sub_cancel' within] at effect
      exact effect

section Range

variable {cycle : Cycle} {engine stopped : Engine SimulatedBus γ}
  {buffer moved : Array UInt16} {range : AddressRange}

theorem accessRandom_transferEffect {result : Except BusError Nat}
    (accepted : checkRange engine.width range buffer.size = .ok ())
    (ran : accessRandom cycle buffer range engine =
      .ok ((moved, result), stopped)) :
    ∃ issued outcome,
      result = outcome.map (fun _ => List.length issued) ∧
        TransferEffect cycle engine buffer range.firstWord range.wordCount
          (totalElapsed issued) moved outcome stopped := by
  obtain ⟨start, positive, covered, bounded⟩ := acceptedWords accepted
  obtain ⟨issued, outcome, trace, resultEquality⟩ :=
    (accessRandom_eq_ok accepted).mp ran
  exact ⟨issued, outcome, resultEquality,
    trace.transferEffect start covered bounded⟩

omit [RandomSource γ] in
theorem moveRange_transferEffect {result : Except BusError Unit}
    (accepted : checkRange engine.width range buffer.size = .ok ())
    (ran : moveRange cycle buffer range engine =
      .ok ((moved, result), stopped)) :
    ∃ elapsed,
      TransferEffect cycle engine buffer range.firstWord range.wordCount
        elapsed moved result stopped := by
  obtain ⟨start, positive, covered, bounded⟩ := acceptedWords accepted
  obtain ⟨reply, step⟩ := (moveRange_eq_ok accepted).mp ran
  rw [start] at step
  exact ⟨_, (step.simulated positive covered).transferEffect⟩

end Range

end Engine

end Backplane.Dma
