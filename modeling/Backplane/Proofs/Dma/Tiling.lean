import Backplane.Proofs.Dma.Transfer

/-!
# Blocks that tile a range

A completed transfer leaves a row of acknowledged blocks in the record of the
bus, each behind the one before, from the first word of the range to the last.
The engine counts as many requests as the bus records.
-/

namespace Backplane.Dma

open MemoryBoard

/-- The record of a block that was acknowledged as a whole. -/
def acknowledgedBlock (slot : Nat) (cycle : Cycle) (first count : Nat) :
    LoggedRequest where
  slot := slot
  cycle := cycle
  start := 2 * first
  words := count
  outcome := .acknowledged

/-- Acknowledged blocks over `count` words from word number `first` on, without
a gap. -/
inductive Tiles (slot : Nat) (cycle : Cycle) :
    Nat → Nat → List LoggedRequest → Prop where
  | nil {first : Nat} : Tiles slot cycle first 0 []
  | cons {first count rest : Nat} {blocks : List LoggedRequest}
      (inhabited : 0 < count)
      (behind : Tiles slot cycle (first + count) rest blocks) :
      Tiles slot cycle first (count + rest)
        (acknowledgedBlock slot cycle first count :: blocks)

namespace Engine

variable {γ : Type}

/-- The requests that the bus recorded and the engine counted between two
states. -/
structure Recorded (engine : Engine SimulatedBus γ) (added : List LoggedRequest)
    (stopped : Engine SimulatedBus γ) : Prop where
  requests : stopped.transport.requests.toList =
    engine.transport.requests.toList ++ added
  transfers : stopped.stats.transfers = engine.stats.transfers + added.length
  width : stopped.width = engine.width
  slot : stopped.config.slot = engine.config.slot

namespace Recorded

variable {engine middle stopped : Engine SimulatedBus γ}
  {first rest added : List LoggedRequest}

theorem nothing (engine : Engine SimulatedBus γ) : Recorded engine [] engine :=
  ⟨(List.append_nil _).symm, rfl, rfl, rfl⟩

theorem append (head : Recorded engine first middle)
    (tail : Recorded middle rest stopped) :
    Recorded engine (first ++ rest) stopped where
  requests := by rw [tail.requests, head.requests, List.append_assoc]
  transfers := by
    rw [tail.transfers, head.transfers, List.length_append, Nat.add_assoc]
  width := tail.width.trans head.width
  slot := tail.slot.trans head.slot

theorem drawn {generator : γ}
    (recorded : Recorded { engine with generator := generator } added stopped) :
    Recorded engine added stopped :=
  ⟨recorded.requests, recorded.transfers, recorded.width, recorded.slot⟩

end Recorded

variable {cycle : Cycle} {engine stopped : Engine SimulatedBus γ}
  {buffer moved : Array UInt16}

/-- A completed block is in the record as a whole. -/
theorem BlockEffect.recorded {first count : Nat}
    {reply : Except BusError Completion}
    (effect : BlockEffect cycle engine buffer first count reply moved
      (.ok ()) stopped) :
    Recorded engine [acknowledgedBlock engine.config.slot cycle first count]
      stopped := by
  obtain ⟨journal, rfl⟩ := effect.stopped
  have success := toResult_eq_ok.mp effect.result.symm
  refine ⟨?_, rfl, rfl, rfl⟩
  rw [acknowledgedBlock, ← success]
  exact Array.toList_push

theorem moveRange_recorded {range : AddressRange}
    (accepted : checkRange engine.width range buffer.size = .ok ())
    (ran : moveRange cycle buffer range engine =
      .ok ((moved, .ok ()), stopped)) :
    Recorded engine
      [acknowledgedBlock engine.config.slot cycle range.firstWord
        range.wordCount]
      stopped := by
  obtain ⟨start, positive, covered, bounded⟩ := acceptedWords accepted
  obtain ⟨reply, step⟩ := (moveRange_eq_ok accepted).mp ran
  rw [start] at step
  exact (step.simulated positive covered).recorded

variable [RandomSource γ]

theorem BlockTrace.tiles {address first remaining : Nat}
    {issued : List IssuedBlock} {result : Except BusError Unit}
    (trace : BlockTrace cycle engine buffer address remaining issued moved
      result stopped)
    (completed : result = .ok ()) (start : address = 2 * first)
    (covered : first + remaining ≤ buffer.size)
    (bounded : remaining < RandomSource.wordRange) :
    ∃ blocks, Recorded engine blocks stopped ∧
      Tiles engine.config.slot cycle first remaining blocks ∧
      blocks.length = issued.length := by
  induction trace generalizing first with
  | done => exact ⟨[], .nothing _, .nil, rfl⟩
  | failed => cases completed
  | @next engine middle stopped buffer moved last address remaining
      reply issued result remains step rest induction =>
      subst address
      have positive := engine.nextLength_pos remaining
      have within := engine.nextLength_le remains bounded
      have effect := step.simulated positive (by omega)
      have size : moved.size = buffer.size := by
        rw [effect.moved, size_wordsAfter]
      have block := effect.recorded.drawn
      obtain ⟨blocks, recorded, tiles, length⟩ := induction completed
        (by omega : _ = 2 * (first + engine.nextLength remaining))
        (by omega) (by omega)
      rw [block.slot] at tiles
      have tiled := Tiles.cons positive tiles
      rw [Nat.add_sub_cancel' within] at tiled
      exact ⟨_, block.append recorded, tiled, congrArg Nat.succ length⟩

/-- A completed access tiles its range, and tells the number of blocks. -/
theorem accessRandom_tiles {range : AddressRange} {count : Nat}
    (accepted : checkRange engine.width range buffer.size = .ok ())
    (ran : accessRandom cycle buffer range engine =
      .ok ((moved, .ok count), stopped)) :
    ∃ blocks, Recorded engine blocks stopped ∧
      Tiles engine.config.slot cycle range.firstWord range.wordCount blocks ∧
      blocks.length = count := by
  obtain ⟨start, positive, covered, bounded⟩ := acceptedWords accepted
  obtain ⟨issued, outcome, trace, told⟩ := (accessRandom_eq_ok accepted).mp ran
  cases outcome with
  | error fault => cases told
  | ok _ =>
      cases told
      exact trace.tiles rfl start covered bounded

end Engine

end Backplane.Dma
