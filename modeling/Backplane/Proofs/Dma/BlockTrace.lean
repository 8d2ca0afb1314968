import Backplane.Proofs.Dma.Step
import Backplane.Proofs.Random.BlockLength

/-!
# Traces of a random access

A random access is a row of blocks: each has the length that the generator
yields, starts where the one before it ended, and the row ends with the range
or with the first block that fails.  `BlockTrace` lists the blocks; it holds of
a run exactly when the access goes that way.
-/

namespace Backplane.Dma

/-- One block of a random access and what came back for it. -/
structure IssuedBlock where
  start : Nat
  words : Nat
  reply : Except BusError Completion

def IssuedBlock.elapsed (block : IssuedBlock) : Nat :=
  match block.reply with
  | .ok completion => completion.elapsed
  | .error _ => 0

/-- The time that a row of blocks took on the bus. -/
def totalElapsed : List IssuedBlock → Nat
  | [] => 0
  | block :: blocks => block.elapsed + totalElapsed blocks

namespace Engine

variable {σ γ : Type} [Transport σ] [RandomSource γ]

/-- The length of the next block of a random access. -/
def nextLength (engine : Engine σ γ) (remaining : Nat) : Nat :=
  (RandomSource.blockLength remaining engine.generator).1.val

def drawnLength (engine : Engine σ γ) (remaining : Nat) : Engine σ γ :=
  { engine with
    generator := (RandomSource.blockLength remaining engine.generator).2 }

omit [Transport σ] in
theorem nextLength_pos (engine : Engine σ γ) (remaining : Nat) :
    0 < engine.nextLength remaining :=
  (RandomSource.blockLength remaining engine.generator).1.property

omit [Transport σ] in
theorem nextLength_le (engine : Engine σ γ) {remaining : Nat}
    (remains : remaining ≠ 0) (bounded : remaining < RandomSource.wordRange) :
    engine.nextLength remaining ≤ remaining :=
  RandomSource.blockLength_le (Nat.pos_of_ne_zero remains) bounded
    engine.generator

/-- The blocks that move the last `remaining` words of a range. -/
inductive BlockTrace (cycle : Cycle) :
    Engine σ γ → Array UInt16 → Nat → Nat → List IssuedBlock → Array UInt16 →
      Except BusError Unit → Engine σ γ → Prop where
  | done {engine : Engine σ γ} {buffer : Array UInt16} {address : Nat} :
      BlockTrace cycle engine buffer address 0 [] buffer (.ok ()) engine
  | failed {engine stopped : Engine σ γ} {buffer moved : Array UInt16}
      {address remaining : Nat} {reply : Except BusError Completion}
      {fault : BusError} (remains : remaining ≠ 0)
      (step : BlockStep cycle (engine.drawnLength remaining) buffer address
        (engine.nextLength remaining) reply moved (.error fault) stopped) :
      BlockTrace cycle engine buffer address remaining
        [⟨address, engine.nextLength remaining, reply⟩] moved
          (.error fault) stopped
  | next {engine middle stopped : Engine σ γ} {buffer moved last : Array UInt16}
      {address remaining : Nat} {reply : Except BusError Completion}
      {blocks : List IssuedBlock} {result : Except BusError Unit}
      (remains : remaining ≠ 0)
      (step : BlockStep cycle (engine.drawnLength remaining) buffer address
        (engine.nextLength remaining) reply moved (.ok ()) middle)
      (rest : BlockTrace cycle middle moved
        (address + 2 * engine.nextLength remaining)
        (remaining - engine.nextLength remaining) blocks last result stopped) :
      BlockTrace cycle engine buffer address remaining
        (⟨address, engine.nextLength remaining, reply⟩ :: blocks) last
          result stopped

theorem moveBlocks_succ {cycle : Cycle} {buffer : Array UInt16}
    {address remaining blocks : Nat} (remains : remaining ≠ 0)
    (engine : Engine σ γ) :
    moveBlocks cycle buffer address remaining blocks engine =
      (moveBlock cycle buffer address (engine.nextLength remaining) >>=
        fun moved =>
        match moved with
        | (buffer, .error fault) => pure (buffer, .error fault)
        | (buffer, .ok ()) =>
          moveBlocks cycle buffer (address + 2 * engine.nextLength remaining)
            (remaining - engine.nextLength remaining) (blocks + 1))
        (engine.drawnLength remaining) := by
  rw [moveBlocks, dif_neg remains, Timed.bind_of_ok (draw_apply _ _)]
  rfl

theorem BlockTrace.moveBlocks {cycle : Cycle} {engine stopped : Engine σ γ}
    {buffer moved : Array UInt16} {address remaining : Nat}
    {issued : List IssuedBlock} {outcome : Except BusError Unit}
    (trace : BlockTrace cycle engine buffer address remaining issued moved
      outcome stopped)
    (blocks : Nat) :
    Engine.moveBlocks cycle buffer address remaining blocks engine =
      .ok ((moved, outcome.map fun _ => blocks + issued.length), stopped) := by
  induction trace generalizing blocks with
  | done =>
      rw [Engine.moveBlocks, dif_pos rfl]
      rfl
  | failed remains step =>
      rw [moveBlocks_succ remains,
        Timed.bind_of_ok (moveBlock_eq_ok.mpr ⟨_, step⟩)]
      rfl
  | next remains step rest induction =>
      rw [moveBlocks_succ remains,
        Timed.bind_of_ok (moveBlock_eq_ok.mpr ⟨_, step⟩)]
      simp only [induction, List.length_cons]
      congr 4
      funext _
      omega

theorem exists_blockTrace_of_moveBlocks {cycle : Cycle}
    {engine stopped : Engine σ γ} {buffer moved : Array UInt16}
    {address remaining blocks : Nat} {result : Except BusError Nat}
    (ran : Engine.moveBlocks cycle buffer address remaining blocks engine =
      .ok ((moved, result), stopped)) :
    ∃ issued outcome,
      BlockTrace cycle engine buffer address remaining issued moved
        outcome stopped := by
  induction remaining using Nat.strongRecOn generalizing
    engine buffer address blocks with
  | ind remaining induction =>
      by_cases finished : remaining = 0
      · subst remaining
        rw [Engine.moveBlocks, dif_pos rfl] at ran
        cases ran
        exact ⟨[], .ok (), .done⟩
      · rw [moveBlocks_succ finished, Timed.bind_eq_ok] at ran
        obtain ⟨⟨firstMoved, firstResult⟩, middle, moving, rest⟩ := ran
        obtain ⟨reply, step⟩ := moveBlock_eq_ok.mp moving
        cases firstResult with
        | error fault =>
            cases rest
            exact ⟨_, _, .failed finished step⟩
        | ok _ =>
            have positive := engine.nextLength_pos remaining
            obtain ⟨issued, outcome, trace⟩ := induction
              (remaining - engine.nextLength remaining) (by omega) rest
            exact ⟨_, _, .next finished step trace⟩

/-- An access runs exactly along its traces. -/
theorem moveBlocks_eq_ok {cycle : Cycle} {engine stopped : Engine σ γ}
    {buffer moved : Array UInt16} {address remaining blocks : Nat}
    {result : Except BusError Nat} :
    Engine.moveBlocks cycle buffer address remaining blocks engine =
        .ok ((moved, result), stopped) ↔
      ∃ issued outcome,
        BlockTrace cycle engine buffer address remaining issued moved
          outcome stopped ∧
          result = outcome.map fun _ => blocks + issued.length := by
  constructor
  · intro ran
    obtain ⟨issued, outcome, trace⟩ := exists_blockTrace_of_moveBlocks ran
    have along := (trace.moveBlocks blocks).symm.trans ran
    cases along
    exact ⟨issued, outcome, trace, rfl⟩
  · intro run
    obtain ⟨issued, outcome, trace, rfl⟩ := run
    exact trace.moveBlocks blocks

/-- An accepted random access moves all words of its range. -/
theorem accessRandom_eq_ok {cycle : Cycle} {engine stopped : Engine σ γ}
    {buffer moved : Array UInt16} {range : AddressRange}
    {result : Except BusError Nat}
    (accepted : checkRange engine.width range buffer.size = .ok ()) :
    accessRandom cycle buffer range engine = .ok ((moved, result), stopped) ↔
      ∃ issued outcome,
        BlockTrace cycle engine buffer range.first range.wordCount
          issued moved outcome
          stopped ∧ result = outcome.map fun _ => issued.length := by
  rw [accessRandom, Timed.bind_of_ok (Timed.get_apply engine)]
  simp only [accepted, moveBlocks_eq_ok, Nat.zero_add]

theorem BlockTrace.transfers {cycle : Cycle} {engine stopped : Engine σ γ}
    {buffer moved : Array UInt16} {address remaining : Nat}
    {issued : List IssuedBlock} {outcome : Except BusError Unit}
    (trace : BlockTrace cycle engine buffer address remaining issued moved
      outcome stopped)
    (completed : outcome = .ok ()) :
    stopped.stats.transfers = engine.stats.transfers + issued.length := by
  induction trace with
  | done => rfl
  | failed remains step => cases completed
  | @next engine middle stopped buffer moved last address remaining
      reply blocks result remains step rest induction =>
      obtain ⟨completion, rfl⟩ := step.exists_completion
      have counted : middle.stats.transfers = engine.stats.transfers + 1 :=
        step.transfers
      rw [induction completed, counted, List.length_cons]
      omega

theorem BlockTrace.frame {cycle : Cycle} {engine stopped : Engine σ γ}
    {buffer moved : Array UInt16} {address remaining : Nat}
    {issued : List IssuedBlock} {outcome : Except BusError Unit}
    (trace : BlockTrace cycle engine buffer address remaining issued moved
      outcome stopped) :
    ∃ transport stats generator, stopped =
      { engine with
        transport := transport, stats := stats, generator := generator } := by
  induction trace with
  | done => exact ⟨_, _, _, rfl⟩
  | failed _ step =>
      obtain ⟨_, _, rfl⟩ := step.frame
      exact ⟨_, _, _, rfl⟩
  | next _ step _ induction =>
      obtain ⟨_, _, rfl⟩ := step.frame
      exact induction

theorem BlockTrace.issued_ne_nil {cycle : Cycle} {engine stopped : Engine σ γ}
    {buffer moved : Array UInt16} {address remaining : Nat}
    {issued : List IssuedBlock} {outcome : Except BusError Unit}
    (trace : BlockTrace cycle engine buffer address remaining issued moved
      outcome stopped)
    (remains : remaining ≠ 0) : issued ≠ [] := by
  cases trace with
  | done => exact absurd rfl remains
  | failed => exact List.cons_ne_nil _ _
  | next => exact List.cons_ne_nil _ _

theorem accessRandom_of_refused {cycle : Cycle} {engine : Engine σ γ}
    {buffer : Array UInt16} {range : AddressRange} {fault : BusError}
    (refused : checkRange engine.width range buffer.size = .error fault) :
    accessRandom cycle buffer range engine =
      .ok ((buffer, .error fault), engine) := by
  rw [accessRandom, Timed.bind_of_ok (Timed.get_apply engine)]
  simp only [refused]
  rfl

theorem checkRange_of_accessRandom {cycle : Cycle} {engine stopped : Engine σ γ}
    {buffer moved : Array UInt16} {range : AddressRange} {blocks : Nat}
    (ran : accessRandom cycle buffer range engine =
      .ok ((moved, .ok blocks), stopped)) :
    checkRange engine.width range buffer.size = .ok () := by
  cases checked : checkRange engine.width range buffer.size with
  | ok _ => rfl
  | error fault =>
      rw [accessRandom_of_refused checked] at ran
      cases ran

/-- A random access also draws from the generator. -/
theorem accessRandom_frame {cycle : Cycle} {engine stopped : Engine σ γ}
    {buffer moved : Array UInt16} {range : AddressRange}
    {result : Except BusError Nat}
    (ran : accessRandom cycle buffer range engine =
      .ok ((moved, result), stopped)) :
    ∃ transport stats generator, stopped =
      { engine with
        transport := transport, stats := stats, generator := generator } := by
  cases checked : checkRange engine.width range buffer.size with
  | error fault =>
      rw [accessRandom_of_refused checked] at ran
      cases ran
      exact ⟨_, _, _, rfl⟩
  | ok _ =>
      obtain ⟨_, _, trace, _⟩ := (accessRandom_eq_ok checked).mp ran
      exact trace.frame

/-- A completed access issued the blocks that it tells, and at least one. -/
theorem accessRandom_transfers {cycle : Cycle} {engine stopped : Engine σ γ}
    {buffer moved : Array UInt16} {range : AddressRange} {blocks : Nat}
    (ran : accessRandom cycle buffer range engine =
      .ok ((moved, .ok blocks), stopped)) :
    0 < blocks ∧ stopped.stats.transfers = engine.stats.transfers + blocks := by
  obtain ⟨issued, outcome, trace, result⟩ :=
    (accessRandom_eq_ok (checkRange_of_accessRandom ran)).mp ran
  cases outcome with
  | error fault => cases result
  | ok _ =>
      cases result
      exact ⟨List.length_pos_iff.mpr (trace.issued_ne_nil (Nat.succ_ne_zero _)),
        trace.transfers rfl⟩

end Engine

end Backplane.Dma
