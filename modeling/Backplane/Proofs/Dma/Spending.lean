import Backplane.Proofs.Dma.Transfer

/-!
# Time spent in transfers

A transfer spends the time of its bus cycles and the idle time after each block.
Idle times are rounded down one by one, so the blocks of a random access spend
no more than one block over the same words, and what the clock affords at once
it affords in parts.
-/

namespace Backplane.Dma

open MemoryBoard

namespace Engine

theorem idleAfter_add_le (percent first rest : Nat) :
    idleAfter percent first + idleAfter percent rest ≤
      idleAfter percent (first + rest) := by
  simp only [idleAfter]
  split
  · rename_i share
    cases percent with
    | zero => simp
    | succ percent =>
        have fullTime (elapsed : Nat) :
            elapsed ≤ elapsed * 100 / (percent + 1) := by
          rw [Nat.le_div_iff_mul_le (Nat.succ_pos percent)]
          exact Nat.mul_le_mul_left elapsed (Nat.le_of_lt share)
        have firstTime := fullTime first
        have restTime := fullTime rest
        have rounded : first * 100 / (percent + 1) + rest *
            100 / (percent + 1) ≤ (first + rest) * 100 / (percent + 1) := by
          rw [Nat.add_mul]
          exact Nat.div_add_div_le_add_div
        omega
  · exact Nat.le_refl 0

variable {γ : Type}

theorem idleFor_add_le (engine : Engine SimulatedBus γ) (first rest : Nat) :
    engine.idleFor first + engine.idleFor rest ≤
      engine.idleFor (first + rest) := by
  simp only [idleFor, SimulatedBus.elapsedFor_add]
  exact idleAfter_add_le _ _ _

/-- What is affordable at once is affordable in a first part. -/
theorem Affords.head {engine : Engine SimulatedBus γ} {first rest : Nat}
    (affords : engine.Affords (first + rest)) : engine.Affords first := by
  obtain ⟨⟨timeFits, clockFits⟩, scaledFits, idleFits⟩ := affords
  have time := Nat.mul_add engine.transport.wordTime first rest
  have elapsed := engine.transport.elapsedFor_add first rest
  have idle := engine.idleFor_add_le first rest
  refine ⟨⟨by omega, ?_⟩, ?_, ?_⟩
  · intro simulated
    have := clockFits simulated
    omega
  · intro share
    have := scaledFits share
    omega
  · intro busy
    have := idleFits (by omega)
    omega

theorem Affords.mono {engine : Engine SimulatedBus γ} {fewer more : Nat}
    (affords : engine.Affords more) (within : fewer ≤ more) :
    engine.Affords fewer := by
  obtain ⟨rest, rfl⟩ := Nat.exists_eq_add_of_le within
  exact affords.head

/-- The clock went on by at most the time of some bus cycles and the idle time
after them. -/
structure Spends (engine : Engine SimulatedBus γ) (cycles : Nat)
    (stopped : Engine SimulatedBus γ) : Prop where
  settings : SameSettings engine stopped
  clock : stopped.transport.clock ≤
    engine.transport.clock + engine.transport.elapsedFor cycles +
      engine.idleFor cycles
  throttled : stopped.stats.throttled ≤
    engine.stats.throttled + engine.idleFor cycles

namespace Spends

variable {engine middle stopped : Engine SimulatedBus γ} {first rest : Nat}

theorem of_same (settings : SameSettings engine stopped)
    (clock : stopped.transport.clock = engine.transport.clock)
    (throttled : stopped.stats.throttled = engine.stats.throttled)
    (cycles : Nat) : Spends engine cycles stopped where
  settings := settings
  clock := by omega
  throttled := by omega

theorem trans (head : Spends engine first middle)
    (tail : Spends middle rest stopped) :
    Spends engine (first + rest) stopped := by
  have idle := engine.idleFor_add_le first rest
  have clock := tail.clock
  have throttled := tail.throttled
  rw [head.settings.elapsedFor, head.settings.idleFor] at clock
  rw [head.settings.idleFor] at throttled
  have headClock := head.clock
  have headThrottled := head.throttled
  refine ⟨head.settings.trans tail.settings, ?_, by omega⟩
  rw [SimulatedBus.elapsedFor_add]
  omega

theorem mono (spends : Spends engine first stopped) (within : first ≤ rest) :
    Spends engine rest stopped := by
  have more := spends.trans (.of_same (.refl stopped) rfl rfl (rest - first))
  rw [Nat.add_sub_cancel' within] at more
  exact more

end Spends

/-- What is affordable at once is affordable in the rest behind a first part. -/
theorem Affords.tail {engine next : Engine SimulatedBus γ} {first rest : Nat}
    (affords : engine.Affords (first + rest))
    (spends : Spends engine first next) : next.Affords rest := by
  obtain ⟨⟨timeFits, clockFits⟩, scaledFits, idleFits⟩ := affords
  obtain ⟨settings, clock, throttled⟩ := spends
  have time := Nat.mul_add engine.transport.wordTime first rest
  have elapsed := engine.transport.elapsedFor_add first rest
  have idle := engine.idleFor_add_le first rest
  refine ⟨⟨?_, ?_⟩, ?_, ?_⟩
  · rw [settings.wordTime]
    omega
  · rw [settings.clockMode, settings.wordTime]
    intro simulated
    have bound := clockFits simulated
    have firstTime : engine.transport.elapsedFor first =
        engine.transport.wordTime * first := by
      simp only [SimulatedBus.elapsedFor, simulated]
    have restTime : engine.transport.elapsedFor rest =
        engine.transport.wordTime * rest := by
      simp only [SimulatedBus.elapsedFor, simulated]
    by_cases lazy : engine.idleFor (first + rest) = 0
    · omega
    · have := idleFits lazy
      omega
  · rw [settings.config, settings.elapsedFor]
    intro share
    have := scaledFits share
    omega
  · rw [settings.idleFor, settings.elapsedFor]
    intro busy
    have := idleFits (by omega)
    omega

theorem BlockStep.spends {cycle : Cycle}
    {engine stopped : Engine SimulatedBus γ} {buffer moved : Array UInt16}
    {first count : Nat} {reply : Except BusError Completion}
    {result : Except BusError Unit} (positive : 0 < count)
    (covered : first + count ≤ buffer.size)
    (step : BlockStep cycle engine buffer (2 * first) count reply moved
      result stopped) :
    Spends engine (engine.transport.board.blockCycles (2 * first) count)
      stopped := by
  have settings := (step.simulated positive covered).transferEffect.settings
  obtain ⟨journal, rfl⟩ := (step.simulated positive covered).stopped
  exact ⟨settings, Nat.le_refl _, Nat.le_refl _⟩

variable [RandomSource γ]

theorem BlockStep.spends_of_drawn {cycle : Cycle}
    {engine stopped : Engine SimulatedBus γ} {buffer moved : Array UInt16}
    {first remaining : Nat} {reply : Except BusError Completion}
    {result : Except BusError Unit} (remains : remaining ≠ 0)
    (covered : first + remaining ≤ buffer.size)
    (bounded : remaining < RandomSource.wordRange)
    (step : BlockStep cycle (engine.drawnLength remaining) buffer (2 * first)
      (engine.nextLength remaining) reply moved result stopped) :
    Spends engine
      (engine.transport.board.blockCycles (2 * first)
        (engine.nextLength remaining))
      stopped := by
  have within := engine.nextLength_le remains bounded
  have spends := step.spends (engine.nextLength_pos remaining) (by omega)
  have settings :=
    (step.transferEffect_of_drawn remains covered bounded).settings
  exact ⟨settings, spends.clock, spends.throttled⟩

/-- The blocks of a random access spend no more than one block would. -/
theorem BlockTrace.spends {cycle : Cycle}
    {engine stopped : Engine SimulatedBus γ} {buffer moved : Array UInt16}
    {address first remaining : Nat} {issued : List IssuedBlock}
    {result : Except BusError Unit}
    (trace : BlockTrace cycle engine buffer address remaining issued moved
      result stopped)
    (start : address = 2 * first) (covered : first + remaining ≤ buffer.size)
    (bounded : remaining < RandomSource.wordRange) :
    Spends engine (engine.transport.board.blockCycles (2 * first) remaining)
      stopped := by
  induction trace generalizing first with
  | done => exact .of_same (.refl _) rfl rfl _
  | @failed engine stopped buffer moved address remaining reply fault
      remains step =>
      subst address
      have within := engine.nextLength_le remains bounded
      have effect := step.transferEffect_of_drawn remains covered bounded
      have cycles := blockCycles_add_of_short effect.short
        (remaining - engine.nextLength remaining)
      rw [Nat.add_sub_cancel' within] at cycles
      rw [cycles]
      exact step.spends_of_drawn remains covered bounded
  | @next engine middle stopped buffer moved last address remaining
      reply blocks result remains step rest induction =>
      subst address
      have within := engine.nextLength_le remains bounded
      have effect := step.transferEffect_of_drawn remains covered bounded
      have head := step.spends_of_drawn remains covered bounded
      have address : 2 * (first + engine.nextLength remaining) =
          2 * first + 2 * engine.nextLength remaining := by omega
      have tail := induction address.symm (by rw [effect.size_moved]; omega)
        (by omega)
      have cycles := blockCycles_add_of_full effect.full
        (remaining - engine.nextLength remaining)
      rw [Nat.add_sub_cancel' within] at cycles
      rw [effect.sameWiring.blockCycles, address] at tail
      rw [cycles]
      exact head.trans tail

/-- Where one block overflows no clock, a random access runs to its end. -/
theorem exists_blockTrace {cycle : Cycle} {engine : Engine SimulatedBus γ}
    {buffer : Array UInt16} {first remaining : Nat}
    (covered : first + remaining ≤ buffer.size)
    (bounded : remaining < RandomSource.wordRange)
    (affords : engine.Affords
      (engine.transport.board.blockCycles (2 * first) remaining)) :
    ∃ issued moved result stopped,
      BlockTrace cycle engine buffer (2 * first) remaining issued moved result
        stopped := by
  induction remaining using Nat.strongRecOn generalizing
    engine buffer first with
  | ind remaining induction =>
      by_cases finished : remaining = 0
      · subst remaining
        exact ⟨[], buffer, .ok (), engine, .done⟩
      · have positive := engine.nextLength_pos remaining
        have within := engine.nextLength_le finished bounded
        obtain ⟨reply, moved, result, middle, step⟩ :=
          exists_blockStep (engine.drawnLength remaining) cycle positive
            (Nat.le_trans (Nat.add_le_add_left within first) covered)
            (affords.mono (engine.transport.board.blockCycles_mono
              (2 * first) within))
        have head := step.transferEffect_of_drawn finished covered bounded
        cases result with
        | error fault => exact ⟨_, _, _, _, .failed finished step⟩
        | ok _ =>
            -- The rest is affordable behind the first block.
            have cycles := blockCycles_add_of_full head.full
              (remaining - engine.nextLength remaining)
            rw [Nat.add_sub_cancel' within] at cycles
            rw [cycles] at affords
            have address : 2 * (first + engine.nextLength remaining) =
                2 * first + 2 * engine.nextLength remaining := by omega
            have restAffords :=
              affords.tail (step.spends_of_drawn finished covered bounded)
            rw [← address, ← head.sameWiring.blockCycles] at restAffords
            have restCovered : first + engine.nextLength remaining +
                (remaining - engine.nextLength remaining) ≤ moved.size := by
              rw [head.size_moved]
              omega
            obtain ⟨issued, last, result, stopped, rest⟩ := induction
              (remaining - engine.nextLength remaining)
              (by omega) restCovered (by omega) restAffords
            rw [address] at rest
            exact ⟨_, _, _, _, .next finished step rest⟩

section Range

variable {cycle : Cycle} {engine stopped : Engine SimulatedBus γ}
  {buffer moved : Array UInt16} {range : AddressRange}

omit [RandomSource γ] in
theorem moveRange_spends {result : Except BusError Unit}
    (accepted : checkRange engine.width range buffer.size = .ok ())
    (ran : moveRange cycle buffer range engine =
      .ok ((moved, result), stopped)) :
    Spends engine
      (engine.transport.board.blockCycles (2 * range.firstWord) range.wordCount)
      stopped := by
  obtain ⟨start, positive, covered, _⟩ := acceptedWords accepted
  obtain ⟨reply, step⟩ := (moveRange_eq_ok accepted).mp ran
  rw [start] at step
  exact step.spends positive covered

theorem accessRandom_spends {result : Except BusError Nat}
    (accepted : checkRange engine.width range buffer.size = .ok ())
    (ran : accessRandom cycle buffer range engine =
      .ok ((moved, result), stopped)) :
    Spends engine
      (engine.transport.board.blockCycles (2 * range.firstWord) range.wordCount)
      stopped := by
  obtain ⟨start, _, covered, bounded⟩ := acceptedWords accepted
  obtain ⟨_, _, trace, _⟩ := (accessRandom_eq_ok accepted).mp ran
  exact trace.spends start covered bounded

end Range

end Engine

end Backplane.Dma
