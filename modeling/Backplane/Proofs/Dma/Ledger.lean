import Backplane.Proofs.Dma.Conduct
import Backplane.Proofs.Dma.Transfer

/-!
# The ledger of an engine

Request by request, what an engine adds to the record and to the clock of a
simulated bus, and to its own count of idle time.  The blocks of one operation
are acknowledged one after the other, up to the first that times out.
-/

namespace Backplane.Dma

open MemoryBoard

namespace Completion

/-- The bus cycles that the request took. -/
def cycles (completion : Completion) : Nat :=
  match completion.outcome with
  | .acknowledged => completion.words
  | .timedOut address =>
    (address - completion.start) / 2 + SimulatedBus.timeoutCycles

/-- The request in the record of the bus. -/
def logged (slot : Nat) (completion : Completion) : LoggedRequest where
  slot := slot
  cycle := completion.cycle
  start := completion.start
  words := completion.words
  outcome := completion.outcome

end Completion

/-- A measure of requests, added up over a row of them. -/
def total (measure : Completion → Nat) : List Completion → Nat
  | [] => 0
  | completion :: completions => measure completion + total measure completions

theorem total_append (measure : Completion → Nat)
    (first rest : List Completion) :
    total measure (first ++ rest) =
      total measure first + total measure rest := by
  induction first with
  | nil => exact (Nat.zero_add _).symm
  | cons completion first induction =>
      rw [List.cons_append, total, total, induction, Nat.add_assoc]

/-- The blocks of an operation, each behind the one before, and how they end. -/
inductive Row (cycle : Cycle) :
    Nat → List Completion → Except BusError Unit → Prop where
  | nil {address : Nat} : Row cycle address [] (.ok ())
  | timedOut {last : Completion} {address : Nat}
      (sameCycle : last.cycle = cycle) (inhabited : 0 < last.words)
      (silent : last.outcome = .timedOut address) :
      Row cycle last.start [last] (.error (.timeout address))
  | next {block : Completion} {rest : List Completion}
      {result : Except BusError Unit} (sameCycle : block.cycle = cycle)
      (inhabited : 0 < block.words) (success : block.outcome = .acknowledged)
      (behind : Row cycle (block.start + 2 * block.words) rest result) :
      Row cycle block.start (block :: rest) result

namespace Engine

variable {γ : Type}

/-- The idle time after a request. -/
def idleOf (engine : Engine SimulatedBus γ) (completion : Completion) : Nat :=
  idleAfter engine.config.bandwidth completion.elapsed

/-- The requests that an engine carried out between two states. -/
structure Ledger (engine : Engine SimulatedBus γ)
    (completions : List Completion) (stopped : Engine SimulatedBus γ) :
    Prop where
  width : stopped.width = engine.width
  config : stopped.config = engine.config
  wordTime : stopped.transport.wordTime = engine.transport.wordTime
  clockMode : stopped.transport.clockMode = engine.transport.clockMode
  requests : stopped.transport.requests.toList =
    engine.transport.requests.toList ++
      completions.map (Completion.logged engine.config.slot)
  elapsed : ∀ completion ∈ completions,
    completion.elapsed = engine.transport.elapsedFor completion.cycles
  throttled : stopped.stats.throttled =
    engine.stats.throttled + total engine.idleOf completions
  clock : stopped.transport.clock =
    engine.transport.clock + total Completion.elapsed completions +
      total engine.idleOf completions

namespace Ledger

variable {engine middle stopped : Engine SimulatedBus γ}
  {first rest completions : List Completion}

theorem nothing (engine : Engine SimulatedBus γ) : Ledger engine [] engine :=
  ⟨rfl, rfl, rfl, rfl, (List.append_nil _).symm,
    List.forall_mem_nil _, rfl, rfl⟩

theorem append (head : Ledger engine first middle)
    (tail : Ledger middle rest stopped) :
    Ledger engine (first ++ rest) stopped := by
  have idle : middle.idleOf = engine.idleOf := by
    unfold idleOf
    rw [head.config]
  have time (cycles : Nat) :
      middle.transport.elapsedFor cycles =
      engine.transport.elapsedFor cycles := by
    simp only [SimulatedBus.elapsedFor, head.clockMode, head.wordTime]
  refine ⟨tail.width.trans head.width, tail.config.trans head.config,
    tail.wordTime.trans head.wordTime, tail.clockMode.trans head.clockMode,
    ?_, ?_, ?_, ?_⟩
  · rw [tail.requests, head.requests, head.config, List.map_append,
      List.append_assoc]
  · intro completion member
    rcases List.mem_append.mp member with inFirst | inRest
    · exact head.elapsed completion inFirst
    · exact (tail.elapsed completion inRest).trans (time _)
  · rw [tail.throttled, head.throttled, idle, total_append, Nat.add_assoc]
  · rw [tail.clock, head.clock, idle, total_append, total_append]
    omega

/-- The journal is not in the ledger. -/
theorem noted {event : Event}
    (ledger : Ledger (engine.noted event) completions stopped) :
    Ledger engine completions stopped :=
  ⟨ledger.width, ledger.config, ledger.wordTime, ledger.clockMode,
    ledger.requests,
    ledger.elapsed, ledger.throttled, ledger.clock⟩

/-- Nor are random numbers. -/
theorem drawn {generator : γ}
    (ledger : Ledger { engine with generator := generator }
      completions stopped) :
    Ledger engine completions stopped :=
  ⟨ledger.width, ledger.config, ledger.wordTime, ledger.clockMode,
    ledger.requests,
    ledger.elapsed, ledger.throttled, ledger.clock⟩

/-- Nor is the completion that waits to be collected. -/
theorem kept {pending? : Option Completion}
    (ledger : Ledger { engine with pending? := pending? } completions stopped) :
    Ledger engine completions stopped :=
  ⟨ledger.width, ledger.config, ledger.wordTime, ledger.clockMode,
    ledger.requests,
    ledger.elapsed, ledger.throttled, ledger.clock⟩

end Ledger

theorem row_blockCompletion (engine : Engine SimulatedBus γ) (cycle : Cycle)
    (start : Nat) {count : Nat} (positive : 0 < count) :
    Row cycle start [engine.blockCompletion cycle start count]
      (engine.transport.board.blockOutcome start count).toResult := by
  cases outcome : engine.transport.board.blockOutcome start count with
  | acknowledged =>
      exact @Row.next cycle (engine.blockCompletion cycle start count)
        [] _ rfl positive outcome .nil
  | timedOut address =>
      exact @Row.timedOut cycle (engine.blockCompletion cycle start count)
        address rfl positive outcome

theorem cycles_blockCompletion (engine : Engine SimulatedBus γ) (cycle : Cycle)
    (start count : Nat) :
    (engine.blockCompletion cycle start count).cycles =
      engine.transport.board.blockCycles start count := by
  simp only [Completion.cycles, blockCompletion, blockOutcome, blockCycles]
  by_cases full : engine.transport.board.answered start count = count
  · simp only [full, if_true, Nat.add_zero]
  · simp only [full, if_false]
    omega

/-- One request, and the idle time after it. -/
theorem Ledger.single (engine : Engine SimulatedBus γ) {request : Request}
    (slot : request.slot = engine.config.slot) :
    Ledger engine [engine.completionOf request]
      (engine.afterRequest request) where
  width := rfl
  config := rfl
  wordTime := rfl
  clockMode := rfl
  requests := by
    rw [← slot]
    exact Array.toList_push
  elapsed completion member := by
    cases List.mem_singleton.mp member
    exact congrArg engine.transport.elapsedFor
      (engine.cycles_blockCompletion _ _ _).symm
  throttled := rfl
  clock := rfl

theorem ledger_afterRequest (engine : Engine SimulatedBus γ) (event : Event)
    {request : Request} (slot : request.slot = engine.config.slot) :
    Ledger engine [engine.completionOf request]
      ((engine.noted event).afterRequest request) :=
  .noted (.single (engine.noted event) slot)

/-- Every request of a conduct is carried out, and stands in the ledger. -/
theorem Conduct.ledger {engine stopped : Engine SimulatedBus γ}
    {replies : List (Except BusError Completion)} {permitted : Request → Prop}
    {slot : Nat} (conduct : Conduct permitted engine replies stopped)
    (proper : ∀ request, permitted request → request.Proper slot)
    (own : slot = engine.config.slot) :
    ∃ completions, replies = completions.map .ok ∧
    Ledger engine completions stopped := by
  induction conduct with
  | done => exact ⟨[], rfl, .nothing _⟩
  | noted _ _ induction =>
      obtain ⟨completions, replies, ledger⟩ := induction own
      exact ⟨completions, replies, ledger.noted⟩
  | drawn _ _ induction =>
      obtain ⟨completions, replies, ledger⟩ := induction own
      exact ⟨completions, replies, ledger.drawn⟩
  | kept _ _ induction =>
      obtain ⟨completions, replies, ledger⟩ := induction own
      exact ⟨completions, replies, ledger.kept⟩
  | carried permits ran _ induction =>
      obtain ⟨_, rfl, rfl⟩ := carryOut_simulated.mp ran
      obtain ⟨completions, rfl, ledger⟩ := induction own
      have head := Ledger.single _ ((proper _ permits).slot.trans own)
      exact ⟨_ :: completions, rfl, head.append ledger⟩

variable {cycle : Cycle} {engine stopped : Engine SimulatedBus γ}
  {buffer moved : Array UInt16} {result : Except BusError Unit}

theorem BlockEffect.ledger {first count : Nat}
    {reply : Except BusError Completion}
    (effect : BlockEffect cycle engine buffer first count reply moved
      result stopped) :
    Ledger engine [engine.blockCompletion cycle (2 * first) count] stopped := by
  obtain ⟨journal, rfl⟩ := effect.stopped
  refine ⟨rfl, rfl, rfl, rfl, Array.toList_push, ?_, rfl, rfl⟩
  intro completion member
  cases List.mem_singleton.mp member
  exact congrArg engine.transport.elapsedFor
    (engine.cycles_blockCompletion _ _ _).symm

theorem moveRange_ledger {range : AddressRange}
    (accepted : checkRange engine.width range buffer.size = .ok ())
    (ran : moveRange cycle buffer range engine =
      .ok ((moved, result), stopped)) :
    ∃ completions, Ledger engine completions stopped ∧
      Row cycle range.first completions result ∧ completions.length = 1 := by
  obtain ⟨start, positive, covered, bounded⟩ := acceptedWords accepted
  obtain ⟨reply, step⟩ := (moveRange_eq_ok accepted).mp ran
  rw [start] at step
  have effect := step.simulated positive covered
  rw [effect.result, start]
  exact ⟨_, effect.ledger, engine.row_blockCompletion cycle _ positive, rfl⟩

variable [RandomSource γ]

theorem BlockTrace.ledger {address first remaining : Nat}
    {issued : List IssuedBlock}
    (trace : BlockTrace cycle engine buffer address remaining issued moved
      result stopped)
    (start : address = 2 * first) (covered : first + remaining ≤ buffer.size)
    (bounded : remaining < RandomSource.wordRange) :
    ∃ completions, Ledger engine completions stopped ∧
      Row cycle address completions result ∧
      issued.map IssuedBlock.reply = completions.map .ok := by
  induction trace generalizing first with
  | done => exact ⟨[], .nothing _, .nil, rfl⟩
  | @failed engine stopped buffer moved address remaining reply fault
      remains step =>
      subst address
      have positive := engine.nextLength_pos remaining
      have within := engine.nextLength_le remains bounded
      have effect := step.simulated positive (by omega)
      refine ⟨_, effect.ledger.drawn, ?_,
        congrArg (fun reply => [reply]) effect.reply⟩
      rw [effect.result]
      exact row_blockCompletion _ cycle _ positive
  | @next engine middle stopped buffer moved last address remaining
      reply blocks result remains step rest induction =>
      subst address
      have positive := engine.nextLength_pos remaining
      have within := engine.nextLength_le remains bounded
      have effect := step.simulated positive (by omega)
      have size : moved.size = buffer.size := by
        rw [effect.moved, size_wordsAfter]
      -- The row may go on behind this block because only an acknowledged block
      -- has a rest.
      obtain ⟨completions, ledger, row, replies⟩ := induction
        (by omega : _ = 2 * (first + engine.nextLength remaining))
        (by omega) (by omega)
      have extended := @Row.next cycle
        ((engine.drawnLength remaining).blockCompletion cycle (2 * first)
          (engine.nextLength remaining)) completions result rfl positive
        (toResult_eq_ok.mp effect.result.symm) row
      refine ⟨_, effect.ledger.drawn.append ledger, extended, ?_⟩
      rw [List.map_cons, replies, effect.reply]
      rfl

theorem accessRandom_ledger {range : AddressRange}
    {result : Except BusError Nat}
    (accepted : checkRange engine.width range buffer.size = .ok ())
    (ran : accessRandom cycle buffer range engine =
      .ok ((moved, result), stopped)) :
    ∃ completions outcome, Ledger engine completions stopped ∧
      Row cycle range.first completions outcome ∧
      result = outcome.map fun _ => completions.length := by
  obtain ⟨start, positive, covered, bounded⟩ := acceptedWords accepted
  obtain ⟨issued, outcome, trace, blocks⟩ :=
    (accessRandom_eq_ok accepted).mp ran
  obtain ⟨completions, ledger, row, replies⟩ :=
    trace.ledger start covered bounded
  have length := congrArg List.length replies
  rw [List.length_map, List.length_map] at length
  rw [length] at blocks
  exact ⟨completions, outcome, ledger, row, blocks⟩

theorem accessRandom_ledger_of_ok {range : AddressRange} {blocks : Nat}
    (accepted : checkRange engine.width range buffer.size = .ok ())
    (ran : accessRandom cycle buffer range engine =
      .ok ((moved, .ok blocks), stopped)) :
    ∃ completions, Ledger engine completions stopped ∧
      Row cycle range.first completions (.ok ()) ∧
      completions.length = blocks := by
  obtain ⟨completions, outcome, ledger, row, result⟩ :=
    accessRandom_ledger accepted ran
  cases outcome with
  | error fault => cases result
  | ok _ =>
      cases result
      exact ⟨completions, ledger, row, rfl⟩

theorem accessRandom_ledger_of_error {range : AddressRange} {fault : BusError}
    (accepted : checkRange engine.width range buffer.size = .ok ())
    (ran : accessRandom cycle buffer range engine =
      .ok ((moved, .error fault), stopped)) :
    ∃ completions, Ledger engine completions stopped ∧
      Row cycle range.first completions (.error fault) := by
  obtain ⟨completions, outcome, ledger, row, result⟩ :=
    accessRandom_ledger accepted ran
  cases outcome with
  | error fault =>
      cases result
      exact ⟨completions, ledger, row⟩
  | ok _ => cases result

end Engine

end Backplane.Dma
