import Backplane.Proofs.Dma.BusShare
import Backplane.Proofs.Exerciser.Conduct

/-!
# The time of a workload

On a bus with a simulated clock all time is accounted for.  A request takes the
time of its bus cycles, the idle time after it brings it to its share, and
nothing else that an engine does takes any time.
-/

namespace Backplane

namespace Dma.Engine

variable {γ : Type}

theorem idleAfter_eq {percent : Nat} (inRange : 1 ≤ percent ∧ percent ≤ 100)
    (elapsed : Nat) :
    idleAfter percent elapsed = 100 * elapsed / percent - elapsed := by
  unfold idleAfter
  split
  · rw [Nat.mul_comm]
  · have whole : percent = 100 := by omega
    subst whole
    omega

/-- How a request ended that had `count` words acknowledged, and the time it
took. -/
inductive Ended (wordTime count : Nat) (completion : Completion) : Prop where
  | acknowledged (all : count = completion.words)
      (outcome : completion.outcome = .acknowledged)
      (elapsed : completion.elapsed = wordTime * count)
  | timedOut (some : count < completion.words)
      (outcome : completion.outcome = .timedOut (completion.start + 2 * count))
      (elapsed : completion.elapsed = wordTime * (count + 10))

/-- The time that an engine spends on a request and on the idle time after
it. -/
structure Spent (wordTime percent : Nat) (before : Engine SimulatedBus γ)
    (completion : Completion) (after : Engine SimulatedBus γ) : Prop where
  ended : Ended wordTime
    (before.transport.board.answered completion.start completion.words)
    completion
  throttled : after.stats.throttled =
    before.stats.throttled +
      (100 * completion.elapsed / percent - completion.elapsed)
  clock : after.transport.clock =
    before.transport.clock + completion.elapsed +
      (100 * completion.elapsed / percent - completion.elapsed)

theorem ended_completionOf {engine : Engine SimulatedBus γ}
    (simulated : engine.transport.clockMode = .simulated) (request : Request) :
    Ended engine.transport.wordTime
      (engine.transport.board.answered request.start request.words.size)
      (engine.completionOf request) := by
  have bound := engine.transport.board.answered_le request.start
    request.words.size
  have elapsed : (engine.completionOf request).elapsed =
      engine.transport.wordTime *
        engine.transport.board.blockCycles request.start
        request.words.size := by
    simp only [completionOf, blockCompletion,
      SimulatedBus.elapsedFor, simulated]
  by_cases full : engine.transport.board.answered request.start
    request.words.size = request.words.size
  · refine .acknowledged full
      (MemoryBoard.blockOutcome_eq_acknowledged_iff.mpr full) ?_
    rw [elapsed, MemoryBoard.blockCycles, if_pos full, Nat.add_zero]
  · refine .timedOut (Nat.lt_of_le_of_ne bound full)
      (MemoryBoard.blockOutcome_eq_timedOut_iff.mpr ⟨full, rfl⟩) ?_
    rw [elapsed, MemoryBoard.blockCycles, if_neg full]
    rfl

theorem spent_afterRequest {engine : Engine SimulatedBus γ}
    (simulated : engine.transport.clockMode = .simulated)
    (inRange : 1 ≤ engine.config.bandwidth ∧ engine.config.bandwidth ≤ 100)
    (request : Request) :
    Spent engine.transport.wordTime engine.config.bandwidth engine
      (engine.completionOf request) (engine.afterRequest request) := by
  have idle : engine.idleFor (engine.cyclesOf request) =
      100 * (engine.completionOf request).elapsed / engine.config.bandwidth -
        (engine.completionOf request).elapsed :=
    idleAfter_eq inRange _
  refine ⟨ended_completionOf simulated request, ?_, ?_⟩
  · rw [← idle]
    rfl
  · rw [← idle]
    rfl

end Dma.Engine

namespace Exerciser.Work

open Dma Dma.Engine

variable {γ : Type} [RandomSource γ]

/-- The clock of the bus advances by the time of the requests and by the idle
time that the engine counts.  Idle time brings each request to the share of the
engine, up to less than a nanosecond. -/
theorem session_timekeeping {works : List Work}
    {answers : List (Dma.Answer ⊕ Answer)}
    {engine stopped : Engine SimulatedBus γ}
    (simulated : engine.transport.clockMode = .simulated)
    (valid : engine.config.validate = .ok ())
    (ran : session works engine = .ok (answers, stopped)) :
    ∃ completions busy idle,
      stopped.transport.requests.toList = engine.transport.requests.toList ++
        completions.map (Completion.logged engine.config.slot) ∧
      busy = total Completion.elapsed completions ∧
      stopped.stats.throttled = engine.stats.throttled + idle ∧
      stopped.transport.clock = engine.transport.clock + busy + idle ∧
      (∀ earlier completion later,
        completions = earlier ++ completion :: later →
        ∃ before request words after,
          Conduct (Request.Proper engine.config.slot) engine
            (earlier.map .ok) before ∧
          carryOut request before = .ok (.ok (completion, words), after) ∧
          Conduct (Request.Proper engine.config.slot) after
            (later.map .ok) stopped ∧
          Spent engine.transport.wordTime engine.config.bandwidth
            before completion after) ∧
      engine.config.bandwidth * (busy + idle) ≤ 100 * busy ∧
      100 * busy ≤ engine.config.bandwidth * (busy + idle) +
        completions.length * (engine.config.bandwidth - 1) := by
  have inRange := (Config.validate_eq_ok.mp valid).2
  obtain ⟨replies, conduct⟩ := session_conducted ran
  have proper := conduct.mono fun _ => Request.Lawful.proper
  obtain ⟨completions, rfl, ledger⟩ := proper.ledger (fun _ => id) rfl
  have balance := total_balance inRange completions
  have lost := total_lostShare_le inRange.1 completions
  rw [Nat.mul_comm] at lost
  refine ⟨completions, _, _, ledger.requests, rfl, ledger.throttled,
    ledger.clock, ?_, by omega, by omega⟩
  intro earlier completion later position
  obtain ⟨before, request, result, after, head, _, carried, same, tail⟩ :=
    proper.split (by rw [position, List.map_append, List.map_cons])
  obtain ⟨_, _, ledgerBefore⟩ := head.ledger (fun _ => id) rfl
  obtain ⟨_, rfl, rfl⟩ := carryOut_simulated.mp carried
  cases same
  have spent := spent_afterRequest (ledgerBefore.clockMode.trans simulated)
    (by rw [ledgerBefore.config]; exact inRange) request
  rw [ledgerBefore.wordTime, ledgerBefore.config] at spent
  exact ⟨before, request, _, _, head, carried, tail, spent⟩

/-- A word is read in 1000 ns, and a block that ends behind it in 11000 ns.  The
idle time after them is rounded down by a third and by two thirds of a
nanosecond. -/
theorem session_timekeeping_of_two_reads :
    Dma.Call.threePercentEngine.transport.clockMode = .simulated ∧
    Dma.Call.threePercentEngine.config.validate = .ok () ∧
    ∃ answers stopped completions busy idle,
      session [.direct (.transfer true .dataIn 0 (.sink #[0])),
          .direct (.transfer false .dataIn 0 (.sink #[0, 0]))]
        Dma.Call.threePercentEngine = .ok (answers, stopped) ∧
      stopped.transport.requests.toList =
        completions.map (Completion.logged 31) ∧
      busy = total Completion.elapsed completions ∧ busy = 12000 ∧
      idle = 387999 ∧
      stopped.stats.throttled = idle ∧ stopped.transport.clock = busy + idle ∧
      completions.length = 2 ∧ 3 * (busy + idle) ≤ 100 * busy ∧
      100 * busy ≤ 3 * (busy + idle) + 2 * 2 := by
  have valid : Dma.Call.threePercentEngine.config.validate = .ok () :=
    Config.validate_eq_ok.mpr (by decide)
  obtain ⟨⟨answers, stopped⟩, ran, observed⟩ := exists_of_observed
    (by decide +kernel :
      (session [.direct (.transfer true .dataIn 0 (.sink #[0])),
          .direct (.transfer false .dataIn 0 (.sink #[0, 0]))]
        Dma.Call.threePercentEngine).toOption.map (fun reached =>
          (reached.2.transport.clock, reached.2.stats.throttled,
            reached.2.transport.requests.toList.length)) =
            some (399999, 387999, 2))
  obtain ⟨clock, throttled, count⟩ : stopped.transport.clock = 399999 ∧
      stopped.stats.throttled = 387999 ∧
      stopped.transport.requests.toList.length = 2 := by
    simpa using observed
  obtain ⟨completions, busy, idle, requests, elapsed, idleTime, time,
      _, low, high⟩ :=
    session_timekeeping rfl valid ran
  have start : Dma.Call.threePercentEngine.transport.clock = 0 := rfl
  have idled : Dma.Call.threePercentEngine.stats.throttled = 0 := rfl
  have share : Dma.Call.threePercentEngine.config.bandwidth = 3 := rfl
  have fresh : Dma.Call.threePercentEngine.transport.requests.toList = [] := rfl
  rw [fresh, List.nil_append] at requests
  have length : completions.length = 2 := by
    rw [requests, List.length_map] at count
    exact count
  rw [share] at low high
  exact ⟨rfl, valid, answers, stopped, completions, busy, idle, ran,
    requests, elapsed, by omega, by omega, by omega, by omega, length, low,
    by rw [length] at high; omega⟩

end Exerciser.Work

end Backplane
