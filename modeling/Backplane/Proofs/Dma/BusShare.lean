import Backplane.Proofs.Dma.Session

/-!
# The share of bus time

An engine leaves the bus idle after every request so that transfers take their
share of the time.  Each idle time is rounded down to a whole nanosecond, and
what is lost with it adds up: a session keeps to its share just where no
request loses anything, and exceeds it by less than the share of a nanosecond
for each request.
-/

namespace Backplane.Dma

/-- What rounding the idle time after a request down loses, in units of which a
nanosecond of idle time has `percent`. -/
def lostShare (percent : Nat) (completion : Completion) : Nat :=
  completion.elapsed * 100 % percent

theorem elapsed_balance {percent : Nat} (inRange : 1 ≤ percent ∧ percent ≤ 100)
    (elapsed : Nat) :
    100 * elapsed =
      percent * (elapsed + Engine.idleAfter percent elapsed) + elapsed *
        100 % percent := by
  have division := Nat.div_add_mod (elapsed * 100) percent
  unfold Engine.idleAfter
  split
  · -- The full time is never below the elapsed time, so the difference is not
    -- cut off at 0.
    have fullTime : elapsed ≤ elapsed * 100 / percent := by
      rw [Nat.le_div_iff_mul_le inRange.1]
      exact Nat.mul_le_mul_left elapsed inRange.2
    rw [Nat.add_sub_cancel' fullTime, division, Nat.mul_comm]
  · have whole : percent = 100 := by omega
    subst whole
    omega

theorem total_eq_zero_iff {measure : Completion → Nat}
    {completions : List Completion} :
    total measure completions = 0 ↔
    ∀ completion ∈ completions, measure completion = 0 := by
  induction completions with
  | nil => simp [total]
  | cons completion completions induction =>
      rw [total, Nat.add_eq_zero_iff, induction, List.forall_mem_cons]

theorem total_le {measure : Completion → Nat} {bound : Nat}
    {completions : List Completion}
    (bounded : ∀ completion ∈ completions, measure completion ≤ bound) :
    total measure completions ≤ bound * completions.length := by
  induction completions with
  | nil => exact Nat.zero_le _
  | cons completion completions induction =>
      obtain ⟨head, tail⟩ := List.forall_mem_cons.mp bounded
      rw [total, List.length_cons, Nat.mul_succ, Nat.add_comm]
      exact Nat.add_le_add (induction tail) head

theorem total_lostShare_le {percent : Nat} (positive : 1 ≤ percent)
    (completions : List Completion) :
    total (lostShare percent) completions ≤
      (percent - 1) * completions.length := by
  apply total_le
  intro completion _
  exact Nat.le_sub_one_of_lt (Nat.mod_lt _ positive)

namespace Engine

variable {γ : Type} {engine : Engine SimulatedBus γ}

theorem total_balance
    (inRange : 1 ≤ engine.config.bandwidth ∧ engine.config.bandwidth ≤ 100)
    (completions : List Completion) :
    100 * total Completion.elapsed completions =
      engine.config.bandwidth *
          (total Completion.elapsed completions + total engine.idleOf
            completions) +
        total (lostShare engine.config.bandwidth) completions := by
  induction completions with
  | nil => rfl
  | cons completion completions induction =>
      have head := elapsed_balance inRange completion.elapsed
      simp only [total, idleOf, lostShare] at induction ⊢
      simp only [Nat.mul_add] at head induction ⊢
      omega

end Engine

namespace Call

open Engine

variable {γ : Type} [RandomSource γ]

/-- In a session with an engine of `bandwidth` percent, transfers keep to their
share of the time just where no request has its idle time rounded down, and
exceed it by less than `bandwidth` hundredths of a nanosecond for each
request. -/
theorem session_share {calls : List Call} {answers : List Answer}
    {engine stopped : Engine SimulatedBus γ}
    (inRange : 1 ≤ engine.config.bandwidth ∧ engine.config.bandwidth ≤ 100)
    (ran : session calls engine = .ok (answers, stopped)) :
    ∃ completions busy idle,
      Ledger engine completions stopped ∧
      busy = total Completion.elapsed completions ∧
      stopped.stats.throttled = engine.stats.throttled + idle ∧
      stopped.transport.clock = engine.transport.clock + busy + idle ∧
      (100 * busy ≤ engine.config.bandwidth * (busy + idle) ↔
        ∀ completion ∈ completions,
          engine.config.bandwidth ∣ completion.elapsed * 100) ∧
      engine.config.bandwidth * (busy + idle) ≤ 100 * busy ∧
      100 * busy ≤ engine.config.bandwidth * (busy + idle) +
        (engine.config.bandwidth - 1) * completions.length := by
  obtain ⟨completions, ledger⟩ := session_ledger ran
  have balance := total_balance inRange completions
  have exact_iff : total (lostShare engine.config.bandwidth) completions = 0 ↔
      ∀ completion ∈ completions, engine.config.bandwidth ∣
        completion.elapsed * 100 := by
    simp only [total_eq_zero_iff, lostShare, Nat.dvd_iff_mod_eq_zero]
  have lost := total_lostShare_le inRange.1 completions
  refine ⟨completions, _, _, ledger, rfl, ledger.throttled,
    ledger.clock, ?_, ?_, ?_⟩
  · rw [← exact_iff]
    omega
  · omega
  · omega

/-- An engine that may take three percent of the time of a bus with one word. -/
def threePercentEngine : Engine SimulatedBus Tape where
  transport := { board := { MemoryBoard.empty with cells := #[7] } }
  width := .bits16
  config := { bandwidth := 3 }
  generator := .repeating #[0]

def oneWordRequest : Request := ⟨31, .dataIn, 0, .sink #[0], true⟩

/-- The engine after that word was read. -/
def threePercentStopped : Engine SimulatedBus Tape :=
  (threePercentEngine.noted (.blockIssued .dataIn 0 0 31)).afterRequest
    oneWordRequest

theorem session_one_word :
    ∃ answers, session [.transfer true .dataIn 0 (.sink #[0])]
      threePercentEngine = .ok (answers, threePercentStopped) := by
  have built : Request.ofBuffer 31 .dataIn 0 (.sink #[0]) true =
      .ok oneWordRequest :=
    Request.ofBuffer_eq_ok.mpr ⟨rfl, by decide, rfl, rfl⟩
  have transferred :=
    (@transfer_simulated_of_built _ threePercentEngine _ _ _ _ _ _ _
      built).mpr ⟨by decide, rfl, rfl⟩
  exact ⟨_, Timed.mapM_cons_eq_ok.mpr
    ⟨_, _, _, Timed.map_eq_ok.mpr ⟨_, transferred, rfl⟩, rfl, rfl⟩⟩

theorem session_share_of_three_percent :
    1 ≤ threePercentEngine.config.bandwidth ∧
    threePercentEngine.config.bandwidth ≤ 100 ∧
      ∃ completions busy idle,
        Ledger threePercentEngine completions threePercentStopped ∧
        threePercentStopped.transport.clock = busy + idle ∧
        (100 * busy ≤ 3 * (busy + idle) ↔
          ∀ completion ∈ completions, 3 ∣ completion.elapsed * 100) ∧
        100 * busy ≤ 3 * (busy + idle) + 2 * completions.length := by
  obtain ⟨answers, ran⟩ := session_one_word
  obtain ⟨completions, busy, idle, ledger, _, _, clock, whole, _, exceeded⟩ :=
    session_share ⟨by decide, by decide⟩ ran
  have start : threePercentEngine.transport.clock = 0 := rfl
  exact ⟨by decide, by decide, completions, busy, idle, ledger, by omega,
    whole, exceeded⟩

/-- Reading one word takes 1000 ns, and 32333 ns of idle time after it are too
short by a third of a nanosecond. -/
theorem session_exceeds_three_percent :
    ∃ answers completions,
      session [.transfer true .dataIn 0 (.sink #[0])] threePercentEngine =
        .ok (answers, threePercentStopped) ∧
      Ledger threePercentEngine completions threePercentStopped ∧
      ¬ 100 * total Completion.elapsed completions ≤
        threePercentEngine.config.bandwidth *
          (total Completion.elapsed completions +
            threePercentStopped.stats.throttled) := by
  obtain ⟨answers, ran⟩ := session_one_word
  exact ⟨answers, _, ran, threePercentEngine.ledger_afterRequest _ rfl,
    by decide⟩

end Call

end Backplane.Dma
