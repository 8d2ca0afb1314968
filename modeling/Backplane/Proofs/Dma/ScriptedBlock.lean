import Backplane.Proofs.Dma.Ledger
import Backplane.Proofs.Transport.Scripted

/-!
# Requests of an engine on a scripted bus

Where the channel breaks off a request, the engine stays as it was.  All other
requests are on the record of the bus behind the channel, whatever the script
makes of the reply.
-/

namespace Backplane

/-- The record of a request on a bus with this board. -/
def Dma.Request.entry (board : MemoryBoard) (request : Request) :
    LoggedRequest where
  slot := request.slot
  cycle := request.cycle
  start := request.start
  words := request.words.size
  outcome := board.blockOutcome request.start request.words.size

namespace Dma.Engine

variable {γ : Type} {engine stopped : Engine ScriptedBus γ}

/-- Idle time shows in the count of it and on the clock. -/
theorem throttle_scripted {elapsed : Nat}
    (throttled : throttle elapsed engine = .ok ((), stopped)) :
    ∃ clock, stopped =
      { engine with
        transport :=
          { engine.transport with
            inner := { engine.transport.inner with clock := clock } }
        stats :=
          { engine.stats with
            throttled :=
              engine.stats.throttled + idleAfter engine.config.bandwidth
                elapsed } } := by
  obtain ⟨none, rfl⟩ | ⟨_, _, slept, _, rfl⟩ := (throttle_eq_ok.mp throttled).2
  · refine ⟨stopped.transport.inner.clock, ?_⟩
    rw [none]
    rfl
  · obtain ⟨_, rfl⟩ := ScriptedBus.sleep_eq_ok.mp slept
    exact ⟨_, rfl⟩

/-- A request that the channel broke off leaves the engine as it was. -/
theorem carryOut_brokenOff {request : Request} {fault : BusError}
    (ran : carryOut request engine = .ok (.error fault, stopped)) :
    ∃ reason, engine.transport.interference.failure? = some reason ∧
      fault = .transport reason ∧
      stopped = { engine with transport := engine.transport.brokenOff } := by
  obtain ⟨_, _, submitted, same, rfl⟩ | ⟨_, _, _, _, _, _, impossible⟩ :=
    carryOut_eq_ok.mp ran
  · cases same
    obtain ⟨reason, broken, same, rfl⟩ | ⟨_, _, impossible, _⟩ :=
      ScriptedBus.transport_submit_eq_ok.mp submitted
    · cases same
      exact ⟨reason, broken, rfl, rfl⟩
    · cases impossible
  · cases impossible

/-- What a request that was replied to leaves behind. -/
structure Replied (engine : Engine ScriptedBus γ) (request : Request)
    (completion : Completion) (stopped : Engine ScriptedBus γ) : Prop where
  unbroken : engine.transport.interference.failure? = none
  logged : engine.transport.interference.fault? = none →
    completion.logged request.slot = request.entry engine.transport.inner.board
  config : stopped.config = engine.config
  script : stopped.transport.script = engine.transport.script
  submits : stopped.transport.submits = engine.transport.submits + 1
  requests : stopped.transport.inner.requests.toList =
    engine.transport.inner.requests.toList ++
      [request.entry engine.transport.inner.board]
  stats : stopped.stats =
    { engine.stats.count completion with
      throttled := engine.stats.throttled +
        idleAfter engine.config.bandwidth completion.elapsed }

theorem carryOut_replied {request : Request} {completion : Completion}
    {words : Array UInt16}
    (ran : carryOut request engine = .ok (.ok (completion, words), stopped)) :
    Replied engine request completion stopped := by
  obtain ⟨_, _, _, impossible, _⟩
      | ⟨reply, _, _, submitted, rfl, throttled, same⟩ :=
    carryOut_eq_ok.mp ran
  · cases impossible
  · cases same
    obtain ⟨_, _, impossible, _⟩ | ⟨unbroken, _, same, rfl⟩ :=
      ScriptedBus.transport_submit_eq_ok.mp submitted
    · cases impossible
    · cases same
      obtain ⟨clock, rfl⟩ := throttle_scripted throttled
      refine ⟨unbroken, ?_, rfl, rfl, rfl, ?_, rfl⟩
      · intro honest
        have outcome :
            (ScriptedBus.tamper engine.transport.interference
              request.buffer.isSink
            (engine.transport.inner.replyTo request)).outcome =
              engine.transport.inner.board.blockOutcome request.start
              request.words.size := by
          simp only [ScriptedBus.tamper, honest]
          rfl
        simp only [Completion.logged, completed, Request.entry, outcome]
      · change (engine.transport.after request).inner.requests.toList = _
        rw [ScriptedBus.after_requests, Array.toList_push]
        rfl

end Dma.Engine

end Backplane
