import Backplane.Proofs.Transport.Simulated
import Backplane.Transport.Scripted

/-!
# Calls on a scripted bus

A call on a scripted bus either breaks off with the reason that the script
gives, and reaches nothing behind it, or is one call on the simulated bus.  The
script may change the reply to a request and the memory afterwards, but no
record of the bus and no edge.
-/

namespace Backplane

open Dma

namespace ScriptedBus

/-- Words put into memory change nothing but the board. -/
theorem pokeAll_eq (bus : SimulatedBus) (pokes : List (Nat × UInt16)) :
    ∃ board, pokeAll bus pokes = { bus with board := board } := by
  induction pokes generalizing bus with
  | nil => exact ⟨bus.board, rfl⟩
  | cons poke pokes induction =>
      obtain ⟨board, rest⟩ := induction (bus.poke poke.1 poke.2)
      exact ⟨board, rest⟩

/-- What the script does to the next request. -/
def interference (bus : ScriptedBus) : Interference :=
  bus.script.onSubmit bus.submits

/-- The bus after a request that the script broke off. -/
def brokenOff (bus : ScriptedBus) : ScriptedBus :=
  { bus with submits := bus.submits + 1 }

/-- The bus after a request that was carried out. -/
def after (bus : ScriptedBus) (request : Request) : ScriptedBus :=
  { bus with
    inner := pokeAll (bus.inner.after request) bus.interference.pokes
    submits := bus.submits + 1
    skew := bus.skew + bus.interference.rewind }

theorem transport_submit_eq_ok {request : Request} {bus stopped : ScriptedBus}
    {outcome : Except BusError Reply} :
    (Transport.submit (σ := ScriptedBus) request).run bus =
      .ok (outcome, stopped) ↔
      (∃ reason, bus.interference.failure? = some reason ∧
        outcome = .error (.transport reason) ∧ stopped = bus.brokenOff) ∨
      (bus.interference.failure? = none ∧
        bus.inner.Affords
          (bus.inner.board.blockCycles request.start request.words.size) ∧
        outcome =
          .ok (tamper bus.interference request.buffer.isSink
            (bus.inner.replyTo request)) ∧
        stopped = bus.after request) := by
  change ScriptedBus.submit request bus = _ ↔ _
  unfold ScriptedBus.submit
  cases script : (bus.script.onSubmit bus.submits).failure? with
  | some reason =>
      simp [interference, script, brokenOff, pure, Except.pure, eq_comm]
  | none =>
      simp only [script, except_bind_eq_ok]
      constructor
      · intro ran
        obtain ⟨⟨reply, inner⟩, submitted, built⟩ := ran
        obtain ⟨affords, rfl, rfl⟩ := SimulatedBus.submit_eq_ok.mp submitted
        cases built
        exact .inr ⟨script, affords, rfl, rfl⟩
      · intro ran
        obtain ⟨_, broken, _⟩ | ⟨_, affords, rfl, rfl⟩ := ran
        · cases script.symm.trans broken
        · exact ⟨_, SimulatedBus.submit_eq_ok.mpr ⟨affords, rfl, rfl⟩, rfl⟩

theorem after_requests (bus : ScriptedBus) (request : Request) :
    (bus.after request).inner.requests =
      bus.inner.requests.push
        ⟨request.slot, request.cycle, request.start, request.words.size,
          bus.inner.board.blockOutcome request.start request.words.size⟩ := by
  obtain ⟨board, poked⟩ :=
    pokeAll_eq (bus.inner.after request) bus.interference.pokes
  rw [after, poked]
  rfl

/-! ## Edges and sleeps -/

theorem setSignal_eq_ok {signal : Signal} {asserted : Bool}
    {bus stopped : ScriptedBus} {result : Except BusError Unit} :
    (Transport.setSignal signal asserted : Op ScriptedBus Unit).run bus =
        .ok (result, stopped) ↔
      (∃ reason, bus.script.onSignal bus.signals = some reason ∧
        result = .error (.transport reason) ∧
        stopped = { bus with signals := bus.signals + 1 }) ∨
      (bus.script.onSignal bus.signals = none ∧ result = .ok () ∧
        stopped =
          { bus with
            inner := bus.inner.setSignal signal asserted
            signals := bus.signals + 1 }) := by
  change setSignal signal asserted bus = _ ↔ _
  unfold setSignal
  cases scripted : bus.script.onSignal bus.signals with
  | some reason => simp [pure, Except.pure, eq_comm]
  | none => simp [pure, Except.pure, eq_comm]

theorem sleep_eq_ok {duration : Nat} {bus stopped : ScriptedBus} :
    (Transport.sleep duration : Timed ScriptedBus Unit) bus =
      .ok ((), stopped) ↔
      bus.inner.clock + duration < Duration.limit ∧
        stopped =
          { bus with
            inner := { bus.inner with
              clock := bus.inner.clock + duration } } := by
  change (SimulatedBus.sleep duration bus.inner >>= fun slept =>
    Except.ok ((), { bus with inner := slept.2 })) = _ ↔ _
  rw [except_bind_eq_ok]
  constructor
  · intro ran
    obtain ⟨⟨_, inner⟩, slept, built⟩ := ran
    obtain ⟨fits, rfl⟩ := SimulatedBus.sleep_eq_ok.mp slept
    cases built
    exact ⟨fits, rfl⟩
  · intro ran
    obtain ⟨fits, rfl⟩ := ran
    exact ⟨_, SimulatedBus.sleep_eq_ok.mpr ⟨fits, rfl⟩, rfl⟩

/-! ## Samples -/

/-- What comes of a call that a script lets pass or breaks off. -/
def answer {α : Type} (failure? : Option String) (value : α) :
    Except BusError α :=
  match failure? with
  | some reason => .error (.transport reason)
  | none => .ok value

theorem answer_eq_ok {α : Type} {failure? : Option String} {value result : α} :
    answer failure? value = .ok result ↔ failure? = none ∧ result = value := by
  cases failure? with
  | none => simp [answer, eq_comm]
  | some reason => simp [answer]

theorem answer_eq_error {α : Type} {failure? : Option String} {value : α}
    {fault : BusError} :
    answer failure? value = .error fault ↔
      ∃ reason, failure? = some reason ∧ fault = .transport reason := by
  cases failure? with
  | none => simp [answer]
  | some reason => simp [answer, eq_comm]

theorem sampleGrants_eq_ok {bus stopped : ScriptedBus}
    {outcome : Except BusError GrantMask} :
    (Transport.sampleGrants : Op ScriptedBus GrantMask).run bus =
      .ok (outcome, stopped) ↔
      outcome = answer bus.script.onSample bus.inner.closed ∧
      stopped = bus := by
  change sampleGrants bus = _ ↔ _
  unfold sampleGrants
  cases scripted : bus.script.onSample with
  | some reason => simp [answer, pure, Except.pure, eq_comm]
  | none => simp [answer, pure, Except.pure, eq_comm]

end ScriptedBus

end Backplane
