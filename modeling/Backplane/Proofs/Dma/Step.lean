import Backplane.Dma.Engine
import Backplane.Proofs.Timed

/-!
# Steps of a transfer engine

What each operation of an engine does on an arbitrary transport.  An operation
reaches its result exactly in the ways listed, so proofs about runs never open
its definition again.
-/

namespace Backplane.Dma

namespace Buffer

/-- The words of a block, in the direction of its cycle. -/
def facing (cycle : Cycle) (words : Array UInt16) : Buffer :=
  if cycle.isRead then .sink words else .source words

@[simp] theorem words_facing (cycle : Cycle) (words : Array UInt16) :
    (facing cycle words).words = words := by
  unfold facing
  split <;> rfl

@[simp] theorem isSink_facing (cycle : Cycle) (words : Array UInt16) :
    (facing cycle words).isSink = cycle.isRead := by
  unfold facing
  split
  · rename_i reads
    exact reads.symm
  · rename_i writes
    simpa [isSink] using writes

end Buffer

theorem Request.ofBuffer_eq_ok {slot : Nat} {cycle : Cycle} {start : Nat}
    {buffer : Buffer} {blocking : Bool} {request : Request} :
    ofBuffer slot cycle start buffer blocking = .ok request ↔
      buffer.isSink = cycle.isRead ∧ 0 < buffer.words.size ∧ start % 2 = 0 ∧
        request = ⟨slot, cycle, start, buffer, blocking⟩ := by
  have empty : buffer.isEmpty = true ↔ buffer.words.size = 0 :=
    Array.isEmpty_iff_size_eq_zero
  unfold ofBuffer
  by_cases faces : buffer.isSink = cycle.isRead
  · by_cases none : buffer.words.size = 0
    · simp [faces, empty, none]
    · by_cases aligned : start % 2 = 0
      · simp [faces, empty, none, aligned, Nat.pos_iff_ne_zero, eq_comm]
      · simp [faces, empty, none, Nat.mod_two_ne_zero.mp aligned]
  · simp [faces]

theorem Request.ofBuffer_facing (slot : Nat) (cycle : Cycle) {start : Nat}
    {words : Array UInt16} (blocking : Bool) (aligned : start % 2 = 0)
    (inhabited : 0 < words.size) :
    Request.ofBuffer slot cycle start (.facing cycle words) blocking =
      .ok ⟨slot, cycle, start, .facing cycle words, blocking⟩ := by
  have nonempty : (Buffer.facing cycle words).isEmpty = false := by
    simp only [Buffer.isEmpty, Buffer.words_facing, Array.isEmpty_eq_false_iff]
    exact Array.size_pos_iff.mp inhabited
  simp [ofBuffer, nonempty, aligned]

theorem Config.validate_eq_ok {config : Config} :
    config.validate = .ok () ↔
      (1 ≤ config.slot ∧ config.slot ≤ 31) ∧
        1 ≤ config.bandwidth ∧ config.bandwidth ≤ 100 := by
  unfold validate
  by_cases slot : 1 ≤ config.slot ∧ config.slot ≤ 31
  · by_cases bandwidth : 1 ≤ config.bandwidth ∧ config.bandwidth ≤ 100
    · simp [slot, bandwidth]
    · simp [slot, bandwidth]
  · simp [slot]

namespace Engine

variable {σ γ : Type}

@[simp] theorem draw_apply {α : Type} (step : γ → α × γ) (engine : Engine σ γ) :
    draw step engine =
      .ok ((step engine.generator).1,
        { engine with generator := (step engine.generator).2 }) := rfl

theorem timed_eq_ok {α : Type} {step : Timed σ α} {engine stopped : Engine σ γ}
    {result : α} :
    timed step engine = .ok (result, stopped) ↔
      ∃ transport, step engine.transport = .ok (result, transport) ∧
        stopped = { engine with transport := transport } := by
  change (step engine.transport >>= fun reached =>
    Except.ok (reached.1, { engine with transport := reached.2 })) = _ ↔ _
  rw [except_bind_eq_ok]
  simp only [Except.ok.injEq, Prod.mk.injEq]
  constructor
  · rintro ⟨⟨value, transport⟩, ran, rfl, rfl⟩
    exact ⟨transport, ran, rfl⟩
  · rintro ⟨transport, ran, rfl⟩
    exact ⟨(result, transport), ran, rfl, rfl⟩

variable [Transport σ]

def noted (engine : Engine σ γ) (event : Event) : Engine σ γ :=
  { engine with transport := Transport.note event engine.transport }

@[simp] theorem note_apply (event : Event) (engine : Engine σ γ) :
    note event engine = .ok ((), engine.noted event) := rfl

@[simp] theorem now_apply (engine : Engine σ γ) :
    now engine = .ok (Transport.now engine.transport, engine) := rfl

/-- The idle time that keeps a transfer to its share of bus time. -/
def idleAfter (percent elapsed : Nat) : Nat :=
  if percent < 100 then elapsed * 100 / percent - elapsed else 0

theorem idleTime_eq_ok {percent elapsed idle : Nat} :
    idleTime percent elapsed = .ok idle ↔
      elapsed * 100 < Duration.limit ∧
      idle = elapsed * 100 / percent - elapsed := by
  unfold idleTime
  rw [except_bind_eq_ok]
  simp only [Duration.times_eq_ok, pure, Except.pure, Except.ok.injEq]
  constructor
  · rintro ⟨scaled, ⟨fits, rfl⟩, rfl⟩
    exact ⟨fits, rfl⟩
  · rintro ⟨fits, rfl⟩
    exact ⟨_, ⟨fits, rfl⟩, rfl⟩

theorem throttle_eq_ok {elapsed : Nat} {engine stopped : Engine σ γ} :
    throttle elapsed engine = .ok ((), stopped) ↔
      (engine.config.bandwidth < 100 → elapsed * 100 < Duration.limit) ∧
      ((idleAfter engine.config.bandwidth elapsed = 0 ∧ stopped = engine) ∨
      (idleAfter engine.config.bandwidth elapsed ≠ 0 ∧ ∃ transport,
        Transport.sleep (idleAfter engine.config.bandwidth elapsed)
          engine.transport = .ok ((), transport) ∧
        engine.stats.throttled + idleAfter engine.config.bandwidth elapsed <
          Duration.limit ∧
        stopped =
          { engine with
            transport := transport
            stats :=
              { engine.stats with
                throttled := engine.stats.throttled +
                  idleAfter engine.config.bandwidth elapsed } })) := by
  unfold throttle
  rw [Timed.bind_of_ok (Timed.get_apply engine)]
  by_cases share : engine.config.bandwidth < 100
  · have idle : idleAfter engine.config.bandwidth elapsed =
        elapsed * 100 / engine.config.bandwidth - elapsed := if_pos share
    rw [if_pos share, idle]
    simp only [Timed.bind_eq_ok, Timed.liftM_eq_ok, idleTime_eq_ok]
    constructor
    · rintro ⟨_, _, ⟨⟨fits, rfl⟩, rfl⟩, rest⟩
      refine ⟨fun _ => fits, ?_⟩
      split at rest
      · rename_i busy
        obtain ⟨_, slept, sleeps, rest⟩ := Timed.bind_eq_ok.mp rest
        obtain ⟨transport, sleeping, rfl⟩ := timed_eq_ok.mp sleeps
        rw [Timed.bind_of_ok (Timed.get_apply _), Timed.bind_eq_ok] at rest
        obtain ⟨_, _, adds, rest⟩ := rest
        obtain ⟨added, rfl⟩ := Timed.liftM_eq_ok.mp adds
        obtain ⟨sumFits, rfl⟩ := Duration.plus_eq_ok.mp added
        cases rest
        exact .inr ⟨busy, transport, sleeping, sumFits, rfl⟩
      · rename_i lazy
        cases rest
        exact .inl ⟨Decidable.not_not.mp lazy, rfl⟩
    · rintro ⟨fits, ⟨lazy, rfl⟩ | ⟨busy, transport, sleeping, sumFits, rfl⟩⟩
      · refine ⟨_, stopped, ⟨⟨fits share, rfl⟩, rfl⟩, ?_⟩
        rw [if_neg (not_not_intro lazy)]
        rfl
      · refine ⟨_, engine, ⟨⟨fits share, rfl⟩, rfl⟩, ?_⟩
        rw [if_pos busy, Timed.bind_of_ok
          (timed_eq_ok.mpr ⟨transport, sleeping, rfl⟩),
          Timed.bind_of_ok (Timed.get_apply _),
          Timed.bind_of_ok (Timed.liftM_eq_ok.mpr
            ⟨Duration.plus_eq_ok.mpr ⟨sumFits, rfl⟩, rfl⟩)]
        rfl
  · rw [if_neg share]
    simp [share, idleAfter, eq_comm]

/-- The completion of a request that the transport has replied to. -/
def completed (engine : Engine σ γ) (request : Request) (outcome : Outcome)
    (transport : σ) : Completion where
  cycle := request.cycle
  start := request.start
  words := request.words.size
  outcome := outcome
  elapsed := Transport.now transport - Transport.now engine.transport

def counted (engine : Engine σ γ) (completion : Completion) (transport : σ) :
    Engine σ γ :=
  { engine with transport := transport, stats := engine.stats.count completion }

/-- A request fails with its transport, or it is counted and followed by idle
time. -/
theorem carryOut_eq_ok {request : Request} {engine stopped : Engine σ γ}
    {result : Except BusError (Completion × Array UInt16)} :
    carryOut request engine = .ok (result, stopped) ↔
      (∃ fault transport,
        (Transport.submit request).run engine.transport =
          .ok (.error fault, transport) ∧
        result = .error fault ∧
        stopped = { engine with transport := transport }) ∨
      (∃ reply transport completion,
        (Transport.submit request).run engine.transport =
          .ok (.ok reply, transport) ∧
        completion = engine.completed request reply.outcome transport ∧
        throttle completion.elapsed (engine.counted completion transport) =
          .ok ((), stopped) ∧
        result = .ok (completion, reply.words)) := by
  unfold carryOut
  dsimp only
  rw [Timed.bind_of_ok (now_apply engine), Timed.bind_eq_ok]
  constructor
  · rintro ⟨outcome, _, submitted, rest⟩
    obtain ⟨transport, submitting, rfl⟩ := timed_eq_ok.mp submitted
    cases outcome with
    | error fault =>
        cases rest
        exact .inl ⟨fault, transport, submitting, rfl, rfl⟩
    | ok reply =>
        simp only at rest
        rw [Timed.bind_of_ok (now_apply _),
          Timed.bind_of_ok (Timed.modify_apply _ _), Timed.bind_eq_ok] at rest
        obtain ⟨_, _, throttled, rest⟩ := rest
        cases rest
        exact .inr ⟨reply, transport, _, submitting, rfl, throttled, rfl⟩
  · rintro (⟨fault, transport, submitting, rfl, rfl⟩ |
      ⟨reply, transport, _, submitting, rfl, throttled, rfl⟩)
    · exact ⟨.error fault, _, timed_eq_ok.mpr ⟨transport, submitting, rfl⟩, rfl⟩
    · refine ⟨.ok reply, _, timed_eq_ok.mpr ⟨transport, submitting, rfl⟩, ?_⟩
      simp only
      rw [Timed.bind_of_ok (now_apply _),
        Timed.bind_of_ok (Timed.modify_apply _ _)]
      exact Timed.bind_eq_ok.mpr ⟨(), stopped, throttled, rfl⟩

/-- Where the completion of a block goes: to the caller who waits for it, or to
the engine until it is collected. -/
def handOver (blocking : Bool) (completion : Completion) (engine : Engine σ γ) :
    Engine σ γ :=
  if blocking then engine else { engine with pending? := some completion }

/-- A transfer of a well-formed request announces and carries out the
request. -/
theorem transfer_eq_ok_of_built {blocking : Bool} {cycle : Cycle} {start : Nat}
    {buffer : Buffer} {request : Request} {engine stopped : Engine σ γ}
    {result : Except BusError (Option Completion × Array UInt16)}
    (built : Request.ofBuffer engine.config.slot cycle start buffer blocking =
      .ok request) :
    transfer blocking cycle start buffer engine = .ok (result, stopped) ↔
      ∃ carried reached,
        carryOut request
          (engine.noted (.blockIssued cycle start request.lastAddress
            engine.config.slot)) = .ok (carried, reached) ∧
        ((∃ fault, carried = .error fault ∧ result = .error fault ∧
          stopped = reached) ∨
          ∃ completion words, carried = .ok (completion, words) ∧
            result = .ok (if blocking then some completion else none, words) ∧
            stopped = reached.handOver blocking completion) := by
  unfold transfer
  rw [Timed.bind_of_ok (Timed.get_apply engine)]
  simp only [built]
  rw [Timed.bind_of_ok (note_apply _ _), Timed.bind_eq_ok]
  constructor
  · rintro ⟨carried, reached, carriedOut, rest⟩
    refine ⟨carried, reached, carriedOut, ?_⟩
    cases carried with
    | error fault =>
        cases rest
        exact .inl ⟨fault, rfl, rfl, rfl⟩
    | ok done =>
        cases blocking <;> cases rest <;> exact .inr ⟨_, _, rfl, rfl, rfl⟩
  · rintro ⟨carried, reached, carriedOut, ending⟩
    refine ⟨carried, reached, carriedOut, ?_⟩
    rcases ending with ⟨fault, rfl, rfl, rfl⟩
      | ⟨completion, words, rfl, rfl, rfl⟩
    · rfl
    · cases blocking <;> rfl

/-- A blocking transfer always comes back with its completion. -/
theorem transfer_eq_ok {cycle : Cycle} {start : Nat} {buffer : Buffer}
    {request : Request} {engine stopped : Engine σ γ}
    {result : Except BusError (Option Completion × Array UInt16)}
    (built : Request.ofBuffer engine.config.slot cycle start buffer true =
      .ok request) :
    transfer true cycle start buffer engine = .ok (result, stopped) ↔
      ∃ carried,
        carryOut request
          (engine.noted (.blockIssued cycle start request.lastAddress
            engine.config.slot)) = .ok (carried, stopped) ∧
        result = carried.map fun done => (some done.1, done.2) := by
  rw [transfer_eq_ok_of_built built]
  constructor
  · rintro ⟨carried, reached, carriedOut, ending⟩
    rcases ending with ⟨fault, rfl, rfl, rfl⟩
      | ⟨completion, words, rfl, rfl, rfl⟩
    · exact ⟨_, carriedOut, rfl⟩
    · exact ⟨_, carriedOut, rfl⟩
  · rintro ⟨carried, carriedOut, rfl⟩
    refine ⟨carried, stopped, carriedOut, ?_⟩
    cases carried with
    | error fault => exact .inl ⟨fault, rfl, rfl, rfl⟩
    | ok done => exact .inr ⟨done.1, done.2, rfl, rfl, rfl⟩

theorem transfer_of_refused {blocking : Bool} {cycle : Cycle} {start : Nat}
    {buffer : Buffer} {engine : Engine σ γ} {fault : BusError}
    (refused : Request.ofBuffer engine.config.slot cycle start buffer blocking =
      .error fault) :
    transfer blocking cycle start buffer engine =
      .ok (.error fault, engine) := by
  unfold transfer
  rw [Timed.bind_of_ok (Timed.get_apply engine)]
  simp only [refused]
  rfl

theorem completion_of_blocking {cycle : Cycle} {start : Nat} {buffer : Buffer}
    {engine stopped : Engine σ γ} {completion? : Option Completion}
    {words : Array UInt16}
    (transferred : transfer true cycle start buffer engine =
      .ok (.ok (completion?, words), stopped)) :
    ∃ completion, completion? = some completion := by
  cases built : Request.ofBuffer engine.config.slot cycle start buffer true with
  | error fault =>
      rw [transfer_of_refused built] at transferred
      cases transferred
  | ok request =>
      obtain ⟨carried, _, outcome⟩ := (transfer_eq_ok built).mp transferred
      cases carried with
      | error fault => cases outcome
      | ok done =>
          cases outcome
          exact ⟨done.1, rfl⟩

/-- A buffer after the words of a block came back. -/
def refill (cycle : Cycle) (buffer : Array UInt16) (first : Nat)
    (words : Array UInt16) : Array UInt16 :=
  if cycle.isRead then overwrite buffer first words else buffer

/-- One block of a buffer: what came back for it, and where it leaves buffer
and engine. -/
inductive BlockStep (cycle : Cycle) (engine : Engine σ γ)
    (buffer : Array UInt16) (address count : Nat) :
    Except BusError Completion → Array UInt16 → Except BusError Unit →
    Engine σ γ → Prop where
  /-- The transport failed. -/
  | failed {fault : BusError} {stopped : Engine σ γ}
      (transferred : transfer true cycle address
        (.facing cycle (buffer.extract (address / 2) (address / 2 + count)))
          engine = .ok (.error fault, stopped)) :
      BlockStep cycle engine buffer address count (.error fault) buffer
        (.error fault) stopped
  /-- An address did not answer. -/
  | timedOut {completion : Completion} {words : Array UInt16} {fault : Nat}
      {stopped : Engine σ γ}
      (transferred : transfer true cycle address
        (.facing cycle (buffer.extract (address / 2) (address / 2 + count)))
          engine = .ok (.ok (some completion, words), stopped))
      (silent : completion.outcome = .timedOut fault) :
      BlockStep cycle engine buffer address count (.ok completion)
        (refill cycle buffer (address / 2) words) (.error (.timeout fault))
        (stopped.noted (.blockTimedOut stopped.width cycle address fault))
  /-- Every word was acknowledged. -/
  | acknowledged {completion : Completion} {words : Array UInt16}
      {stopped : Engine σ γ}
      (transferred : transfer true cycle address
        (.facing cycle (buffer.extract (address / 2) (address / 2 + count)))
          engine = .ok (.ok (some completion, words), stopped))
      (success : completion.outcome = .acknowledged) :
      BlockStep cycle engine buffer address count (.ok completion)
        (refill cycle buffer (address / 2) words) (.ok ()) stopped

theorem moveBlock_eq_ok {cycle : Cycle} {buffer moved : Array UInt16}
    {address count : Nat} {engine stopped : Engine σ γ}
    {result : Except BusError Unit} :
    moveBlock cycle buffer address count engine =
      .ok ((moved, result), stopped) ↔
      ∃ reply, BlockStep cycle engine buffer address count reply moved
        result stopped := by
  unfold moveBlock
  simp only
  rw [Timed.bind_eq_ok]
  constructor
  · rintro ⟨outcome, middle, transferred, rest⟩
    cases outcome with
    | error fault =>
        cases rest
        exact ⟨_, .failed transferred⟩
    | ok done =>
        obtain ⟨completion?, words⟩ := done
        obtain ⟨completion, rfl⟩ := completion_of_blocking transferred
        cases outcome : completion.outcome with
        | timedOut fault =>
            simp only [Option.map_some, outcome] at rest
            rw [Timed.bind_of_ok (Timed.get_apply _),
              Timed.bind_of_ok (note_apply _ _)] at rest
            cases rest
            exact ⟨_, .timedOut transferred outcome⟩
        | acknowledged =>
            simp only [Option.map_some, outcome] at rest
            cases rest
            exact ⟨_, .acknowledged transferred outcome⟩
  · rintro ⟨reply, step⟩
    cases step with
    | failed transferred => exact ⟨_, _, transferred, rfl⟩
    | timedOut transferred silent =>
        refine ⟨_, _, transferred, ?_⟩
        simp only [Option.map_some, silent]
        rw [Timed.bind_of_ok (Timed.get_apply _),
          Timed.bind_of_ok (note_apply _ _)]
        rfl
    | acknowledged transferred success =>
        refine ⟨_, _, transferred, ?_⟩
        simp only [Option.map_some, success]
        rfl

theorem moveRange_eq_ok {cycle : Cycle} {engine stopped : Engine σ γ}
    {buffer moved : Array UInt16} {range : AddressRange}
    {result : Except BusError Unit}
    (accepted : checkRange engine.width range buffer.size = .ok ()) :
    moveRange cycle buffer range engine = .ok ((moved, result), stopped) ↔
      ∃ reply, BlockStep cycle engine buffer range.first
        range.wordCount reply moved result stopped := by
  rw [moveRange, Timed.bind_of_ok (Timed.get_apply engine)]
  simp only [accepted, moveBlock_eq_ok]

theorem moveRange_of_refused {cycle : Cycle} {engine : Engine σ γ}
    {buffer : Array UInt16} {range : AddressRange} {fault : BusError}
    (refused : checkRange engine.width range buffer.size = .error fault) :
    moveRange cycle buffer range engine =
      .ok ((buffer, .error fault), engine) := by
  rw [moveRange, Timed.bind_of_ok (Timed.get_apply engine)]
  simp only [refused]
  rfl

theorem checkRange_of_moveRange {cycle : Cycle} {engine stopped : Engine σ γ}
    {buffer moved : Array UInt16} {range : AddressRange}
    (ran : moveRange cycle buffer range engine =
      .ok ((moved, .ok ()), stopped)) :
    checkRange engine.width range buffer.size = .ok () := by
  cases checked : checkRange engine.width range buffer.size with
  | ok _ => rfl
  | error fault =>
      rw [moveRange_of_refused checked] at ran
      cases ran

/-! ## What a request leaves alone Transport and counters are all that it
changes in an engine.  Only a transfer that nobody waits for leaves something
else behind. -/

theorem throttle_frame {elapsed : Nat} {engine stopped : Engine σ γ}
    (throttled : throttle elapsed engine = .ok ((), stopped)) :
    ∃ transport stats, stopped =
      { engine with transport := transport, stats := stats } := by
  obtain ⟨_, rfl⟩ | ⟨_, _, _, _, rfl⟩ := (throttle_eq_ok.mp throttled).2
  · exact ⟨_, _, rfl⟩
  · exact ⟨_, _, rfl⟩

theorem carryOut_frame {request : Request} {engine stopped : Engine σ γ}
    {result : Except BusError (Completion × Array UInt16)}
    (ran : carryOut request engine = .ok (result, stopped)) :
    ∃ transport stats, stopped =
      { engine with transport := transport, stats := stats } := by
  obtain ⟨_, _, _, _, rfl⟩ | ⟨_, _, _, _, _, throttled, _⟩ :=
    carryOut_eq_ok.mp ran
  · exact ⟨_, _, rfl⟩
  · obtain ⟨_, _, rfl⟩ := throttle_frame throttled
    exact ⟨_, _, rfl⟩

theorem transfer_frame {cycle : Cycle} {start : Nat} {buffer : Buffer}
    {engine stopped : Engine σ γ}
    {result : Except BusError (Option Completion × Array UInt16)}
    (transferred : transfer true cycle start buffer engine =
      .ok (result, stopped)) :
    ∃ transport stats, stopped =
      { engine with transport := transport, stats := stats } := by
  cases built : Request.ofBuffer engine.config.slot cycle start buffer true with
  | error fault =>
      rw [transfer_of_refused built] at transferred
      cases transferred
      exact ⟨_, _, rfl⟩
  | ok request =>
      obtain ⟨_, carriedOut, _⟩ := (transfer_eq_ok built).mp transferred
      obtain ⟨_, _, rfl⟩ := carryOut_frame carriedOut
      exact ⟨_, _, rfl⟩

theorem BlockStep.frame {cycle : Cycle} {engine stopped : Engine σ γ}
    {buffer moved : Array UInt16} {address count : Nat}
    {reply : Except BusError Completion} {result : Except BusError Unit}
    (step : BlockStep cycle engine buffer address count reply moved
      result stopped) :
    ∃ transport stats, stopped =
      { engine with transport := transport, stats := stats } := by
  cases step with
  | failed transferred | acknowledged transferred =>
      exact transfer_frame transferred
  | timedOut transferred =>
      obtain ⟨_, _, rfl⟩ := transfer_frame transferred
      exact ⟨_, _, rfl⟩

theorem moveRange_frame {cycle : Cycle} {engine stopped : Engine σ γ}
    {buffer moved : Array UInt16} {range : AddressRange}
    {result : Except BusError Unit}
    (ran : moveRange cycle buffer range engine =
      .ok ((moved, result), stopped)) :
    ∃ transport stats, stopped =
      { engine with transport := transport, stats := stats } := by
  cases checked : checkRange engine.width range buffer.size with
  | error fault =>
      rw [moveRange_of_refused checked] at ran
      cases ran
      exact ⟨_, _, rfl⟩
  | ok _ =>
      obtain ⟨_, step⟩ := (moveRange_eq_ok checked).mp ran
      exact step.frame

/-! ## Opening an engine -/

/-- An engine opens just for parameters in range, and has done nothing yet. -/
theorem new_eq_ok {transport : σ} {width : AddressWidth} {config : Config}
    {entropy : UInt64} {engine : Engine σ ChaCha} :
    Engine.new transport width config entropy = .ok engine ↔
      config.validate = .ok () ∧
        engine =
          { transport := Transport.note
              (.engineOpened config.slot config.bandwidth (Transport.kind σ))
                transport
            width := width
            config := config
            generator := ChaCha.ofSeed (config.seed?.getD entropy) } := by
  rw [Engine.new, except_bind_eq_ok]
  constructor
  · intro opened
    obtain ⟨_, valid, built⟩ := opened
    cases built
    exact ⟨valid, rfl⟩
  · intro opened
    obtain ⟨valid, rfl⟩ := opened
    exact ⟨(), valid, rfl⟩

/-! ## Counted requests -/

theorem throttle_transfers {elapsed : Nat} {engine stopped : Engine σ γ}
    (throttled : throttle elapsed engine = .ok ((), stopped)) :
    stopped.stats.transfers = engine.stats.transfers := by
  rcases (throttle_eq_ok.mp throttled).2 with ⟨_, rfl⟩ | ⟨_, _, _, _, rfl⟩
  · rfl
  · rfl

theorem transfer_transfers {cycle : Cycle} {start : Nat} {buffer : Buffer}
    {engine stopped : Engine σ γ} {reply : Option Completion × Array UInt16}
    (transferred : transfer true cycle start buffer engine =
      .ok (.ok reply, stopped)) :
    stopped.stats.transfers = engine.stats.transfers + 1 := by
  cases built : Request.ofBuffer engine.config.slot cycle start buffer true with
  | error fault =>
      rw [transfer_of_refused built] at transferred
      cases transferred
  | ok request =>
      obtain ⟨carried, carriedOut, outcome⟩ :=
        (transfer_eq_ok built).mp transferred
      rcases carryOut_eq_ok.mp carriedOut with ⟨_, _, _, rfl, _⟩ |
        ⟨_, _, _, _, _, throttled, _⟩
      · cases outcome
      · exact throttle_transfers throttled

theorem BlockStep.transfers {cycle : Cycle} {engine stopped : Engine σ γ}
    {buffer moved : Array UInt16} {address count : Nat}
    {completion : Completion} {result : Except BusError Unit}
    (step : BlockStep cycle engine buffer address count
      (.ok completion) moved result stopped) :
    stopped.stats.transfers = engine.stats.transfers + 1 := by
  cases step with
  | timedOut transferred silent =>
      have counted := transfer_transfers transferred
      exact counted
  | acknowledged transferred success => exact transfer_transfers transferred

theorem BlockStep.exists_completion {cycle : Cycle}
    {engine stopped : Engine σ γ} {buffer moved : Array UInt16}
    {address count : Nat} {reply : Except BusError Completion}
    (step : BlockStep cycle engine buffer address count reply moved
      (.ok ()) stopped) :
    ∃ completion, reply = .ok completion := by
  cases step with
  | acknowledged transferred success => exact ⟨_, rfl⟩

theorem moveRange_transfers {cycle : Cycle} {engine stopped : Engine σ γ}
    {buffer moved : Array UInt16} {range : AddressRange}
    (ran : moveRange cycle buffer range engine =
      .ok ((moved, .ok ()), stopped)) :
    stopped.stats.transfers = engine.stats.transfers + 1 := by
  obtain ⟨reply, step⟩ := (moveRange_eq_ok (checkRange_of_moveRange ran)).mp ran
  obtain ⟨completion, rfl⟩ := step.exists_completion
  exact step.transfers

end Engine

end Backplane.Dma
