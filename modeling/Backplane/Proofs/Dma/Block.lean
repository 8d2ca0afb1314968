import Backplane.Proofs.Dma.Step
import Backplane.Proofs.Transport.Simulated

/-!
# Blocks on a simulated bus

On a simulated bus an engine carries out every well-formed block.  Board,
buffer and outcome follow from the leading answers, and time from the bus
cycles with the idle time after them.  The journal is left open: nothing that
an engine does depends on it.
-/

namespace Backplane.Dma

open MemoryBoard

/-- What a caller sees of the way a block ended. -/
def Outcome.toResult : Outcome → Except BusError Unit
  | .acknowledged => .ok ()
  | .timedOut address => .error (.timeout address)

private theorem fold_setIfInBounds (first : Nat) (word : Nat → UInt16)
    (buffer : Array UInt16) (count index : Nat) :
    (Nat.fold count (fun offset _ buffer =>
      buffer.setIfInBounds (first + offset)
        (word offset)) buffer).size = buffer.size ∧
      (Nat.fold count (fun offset _ buffer =>
        buffer.setIfInBounds (first + offset) (word offset)) buffer)[index]? =
        if index < buffer.size ∧ first ≤ index ∧ index < first + count then
          some (word (index - first))
        else
          buffer[index]? := by
  induction count with
  | zero =>
      refine ⟨rfl, ?_⟩
      rw [if_neg (by omega)]
      rfl
  | succ count induction =>
      obtain ⟨sizeEquality, content⟩ := induction
      refine ⟨by rw [Nat.fold_succ, Array.size_setIfInBounds, sizeEquality], ?_⟩
      rw [Nat.fold_succ, Array.getElem?_setIfInBounds, sizeEquality, content]
      by_cases here : first + count = index
      · subst index
        by_cases inside : first + count < buffer.size
        · rw [if_pos rfl, if_pos inside, if_pos (by omega),
            Nat.add_sub_cancel_left]
        · rw [if_pos rfl, if_neg inside, if_neg (by omega),
            Array.getElem?_eq_none (by omega)]
      · rw [if_neg here]
        by_cases before : index < buffer.size ∧ first ≤ index ∧
          index < first + count
        · rw [if_pos before, if_pos (by omega)]
        · rw [if_neg before, if_neg (by omega)]

namespace Engine

private theorem overwrite_eq_fold (buffer words : Array UInt16) (first : Nat) :
    overwrite buffer first words =
      Nat.fold words.size
        (fun offset _ buffer => buffer.setIfInBounds (first + offset)
          (words.getD offset 0)) buffer := by
  unfold overwrite
  congr 1
  funext offset bound buffer
  rw [Array.getD, dif_pos bound]
  rfl

@[simp] theorem size_overwrite (buffer words : Array UInt16) (first : Nat) :
    (overwrite buffer first words).size = buffer.size := by
  rw [overwrite_eq_fold]
  exact (fold_setIfInBounds first _ buffer words.size 0).1

theorem getElem?_overwrite (buffer words : Array UInt16) (first index : Nat) :
    (overwrite buffer first words)[index]? =
      if index < buffer.size ∧ first ≤ index ∧ index < first + words.size then
        some (words.getD (index - first) 0)
      else
        buffer[index]? := by
  rw [overwrite_eq_fold]
  exact (fold_setIfInBounds first _ buffer words.size index).2

/-- Words of a buffer that are read as a block of their own, put back into
it. -/
theorem overwrite_deliverWords (board : MemoryBoard) (buffer : Array UInt16)
    {first count part : Nat} (covered : first + count ≤ buffer.size)
    (within : part ≤ count) :
    overwrite buffer first
        (board.deliverWords (2 * first)
          (buffer.extract first (first + count)) 0 part) =
      board.deliverWords 0 buffer first part := by
  have sliceSize : (buffer.extract first (first + count)).size = count := by
    rw [Array.size_extract]
    omega
  apply Array.ext
  · simp
  · intro index bound _
    have inside : index < buffer.size := by simpa using bound
    apply Option.some.inj
    rw [← Array.getElem?_eq_getElem, getElem?_overwrite,
      size_deliverWords, sliceSize, getElem_deliverWords _ _ _ _ _ _ inside]
    by_cases inBlock : first ≤ index ∧ index < first + count
    · have inSlice : index - first <
          (buffer.extract first (first + count)).size := by
        omega
      have sameAddress : 2 * first + 2 * (index - first) = 0 + 2 * index := by
        omega
      have back : first + (index - first) = index := by omega
      rw [if_pos ⟨inside, inBlock⟩]
      by_cases inPart : index < first + part
      · rw [if_pos (by omega), getD_deliverWords _ _ _ inSlice (by omega),
          sameAddress]
      · rw [if_neg (by omega), Array.getD, dif_pos (by simpa using inSlice)]
        apply congrArg some
        refine (getElem_deliverWords _ _ _ _ _ _ inSlice _).trans ?_
        rw [if_neg (by omega), Array.getElem_extract inSlice]
        simp only [back]
    · rw [if_neg (by omega), if_neg (by omega),
        Array.getElem?_eq_getElem inside]

theorem refill_wordsAfter (board : MemoryBoard) (cycle : Cycle)
    (buffer : Array UInt16) {first count part : Nat}
    (covered : first + count ≤ buffer.size) (within : part ≤ count) :
    refill cycle buffer first
        (board.wordsAfter cycle (2 * first)
          (buffer.extract first (first + count)) 0
          part) =
      board.wordsAfter cycle 0 buffer first part := by
  simp only [refill, wordsAfter]
  split
  · exact overwrite_deliverWords board buffer covered within
  · rfl

theorem boardAfter_extract (board : MemoryBoard) (cycle : Cycle)
    (buffer : Array UInt16) {first count part : Nat}
    (covered : first + count ≤ buffer.size) (within : part ≤ count) :
    board.boardAfter cycle (2 * first)
      (buffer.extract first (first + count)) 0 part =
        board.boardAfter cycle 0 buffer first part := by
  simp only [boardAfter]
  split
  · rfl
  · exact acceptWords_extract board cycle buffer covered within

variable {γ : Type}

def idleFor (engine : Engine SimulatedBus γ) (cycles : Nat) : Nat :=
  idleAfter engine.config.bandwidth (engine.transport.elapsedFor cycles)

/-- Bus cycles that overflow no clock, with the idle time after them. -/
def Affords (engine : Engine SimulatedBus γ) (cycles : Nat) : Prop :=
  engine.transport.Affords cycles ∧
    (engine.config.bandwidth < 100 →
      engine.transport.elapsedFor cycles * 100 < Duration.limit) ∧
    (engine.idleFor cycles ≠ 0 →
      engine.transport.clock + engine.transport.elapsedFor cycles +
      engine.idleFor cycles < Duration.limit ∧
        engine.stats.throttled + engine.idleFor cycles < Duration.limit)

instance (engine : Engine SimulatedBus γ) (cycles : Nat) :
    Decidable (engine.Affords cycles) :=
  inferInstanceAs (Decidable (_ ∧ _ ∧ _))

def cyclesOf (engine : Engine SimulatedBus γ) (request : Request) : Nat :=
  engine.transport.board.blockCycles request.start request.words.size

/-- The completion of a block of `count` words. -/
def blockCompletion (engine : Engine SimulatedBus γ) (cycle : Cycle)
    (start count : Nat) : Completion where
  cycle := cycle
  start := start
  words := count
  outcome := engine.transport.board.blockOutcome start count
  elapsed := engine.transport.elapsedFor
    (engine.transport.board.blockCycles start count)

def completionOf (engine : Engine SimulatedBus γ) (request : Request) :
    Completion :=
  engine.blockCompletion request.cycle request.start request.words.size

/-- The engine after a request and the idle time after it. -/
def afterRequest (engine : Engine SimulatedBus γ) (request : Request) :
    Engine SimulatedBus γ :=
  { engine with
    transport :=
      { engine.transport.after request with
        clock := engine.transport.clock +
          engine.transport.elapsedFor (engine.cyclesOf request) +
          engine.idleFor (engine.cyclesOf request) }
    stats :=
      { engine.stats.count (engine.completionOf request) with
        throttled := engine.stats.throttled +
          engine.idleFor (engine.cyclesOf request) } }

theorem completed_after (engine : Engine SimulatedBus γ) (request : Request) :
    engine.completed request (engine.transport.replyTo request).outcome
        (engine.transport.after request) =
      engine.completionOf request := by
  have elapsed : (engine.transport.after request).clock -
      engine.transport.clock =
      engine.transport.elapsedFor (engine.cyclesOf request) :=
    Nat.add_sub_cancel_left _ _
  change Completion.mk _ _ _ _ ((engine.transport.after request).clock -
    engine.transport.clock) = _
  rw [elapsed]
  rfl

theorem throttle_after_eq_ok {request : Request}
    {engine stopped : Engine SimulatedBus γ} :
    throttle (engine.transport.elapsedFor (engine.cyclesOf request))
        (engine.counted (engine.completionOf request)
          (engine.transport.after request)) = .ok ((), stopped) ↔
      ((engine.config.bandwidth < 100 →
          engine.transport.elapsedFor (engine.cyclesOf request) * 100 <
            Duration.limit) ∧
        (engine.idleFor (engine.cyclesOf request) ≠ 0 →
          (engine.transport.after request).clock +
              engine.idleFor (engine.cyclesOf request) < Duration.limit ∧
            engine.stats.throttled + engine.idleFor (engine.cyclesOf request) <
              Duration.limit)) ∧
        stopped = engine.afterRequest request := by
  rw [throttle_eq_ok]
  change (_ ∧ ((engine.idleFor _ = 0 ∧ _) ∨ (engine.idleFor _ ≠ 0 ∧ _))) ↔ _
  constructor
  · intro run
    rcases run with ⟨scaled, ⟨lazy, rfl⟩
      | ⟨busy, transport, sleeping, sum, rfl⟩⟩
    · refine ⟨⟨scaled, fun busy => absurd lazy busy⟩, ?_⟩
      simp only [afterRequest, lazy]
      rfl
    · obtain ⟨clockFits, rfl⟩ := SimulatedBus.sleep_eq_ok.mp sleeping
      exact ⟨⟨scaled, fun _ => ⟨clockFits, sum⟩⟩, rfl⟩
  · intro run
    obtain ⟨⟨scaled, idleFits⟩, rfl⟩ := run
    refine ⟨scaled, ?_⟩
    by_cases lazy : engine.idleFor (engine.cyclesOf request) = 0
    · refine .inl ⟨lazy, ?_⟩
      simp only [afterRequest, lazy]
      rfl
    · obtain ⟨clockFits, sum⟩ := idleFits lazy
      exact .inr ⟨lazy, _, SimulatedBus.sleep_eq_ok.mpr ⟨clockFits, rfl⟩,
        sum, rfl⟩

theorem carryOut_simulated {request : Request}
    {engine stopped : Engine SimulatedBus γ}
    {result : Except BusError (Completion × Array UInt16)} :
    carryOut request engine = .ok (result, stopped) ↔
      engine.Affords (engine.cyclesOf request) ∧
        result = .ok (engine.completionOf request,
          (engine.transport.replyTo request).words) ∧
        stopped = engine.afterRequest request := by
  rw [carryOut_eq_ok]
  simp only [SimulatedBus.transport_submit_eq_ok]
  constructor
  · intro run
    rcases run with ⟨fault, transport, ⟨_, failed, _⟩, _⟩ |
      ⟨reply, transport, completion, ⟨affords, replied, rfl⟩, rfl,
        throttles, rfl⟩
    · cases failed
    · cases replied
      rw [completed_after] at throttles ⊢
      obtain ⟨fits, rfl⟩ := throttle_after_eq_ok.mp throttles
      exact ⟨⟨affords, fits⟩, rfl, rfl⟩
  · intro run
    obtain ⟨⟨affords, fits⟩, rfl, rfl⟩ := run
    refine .inr ⟨_, _, _, ⟨affords, rfl, rfl⟩,
      (completed_after engine request).symm, ?_, rfl⟩
    exact throttle_after_eq_ok.mpr ⟨fits, rfl⟩

/-- A well-formed request is always carried out. -/
theorem transfer_simulated_of_built {engine stopped : Engine SimulatedBus γ}
    {blocking : Bool} {cycle : Cycle} {start : Nat} {buffer : Buffer}
    {request : Request}
    {result : Except BusError (Option Completion × Array UInt16)}
    (built : Request.ofBuffer engine.config.slot cycle start buffer blocking =
      .ok request) :
    transfer blocking cycle start buffer engine = .ok (result, stopped) ↔
      engine.Affords (engine.cyclesOf request) ∧
        result = .ok
          (if blocking then some (engine.completionOf request) else none,
            (engine.transport.replyTo request).words) ∧
        stopped = ((engine.noted (.blockIssued cycle start request.lastAddress
          engine.config.slot)).afterRequest request).handOver blocking
            (engine.completionOf request) := by
  rw [transfer_eq_ok_of_built built]
  simp only [carryOut_simulated]
  constructor
  · intro run
    obtain ⟨_, _, ⟨affords, rfl, rfl⟩, ⟨_, failed, _⟩
        | ⟨_, _, done, rfl, rfl⟩⟩ := run
    · cases failed
    · cases done
      exact ⟨affords, rfl, rfl⟩
  · intro run
    obtain ⟨affords, rfl, rfl⟩ := run
    exact ⟨_, _, ⟨affords, rfl, rfl⟩, .inr ⟨_, _, rfl, rfl, rfl⟩⟩

/-- A well-formed block that is waited for. -/
theorem transfer_simulated {engine stopped : Engine SimulatedBus γ}
    {cycle : Cycle} {start : Nat} {words : Array UInt16}
    {result : Except BusError (Option Completion × Array UInt16)}
    (aligned : start % 2 = 0) (inhabited : 0 < words.size) :
    transfer true cycle start (.facing cycle words) engine =
      .ok (result, stopped) ↔
      engine.Affords (engine.transport.board.blockCycles start words.size) ∧
        result = .ok
          (some (engine.completionOf
            ⟨engine.config.slot, cycle, start, .facing cycle words, true⟩),
            (engine.transport.replyTo
              ⟨engine.config.slot, cycle, start, .facing cycle words,
                true⟩).words) ∧
        stopped = (engine.noted (.blockIssued cycle start
          (Request.lastAddress ⟨engine.config.slot, cycle, start,
            .facing cycle words, true⟩)
          engine.config.slot)).afterRequest
            ⟨engine.config.slot, cycle, start, .facing cycle words, true⟩ := by
  rw [transfer_simulated_of_built
    (Request.ofBuffer_facing engine.config.slot cycle true
      aligned inhabited), cyclesOf, Request.words, Buffer.words_facing]
  rfl

/-- An engine with another journal on its bus. -/
def withJournal (engine : Engine SimulatedBus γ) (journal : Array Event) :
    Engine SimulatedBus γ :=
  { engine with transport := { engine.transport with journal := journal } }

/-- The engine after a block of a buffer, up to the journal. -/
def afterBlock (engine : Engine SimulatedBus γ) (cycle : Cycle)
    (buffer : Array UInt16) (first count : Nat) : Engine SimulatedBus γ :=
  let board := engine.transport.board
  let cycles := board.blockCycles (2 * first) count
  { engine with
    transport :=
      { engine.transport with
        board := board.boardAfter cycle 0 buffer first
          (board.answered (2 * first) count)
        clock := engine.transport.clock + engine.transport.elapsedFor cycles +
          engine.idleFor cycles
        requests := engine.transport.requests.push
          ⟨engine.config.slot, cycle, 2 * first, count,
            board.blockOutcome (2 * first) count⟩ }
    stats :=
      { engine.stats.count (engine.blockCompletion cycle (2 * first) count) with
        throttled := engine.stats.throttled + engine.idleFor cycles } }

theorem afterRequest_block (engine : Engine SimulatedBus γ) (cycle : Cycle)
    {buffer : Array UInt16} {first count : Nat}
    (covered : first + count ≤ buffer.size) (event : Event) :
    ∃ journal,
      (engine.noted event).afterRequest
          ⟨engine.config.slot, cycle, 2 * first,
            .facing cycle (buffer.extract first (first + count)), true⟩ =
        (engine.afterBlock cycle buffer first count).withJournal journal := by
  have sliceSize : (buffer.extract first (first + count)).size = count := by
    rw [Array.size_extract]
    omega
  have sameBoard := boardAfter_extract engine.transport.board cycle
    buffer covered (engine.transport.board.answered_le (2 * first) count)
  refine ⟨((engine.noted event).afterRequest
    ⟨engine.config.slot, cycle, 2 * first,
      .facing cycle (buffer.extract first (first + count)),
      true⟩).transport.journal, ?_⟩
  simp only [afterRequest, completionOf, cyclesOf, SimulatedBus.after,
    Request.words, Buffer.words_facing, sliceSize,
    boardBehind_of_faces (Buffer.isSink_facing _ _),
    afterBlock, withJournal]
  rw [← sameBoard]
  rfl

/-- A block of a buffer that was carried out. -/
structure BlockEffect (cycle : Cycle) (engine : Engine SimulatedBus γ)
    (buffer : Array UInt16) (first count : Nat)
    (reply : Except BusError Completion) (moved : Array UInt16)
    (result : Except BusError Unit) (stopped : Engine SimulatedBus γ) :
    Prop where
  affords :
    engine.Affords (engine.transport.board.blockCycles (2 * first) count)
  reply : reply = .ok (engine.blockCompletion cycle (2 * first) count)
  moved : moved = engine.transport.board.wordsAfter cycle 0 buffer first
    (engine.transport.board.answered (2 * first) count)
  result :
    result = (engine.transport.board.blockOutcome (2 * first) count).toResult
  stopped : ∃ journal,
    stopped = (engine.afterBlock cycle buffer first count).withJournal journal

section Block

variable {cycle : Cycle} {engine stopped : Engine SimulatedBus γ}
  {buffer moved : Array UInt16} {first count : Nat}

/-- The transfer behind a block of a buffer. -/
theorem transfer_block (positive : 0 < count)
    (covered : first + count ≤ buffer.size)
    {result : Except BusError (Option Completion × Array UInt16)} :
    transfer true cycle (2 * first)
        (.facing cycle (buffer.extract first (first + count))) engine =
          .ok (result, stopped) ↔
      engine.Affords (engine.transport.board.blockCycles (2 * first) count) ∧
        result = .ok
          (some (engine.blockCompletion cycle (2 * first) count),
            engine.transport.board.wordsAfter cycle (2 * first)
              (buffer.extract first (first + count)) 0
              (engine.transport.board.answered (2 * first) count)) ∧
        stopped = (engine.noted (.blockIssued cycle (2 * first)
          (Request.lastAddress ⟨engine.config.slot, cycle, 2 * first,
            .facing cycle (buffer.extract first (first + count)), true⟩)
          engine.config.slot)).afterRequest
            ⟨engine.config.slot, cycle, 2 * first,
              .facing cycle (buffer.extract first (first + count)), true⟩ := by
  have sliceSize : (buffer.extract first (first + count)).size = count := by
    rw [Array.size_extract]
    omega
  have aligned : 2 * first % 2 = 0 := by omega
  have inhabited : 0 < (buffer.extract first (first + count)).size := by omega
  rw [transfer_simulated aligned inhabited]
  simp only [completionOf, SimulatedBus.replyTo, Request.words,
    Buffer.words_facing, sliceSize,
    wordsBehind_of_faces (Buffer.isSink_facing _ _)]

theorem BlockStep.simulated {reply : Except BusError Completion}
    {result : Except BusError Unit} (positive : 0 < count)
    (covered : first + count ≤ buffer.size)
    (step : BlockStep cycle engine buffer (2 * first) count reply moved
      result stopped) :
    BlockEffect cycle engine buffer first count reply moved result stopped := by
  have half : 2 * first / 2 = first := by omega
  have refilled := refill_wordsAfter engine.transport.board cycle buffer covered
    (engine.transport.board.answered_le (2 * first) count)
  cases step with
  | failed transferred =>
      rw [half] at transferred
      obtain ⟨_, failure, _⟩ := (transfer_block positive covered).mp transferred
      cases failure
  | timedOut transferred silent =>
      rw [half] at transferred ⊢
      obtain ⟨affords, reply, rfl⟩ :=
        (transfer_block positive covered).mp transferred
      cases reply
      obtain ⟨journal, stopped⟩ := afterRequest_block engine cycle covered _
      refine ⟨affords, rfl, ?_, ?_, ?_⟩
      · rw [refilled]
      · exact congrArg Outcome.toResult silent.symm
      · rw [stopped]
        exact ⟨_, rfl⟩
  | acknowledged transferred success =>
      rw [half] at transferred ⊢
      obtain ⟨affords, reply, rfl⟩ :=
        (transfer_block positive covered).mp transferred
      cases reply
      refine ⟨affords, rfl, ?_, ?_, afterRequest_block engine cycle covered _⟩
      · rw [refilled]
      · exact congrArg Outcome.toResult success.symm

theorem exists_blockStep (engine : Engine SimulatedBus γ) (cycle : Cycle)
    (positive : 0 < count) (covered : first + count ≤ buffer.size)
    (affords : engine.Affords
      (engine.transport.board.blockCycles (2 * first) count)) :
    ∃ reply moved result stopped,
      BlockStep cycle engine buffer (2 * first) count reply moved
        result stopped := by
  have half : 2 * first / 2 = first := by omega
  obtain ⟨words, stopped, transferred⟩ : ∃ words stopped,
      transfer true cycle (2 * first)
        (.facing cycle (buffer.extract first (first + count))) engine = .ok
          (.ok (some (engine.blockCompletion cycle (2 * first) count), words),
            stopped) :=
    ⟨_, _, (transfer_block positive covered).mpr ⟨affords, rfl, rfl⟩⟩
  cases outcome : engine.transport.board.blockOutcome (2 * first) count with
  | acknowledged =>
      exact ⟨_, _, _, _, .acknowledged
        (by rw [half]; exact transferred) outcome⟩
  | timedOut fault =>
      exact ⟨_, _, _, _, .timedOut (by rw [half]; exact transferred) outcome⟩

end Block

end Engine

end Backplane.Dma
