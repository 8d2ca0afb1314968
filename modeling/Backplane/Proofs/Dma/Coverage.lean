import Backplane.Proofs.Dma.Conduct
import Backplane.Proofs.Dma.Splitting

/-!
# What a random access submits

A random access covers its range on every transport and for every generator.
Its requests follow one another without a gap, each is cut out of the buffer
where its address says, and they end with the range, or earlier with the first
request that is not acknowledged.  Only the clock can overflow in between, in
the last request or behind it.
-/

namespace Backplane

open Dma

/-- A record that grows by one entry with each request that a transport carries
out or breaks off, and by nothing else. -/
structure Transport.Recording {σ α : Type} [Transport σ] (entry : Request → α)
    (record : σ → List α) : Prop where
  submit : ∀ ⦃request before result after⦄,
    (Transport.submit request).run before = .ok (result, after) →
      record after = record before ++ [entry request]
  sleep : ∀ ⦃duration before after⦄,
    Transport.sleep duration before = .ok ((), after) →
    record after = record before
  note : ∀ event before, record (Transport.note event before) = record before

namespace Dma

/-- A request, the transport that received it, and the buffer it was cut
from. -/
structure Submission (σ : Type) where
  before : σ
  buffer : Array UInt16
  request : Request

namespace Submission

variable {σ : Type} [Transport σ]

def answer (submission : Submission σ) :
    Except ClockOverflow (Except BusError Reply × σ) :=
  (Transport.submit submission.request).run submission.before

/-- The buffer behind a reply. -/
def refilled (submission : Submission σ) (reply : Reply) : Array UInt16 :=
  Engine.refill submission.request.cycle submission.buffer
    (submission.request.start / 2) reply.words

/-- How the transport answered, what the buffer holds behind it, and what
follows from it. -/
inductive Answered (submission : Submission σ) :
    Array UInt16 → Except BusError Unit → Prop where
  | acknowledged {reply : Reply} {after : σ}
      (answer : submission.answer = .ok (.ok reply, after))
      (success : reply.outcome = .acknowledged) :
      Answered submission (submission.refilled reply) (.ok ())
  | timedOut {reply : Reply} {after : σ} {address : Nat}
      (answer : submission.answer = .ok (.ok reply, after))
      (silent : reply.outcome = .timedOut address) :
      Answered submission (submission.refilled reply)
        (.error (.timeout address))
  | failed {fault : BusError} {after : σ}
      (answer : submission.answer = .ok (.error fault, after)) :
      Answered submission submission.buffer (.error fault)

/-- A block of a range, cut out of a buffer where its address says. -/
structure CutFrom (slot : Nat) (cycle : Cycle) (range : AddressRange)
    (bufferWords : Nat) (submission : Submission σ) : Prop where
  slot : submission.request.slot = slot
  cycle : submission.request.cycle = cycle
  waitedFor : submission.request.blocking = true
  size : submission.buffer.size = bufferWords
  faces : submission.request.buffer.isSink = submission.request.cycle.isRead
  sliced : submission.request.start / 2 + submission.request.words.size ≤
    bufferWords
  words : submission.request.words = submission.buffer.extract
    (submission.request.start / 2)
    (submission.request.start / 2 + submission.request.words.size)
  starts : range.first ≤ submission.request.start
  ends : submission.request.lastAddress ≤ range.last

/-- Submissions without a gap from an address on, up to a final one.  All before
it are acknowledged, and each finds the buffer as the one before it left it. -/
inductive Row : Nat → Array UInt16 → List (Submission σ) →
    Submission σ → Prop where
  | final {submission : Submission σ}
      (inhabited : 0 < submission.request.words.size) :
      Row submission.request.start submission.buffer [submission] submission
  | next {submission final : Submission σ} {moved : Array UInt16}
      {rest : List (Submission σ)}
      (inhabited : 0 < submission.request.words.size)
      (answered : submission.Answered moved (.ok ()))
      (behind : Row (submission.request.lastAddress + 2) moved rest final) :
      Row submission.request.start submission.buffer (submission :: rest) final

/-- Every submission finds the submissions before it in a record. -/
inductive Recorded {α : Type} (entry : Request → α) (record : σ → List α) :
    List α → List (Submission σ) → Prop where
  | nil {entries : List α} : Recorded entry record entries []
  | cons {submission : Submission σ} {rest : List (Submission σ)}
      (behind : Recorded entry record
        (record submission.before ++ [entry submission.request])
        rest) :
      Recorded entry record (record submission.before) (submission :: rest)

end Submission

namespace Engine

variable {σ γ : Type}

/-! ## One block -/

/-- The request for a block of a buffer. -/
def blockRequest (engine : Engine σ γ) (cycle : Cycle) (buffer : Array UInt16)
    (address count : Nat) : Request where
  slot := engine.config.slot
  cycle := cycle
  start := address
  buffer := .facing cycle (buffer.extract (address / 2) (address / 2 + count))
  blocking := true

/-- Words of a buffer that make a block at an address. -/
structure Sliced (buffer : Array UInt16) (address count : Nat) : Prop where
  aligned : address % 2 = 0
  positive : 0 < count
  covered : address / 2 + count ≤ buffer.size

namespace Sliced

variable {buffer moved : Array UInt16} {address count part : Nat}

theorem first (sliced : Sliced buffer address count) (positive : 0 < part)
    (within : part ≤ count) : Sliced buffer address part where
  aligned := sliced.aligned
  positive := positive
  covered := by
    have covered := sliced.covered
    omega

theorem rest (sliced : Sliced buffer address count) (short : part < count)
    (size : moved.size = buffer.size) :
    Sliced moved (address + 2 * part) (count - part) := by
  obtain ⟨aligned, positive, covered⟩ := sliced
  exact ⟨by omega, by omega, by omega⟩

theorem size_blockRequest (sliced : Sliced buffer address count)
    (engine : Engine σ γ) (cycle : Cycle) :
    (engine.blockRequest cycle buffer address count).words.size = count := by
  have covered := sliced.covered
  rw [Request.words, blockRequest, Buffer.words_facing, Array.size_extract]
  omega

theorem ofBuffer_blockRequest (sliced : Sliced buffer address count)
    (engine : Engine σ γ) (cycle : Cycle) :
    Request.ofBuffer engine.config.slot cycle address
      (.facing cycle (buffer.extract (address / 2) (address / 2 + count)))
        true = .ok (engine.blockRequest cycle buffer address count) := by
  have size := sliced.size_blockRequest engine cycle
  rw [Request.words, blockRequest, Buffer.words_facing] at size
  exact Request.ofBuffer_facing engine.config.slot cycle true sliced.aligned
    (size.symm ▸ sliced.positive)

theorem lastAddress_blockRequest (sliced : Sliced buffer address count)
    (engine : Engine σ γ) (cycle : Cycle) :
    (engine.blockRequest cycle buffer address count).lastAddress + 2 =
      address + 2 * count := by
  have positive := sliced.positive
  have size : (engine.blockRequest cycle buffer address count).wordCount =
      count :=
    sliced.size_blockRequest engine cycle
  rw [Request.lastAddress, size]
  change address + 2 * (count - 1) + 2 = _
  omega

end Sliced

variable [Transport σ]

/-- An engine that has announced a request. -/
def announced (engine : Engine σ γ) (request : Request) : Engine σ γ :=
  engine.noted (.blockIssued request.cycle request.start request.lastAddress
    request.slot)

/-- The submission behind a block of a buffer. -/
def submission (engine : Engine σ γ) (cycle : Cycle) (buffer : Array UInt16)
    (address count : Nat) : Submission σ where
  before :=
    (engine.announced
      (engine.blockRequest cycle buffer address count)).transport
  buffer := buffer
  request := engine.blockRequest cycle buffer address count

section Block

variable {cycle : Cycle} {engine stopped : Engine σ γ}
  {buffer moved : Array UInt16} {address count : Nat}

/-- A well-formed transfer submits its request, and the answer decides the
rest. -/
theorem transfer_submitted_eq_ok {blocking : Bool} {start : Nat}
    {words : Buffer} {request : Request}
    {result : Except BusError (Option Completion × Array UInt16)}
    (built : Request.ofBuffer engine.config.slot cycle start words blocking =
      .ok request) :
    transfer blocking cycle start words engine = .ok (result, stopped) ↔
      (∃ fault after,
        (Transport.submit request).run (engine.announced request).transport =
          .ok (.error fault, after) ∧
        result = .error fault ∧ stopped = { engine with transport := after }) ∨
      ∃ reply after completion reached,
        (Transport.submit request).run (engine.announced request).transport =
          .ok (.ok reply, after) ∧
        completion = (engine.announced request).completed request
          reply.outcome after ∧
        throttle completion.elapsed (engine.counted completion after) =
          .ok ((), reached) ∧
        result = .ok (if blocking then some completion else none, reply.words) ∧
        stopped = reached.handOver blocking completion := by
  obtain ⟨_, _, _, rfl⟩ := Request.ofBuffer_eq_ok.mp built
  rw [transfer_eq_ok_of_built built]
  simp only [carryOut_eq_ok]
  constructor
  · intro ran
    obtain ⟨_, _, ⟨fault, after, answer, rfl, rfl⟩ |
      ⟨reply, after, completion, answer, same, throttled, rfl⟩,
      ⟨_, told, rfl, rfl⟩ | ⟨_, _, told, rfl, rfl⟩⟩ := ran
    · cases told
      exact .inl ⟨_, after, answer, rfl, rfl⟩
    · cases told
    · cases told
    · cases told
      exact .inr ⟨reply, after, _, _, answer, same, throttled, rfl, rfl⟩
  · intro ran
    obtain ⟨fault, after, answer, rfl, rfl⟩ |
      ⟨reply, after, completion, reached, answer, same, throttled, rfl, rfl⟩ :=
      ran
    · exact ⟨_, _, .inl ⟨fault, after, answer, rfl, rfl⟩,
        .inl ⟨fault, rfl, rfl, rfl⟩⟩
    · exact ⟨_, reached,
        .inr ⟨reply, after, completion, answer, same, throttled, rfl⟩,
        .inr ⟨completion, reply.words, rfl, rfl, rfl⟩⟩

/-- The transfer behind a block submits one request. -/
theorem transfer_submission_eq_ok (sliced : Sliced buffer address count)
    {result : Except BusError (Option Completion × Array UInt16)} :
    transfer true cycle address
        (.facing cycle (buffer.extract (address / 2) (address / 2 + count)))
          engine = .ok (result, stopped) ↔
      (∃ fault after,
        (engine.submission cycle buffer address count).answer =
          .ok (.error fault, after) ∧
        result = .error fault ∧ stopped = { engine with transport := after }) ∨
      ∃ reply after completion,
        (engine.submission cycle buffer address count).answer =
          .ok (.ok reply, after) ∧
        completion =
          (engine.announced
            (engine.blockRequest cycle buffer address count)).completed
            (engine.blockRequest cycle buffer address count)
              reply.outcome after ∧
        throttle completion.elapsed (engine.counted completion after) =
          .ok ((), stopped) ∧
        result = .ok (some completion, reply.words) := by
  refine (transfer_submitted_eq_ok
    (sliced.ofBuffer_blockRequest engine cycle)).trans
    (or_congr_right ?_)
  constructor
  · intro ran
    obtain ⟨reply, after, completion, _, answer, same, throttled, rfl, rfl⟩ :=
      ran
    exact ⟨reply, after, completion, answer, same, throttled, rfl⟩
  · intro ran
    obtain ⟨reply, after, completion, answer, same, throttled, rfl⟩ := ran
    exact ⟨reply, after, completion, stopped, answer, same, throttled, rfl, rfl⟩

/-- A block is answered as its submission is. -/
theorem BlockStep.answered {reply : Except BusError Completion}
    {result : Except BusError Unit}
    (step : BlockStep cycle engine buffer address count reply moved
      result stopped)
    (sliced : Sliced buffer address count) :
    (engine.submission cycle buffer address count).Answered moved result := by
  cases step with
  | failed transferred =>
      obtain ⟨fault, after, answer, same, _⟩ | ⟨_, _, _, _, _, _, impossible⟩ :=
        (transfer_submission_eq_ok sliced).mp transferred
      · cases same
        exact .failed answer
      · cases impossible
  | timedOut transferred silent =>
      obtain ⟨_, _, _, impossible, _⟩
          | ⟨reply, after, completion, answer, same, _, told⟩ :=
        (transfer_submission_eq_ok sliced).mp transferred
      · cases impossible
      · cases told
        rw [same] at silent
        exact .timedOut answer silent
  | acknowledged transferred success =>
      obtain ⟨_, _, _, impossible, _⟩
          | ⟨reply, after, completion, answer, same, _, told⟩ :=
        (transfer_submission_eq_ok sliced).mp transferred
      · cases impossible
      · cases told
        rw [same] at success
        exact .acknowledged answer success

theorem Sliced.cutFrom {range : AddressRange}
    (sliced : Sliced buffer address count) (starts : range.first ≤ address)
    (ends : address + 2 * count ≤ range.last + 2) (engine : Engine σ γ)
    (cycle : Cycle) :
    (engine.submission cycle buffer address count).CutFrom
      engine.config.slot cycle range buffer.size where
  slot := rfl
  cycle := rfl
  waitedFor := rfl
  size := rfl
  faces := Buffer.isSink_facing cycle _
  sliced := by
    have size := sliced.size_blockRequest engine cycle
    exact size.symm ▸ sliced.covered
  words := by
    have size := sliced.size_blockRequest engine cycle
    change (engine.blockRequest cycle buffer address count).words =
      buffer.extract (address / 2)
        (address / 2 +
          (engine.blockRequest cycle buffer address count).words.size)
    rw [size]
    exact Buffer.words_facing cycle _
  starts := starts
  ends := by
    have last := sliced.lastAddress_blockRequest engine cycle
    change (engine.blockRequest cycle buffer address count).lastAddress ≤
      range.last
    omega

theorem BlockStep.config {reply : Except BusError Completion}
    (step : BlockStep cycle engine buffer address count reply moved
      (.ok ()) stopped) :
    stopped.config = engine.config := by
  obtain ⟨_, _, rfl⟩ := step.frame
  rfl

/-- A broken transport never lets the clock overflow, and nothing follows it. -/
theorem moveBlock_of_failed {fault : BusError} {after : σ}
    (sliced : Sliced buffer address count)
    (answer : (engine.submission cycle buffer address count).answer =
      .ok (.error fault, after)) :
    moveBlock cycle buffer address count engine =
      .ok ((buffer, .error fault), { engine with transport := after }) := by
  have transferred := (transfer_submission_eq_ok sliced).mpr
    (.inl ⟨fault, after, answer, rfl, rfl⟩)
  exact moveBlock_eq_ok.mpr ⟨_, .failed transferred⟩

section Record

variable {α : Type} {entry : Request → α} {record : σ → List α}

theorem throttle_recorded (recording : Transport.Recording entry record)
    {elapsed : Nat} (throttled : throttle elapsed engine = .ok ((), stopped)) :
    record stopped.transport = record engine.transport := by
  obtain ⟨_, rfl⟩ | ⟨_, _, slept, _, rfl⟩ := (throttle_eq_ok.mp throttled).2
  · rfl
  · exact recording.sleep slept

theorem submission_recorded (recording : Transport.Recording entry record) :
    record (engine.submission cycle buffer address count).before =
      record engine.transport :=
  recording.note _ _

theorem transfer_recorded (recording : Transport.Recording entry record)
    (sliced : Sliced buffer address count)
    {result : Except BusError (Option Completion × Array UInt16)}
    (transferred : transfer true cycle address
      (.facing cycle (buffer.extract (address / 2) (address / 2 + count)))
        engine = .ok (result, stopped)) :
    record stopped.transport = record engine.transport ++
      [entry (engine.blockRequest cycle buffer address count)] := by
  have before : record (engine.submission cycle buffer address count).before =
      record engine.transport := submission_recorded recording
  obtain ⟨_, after, answer, _, rfl⟩ | ⟨_, after, _, answer, _, throttled, _⟩ :=
    (transfer_submission_eq_ok sliced).mp transferred
  · rw [← before]
    exact recording.submit answer
  · rw [throttle_recorded recording throttled, ← before]
    exact recording.submit answer

theorem BlockStep.recorded (recording : Transport.Recording entry record)
    {reply : Except BusError Completion} {result : Except BusError Unit}
    (step : BlockStep cycle engine buffer address count reply moved
      result stopped)
    (sliced : Sliced buffer address count) :
    record stopped.transport = record engine.transport ++
      [entry (engine.blockRequest cycle buffer address count)] := by
  cases step with
  | failed transferred | acknowledged transferred =>
      exact transfer_recorded recording sliced transferred
  | timedOut transferred silent =>
      exact (recording.note _ _).trans
        (transfer_recorded recording sliced transferred)

end Record

end Block

/-! ## A row of blocks -/

variable [RandomSource γ]

/-- The next submission of an access that has `remaining` words left to move. -/
def nextSubmission (engine : Engine σ γ) (cycle : Cycle) (buffer : Array UInt16)
    (address remaining : Nat) : Submission σ :=
  (engine.drawnLength remaining).submission cycle buffer address
    (engine.nextLength remaining)

/-- The submissions of an access that has `remaining` words left to move, the
last of them, and what its block comes back with. -/
inductive Course (cycle : Cycle) :
    Engine σ γ → Array UInt16 → Nat → Nat → List (Submission σ) → Submission σ →
      Except ClockOverflow
        ((Array UInt16 × Except BusError Unit) × Engine σ γ) → Prop where
  /-- The block that fails, or the block with all words that are left. -/
  | last {engine : Engine σ γ} {buffer : Array UInt16} {address remaining : Nat}
      {ended : Except ClockOverflow
        ((Array UInt16 × Except BusError Unit) × Engine σ γ)}
      (sliced : Sliced buffer address (engine.nextLength remaining))
      (within : engine.nextLength remaining ≤ remaining)
      (ran : moveBlock cycle buffer address (engine.nextLength remaining)
        (engine.drawnLength remaining) = ended)
      (whole : ∀ moved stopped, ended = .ok ((moved, .ok ()), stopped) →
        engine.nextLength remaining = remaining) :
      Course cycle engine buffer address remaining
        [engine.nextSubmission cycle buffer address remaining]
        (engine.nextSubmission cycle buffer address remaining) ended
  | next {engine middle : Engine σ γ} {buffer moved : Array UInt16}
      {address remaining : Nat} {reply : Except BusError Completion}
      {rest : List (Submission σ)} {final : Submission σ}
      {ended : Except ClockOverflow
        ((Array UInt16 × Except BusError Unit) × Engine σ γ)}
      (sliced : Sliced buffer address (engine.nextLength remaining))
      (short : engine.nextLength remaining < remaining)
      (step : BlockStep cycle (engine.drawnLength remaining) buffer address
        (engine.nextLength remaining) reply moved (.ok ()) middle)
      (behind : Course cycle middle moved
        (address + 2 * engine.nextLength remaining)
        (remaining - engine.nextLength remaining) rest final ended) :
      Course cycle engine buffer address remaining
        (engine.nextSubmission cycle buffer address remaining :: rest)
          final ended

theorem exists_course (cycle : Cycle) (engine : Engine σ γ)
    {buffer : Array UInt16} {address remaining : Nat}
    (sliced : Sliced buffer address remaining)
    (bounded : remaining < RandomSource.wordRange) :
    ∃ submissions final ended,
      Course cycle engine buffer address remaining submissions final ended := by
  induction remaining using Nat.strongRecOn generalizing
    engine buffer address with
  | ind remaining induction =>
      have remains := Nat.ne_of_gt sliced.positive
      have positive := engine.nextLength_pos remaining
      have within := engine.nextLength_le remains bounded
      have block := sliced.first positive within
      cases ran : moveBlock cycle buffer address (engine.nextLength remaining)
          (engine.drawnLength remaining) with
      | error overflow => exact ⟨_, _, _, .last block within ran nofun⟩
      | ok done =>
          obtain ⟨⟨moved, outcome⟩, middle⟩ := done
          cases outcome with
          | error fault => exact ⟨_, _, _, .last block within ran nofun⟩
          | ok _ =>
              -- A drawn length is positive, so fewer words are left behind
              -- every block.
              by_cases whole : engine.nextLength remaining = remaining
              · exact ⟨_, _, _, .last block within ran fun _ _ _ => whole⟩
              · have short := Nat.lt_of_le_of_ne within whole
                obtain ⟨reply, step⟩ := moveBlock_eq_ok.mp ran
                obtain ⟨_, _, _, behind⟩ := induction
                  (remaining - engine.nextLength remaining) (by omega) middle
                  (sliced.rest short step.size_moved) (by omega)
                exact ⟨_, _, _, .next block short step behind⟩

namespace Course

variable {cycle : Cycle} {engine : Engine σ γ} {buffer : Array UInt16}
  {address remaining : Nat} {submissions : List (Submission σ)}
  {final : Submission σ}
  {ended : Except ClockOverflow
    ((Array UInt16 × Except BusError Unit) × Engine σ γ)}

/-- An access ends as the last block of its course does. -/
theorem moveBlocks_eq
    (course : Course cycle engine buffer address remaining
      submissions final ended)
    (blocks : Nat) :
    moveBlocks cycle buffer address remaining blocks engine =
      ended.map fun done =>
        ((done.1.1, done.1.2.map fun _ => blocks + submissions.length),
          done.2) := by
  induction course generalizing blocks with
  | @last engine buffer address remaining ended sliced within ran whole =>
      have positive := sliced.positive
      rw [moveBlocks_succ (by omega)]
      cases ended with
      | error overflow => exact except_bind_eq_error.mpr (.inl ran)
      | ok done =>
          obtain ⟨⟨moved, outcome⟩, stopped⟩ := done
          rw [Timed.bind_of_ok ran]
          cases outcome with
          | error fault => rfl
          | ok _ =>
              -- Behind the block with all words that are left, the count is
              -- final.
              simp only [whole moved stopped rfl, Nat.sub_self]
              rw [Engine.moveBlocks, dif_pos rfl]
              rfl
  | @next engine middle buffer moved address remaining reply rest final
      ended sliced short step behind induction =>
      have count : blocks + 1 + rest.length = blocks + (rest.length + 1) := by
        omega
      rw [moveBlocks_succ (by omega),
        Timed.bind_of_ok (moveBlock_eq_ok.mpr ⟨_, step⟩)]
      simp only [induction, List.length_cons, count]

theorem length_le
    (course : Course cycle engine buffer address remaining submissions
      final ended) :
    submissions.length ≤ remaining := by
  induction course with
  | last sliced within =>
      have positive := sliced.positive
      rw [List.length_singleton]
      omega
  | next sliced short step behind induction =>
      have positive := sliced.positive
      rw [List.length_cons]
      omega

theorem row
    (course : Course cycle engine buffer address remaining submissions
      final ended) :
    Submission.Row address buffer submissions final := by
  induction course with
  | @last engine buffer address remaining ended sliced within ran whole =>
      refine @Submission.Row.final σ _
        (engine.nextSubmission cycle buffer address remaining) ?_
      exact (sliced.size_blockRequest _ cycle).symm ▸ sliced.positive
  | @next engine middle buffer moved address remaining reply rest final
      ended sliced short step behind induction =>
      rw [← sliced.lastAddress_blockRequest (engine.drawnLength remaining)
        cycle] at induction
      refine @Submission.Row.next σ _
        (engine.nextSubmission cycle buffer address remaining)
        _ _ _ ?_ (step.answered sliced) induction
      exact (sliced.size_blockRequest _ cycle).symm ▸ sliced.positive

theorem cutFrom {range : AddressRange}
    (course : Course cycle engine buffer address remaining
      submissions final ended)
    (starts : range.first ≤ address)
    (ends : address + 2 * remaining = range.last + 2) :
    ∀ submission ∈ submissions,
      submission.CutFrom engine.config.slot cycle range buffer.size := by
  induction course with
  | @last engine buffer address remaining ended sliced within ran whole =>
      exact List.forall_mem_singleton.mpr
        (sliced.cutFrom starts (by omega) _ cycle)
  | @next engine middle buffer moved address remaining reply rest final
      ended sliced short step behind induction =>
      have tail := induction (by omega) (by omega)
      rw [step.config, step.size_moved] at tail
      exact List.forall_mem_cons.mpr
        ⟨sliced.cutFrom starts (by omega) _ cycle, tail⟩

theorem final_answered
    (course : Course cycle engine buffer address remaining submissions
      final ended) :
    (∀ overflow, ended = .error overflow →
      ∀ fault after, final.answer ≠ .ok (.error fault, after)) ∧
    ∀ moved outcome stopped, ended = .ok ((moved, outcome), stopped) →
      final.Answered moved outcome ∧
        (outcome = .ok () → final.request.lastAddress + 2 =
          address + 2 * remaining) := by
  induction course with
  | @last engine buffer address remaining ended sliced within ran whole =>
      constructor
      · intro overflow overflown fault after answer
        have failed := moveBlock_of_failed sliced answer
        cases (ran.symm.trans failed).symm.trans overflown
      · intro moved outcome stopped ending
        obtain ⟨reply, step⟩ := moveBlock_eq_ok.mp (ran.trans ending)
        refine ⟨step.answered sliced, fun completed => ?_⟩
        have last : (engine.nextSubmission cycle buffer address
            remaining).request.lastAddress + 2 =
            address + 2 * engine.nextLength remaining :=
          sliced.lastAddress_blockRequest _ cycle
        rw [completed] at ending
        rw [last, whole moved stopped ending]
  | @next engine middle buffer moved address remaining reply rest final
      ended sliced short step behind induction =>
      -- Both the course and its rest are to reach the same address.
      have same : address + 2 * engine.nextLength remaining +
          2 * (remaining - engine.nextLength remaining) =
          address + 2 * remaining := by omega
      rw [same] at induction
      exact induction

theorem recorded {α : Type} {entry : Request → α} {record : σ → List α}
    (recording : Transport.Recording entry record)
    (course : Course cycle engine buffer address remaining submissions
      final ended) :
    Submission.Recorded entry record (record engine.transport) submissions ∧
      ∀ done stopped, ended = .ok (done, stopped) →
        record stopped.transport = record engine.transport ++
          submissions.map fun submission => entry submission.request := by
  induction course with
  | @last engine buffer address remaining ended sliced within ran whole =>
      have before :
          record (engine.nextSubmission cycle buffer address remaining).before =
          record engine.transport := submission_recorded recording
      constructor
      · rw [← before]
        exact .cons .nil
      · intro done stopped ending
        obtain ⟨reply, step⟩ := moveBlock_eq_ok.mp (ran.trans ending)
        have block := step.recorded recording sliced
        exact block
  | @next engine middle buffer moved address remaining reply rest final
      ended sliced short step behind induction =>
      have before :
          record (engine.nextSubmission cycle buffer address remaining).before =
          record engine.transport := submission_recorded recording
      have block := step.recorded recording sliced
      change record middle.transport = record engine.transport ++
        [entry (engine.nextSubmission cycle buffer address remaining).request]
        at block
      obtain ⟨kept, told⟩ := induction
      rw [block] at kept told
      constructor
      · rw [← before] at kept ⊢
        exact .cons kept
      · intro done stopped ending
        rw [told done stopped ending, List.map_cons, List.append_assoc]
        rfl

end Course

/-- An accepted range as the words of its buffer that are left to move at
first. -/
theorem AcceptedWords.slice {range : AddressRange} {buffer : Array UInt16}
    (accepted : AcceptedWords range buffer.size) :
    Sliced buffer range.first range.wordCount where
  aligned := by
    have start := accepted.start
    omega
  positive := accepted.positive
  covered := accepted.covered

theorem exists_course_of_accepted (cycle : Cycle) {engine : Engine σ γ}
    {buffer : Array UInt16} {range : AddressRange}
    (accepted : checkRange engine.width range buffer.size = .ok ()) :
    ∃ submissions final ended,
      Course cycle engine buffer range.first range.wordCount submissions
        final ended :=
  exists_course cycle engine (acceptedWords accepted).slice
    (acceptedWords accepted).bounded

/-- An accepted access ends as its course through the range does. -/
theorem Course.accessRandom_eq {cycle : Cycle} {engine : Engine σ γ}
    {buffer : Array UInt16} {range : AddressRange}
    {submissions : List (Submission σ)} {final : Submission σ}
    {ended : Except ClockOverflow
      ((Array UInt16 × Except BusError Unit) × Engine σ γ)}
    (accepted : checkRange engine.width range buffer.size = .ok ())
    (course : Course cycle engine buffer range.first range.wordCount
      submissions final ended) :
    accessRandom cycle buffer range engine = ended.map fun done =>
      ((done.1.1, done.1.2.map fun _ => submissions.length), done.2) := by
  have moving := course.moveBlocks_eq 0
  rw [Nat.zero_add] at moving
  rw [accessRandom, Timed.bind_of_ok (Timed.get_apply engine)]
  simp only [accepted, moving]

/-- A random access submits no more requests than its range has words.  They
start with the range and follow one another without a gap, and each is cut out
of the buffer where its address says.  The last of them is the first that is not
acknowledged, or it ends the range; the access comes back with what it was
answered, and tells the number of requests. -/
theorem accessRandom_covers_range {cycle : Cycle} {engine : Engine σ γ}
    {buffer : Array UInt16} {range : AddressRange}
    (accepted : checkRange engine.width range buffer.size = .ok ()) :
    ∃ (submissions : List (Submission σ)) (final : Submission σ),
      submissions.length ≤ (range.last - range.first) / 2 + 1 ∧
      Submission.Row range.first buffer submissions final ∧
      (∀ submission ∈ submissions,
        submission.CutFrom engine.config.slot cycle range buffer.size) ∧
      ((∃ overflow, accessRandom cycle buffer range engine = .error overflow ∧
          ∀ fault after, final.answer ≠ .ok (.error fault, after)) ∨
        ∃ moved outcome stopped,
          accessRandom cycle buffer range engine =
            .ok ((moved, outcome.map fun _ => submissions.length), stopped) ∧
          final.Answered moved outcome ∧
          (outcome = .ok () → final.request.lastAddress = range.last) ∧
          ∀ (α : Type) (entry : Request → α) (record : σ → List α),
            Transport.Recording entry record →
            record stopped.transport = record engine.transport ++
              submissions.map fun submission => entry submission.request) ∧
      ∀ (α : Type) (entry : Request → α) (record : σ → List α),
        Transport.Recording entry record →
        Submission.Recorded entry record (record engine.transport)
          submissions := by
  have wellFormed := (checkRange_eq_ok.mp accepted).1
  have ends := AddressRange.first_add_wordCount wellFormed
  obtain ⟨submissions, final, ended, course⟩ :=
    exists_course_of_accepted cycle accepted
  have access := course.accessRandom_eq accepted
  obtain ⟨overflown, answered⟩ := course.final_answered
  refine ⟨submissions, final, course.length_le, course.row,
    course.cutFrom (Nat.le_refl _) ends, ?_, fun α entry record recording =>
      (course.recorded recording).1⟩
  cases ended with
  | error overflow => exact .inl ⟨overflow, access, overflown overflow rfl⟩
  | ok done =>
      obtain ⟨⟨moved, outcome⟩, stopped⟩ := done
      obtain ⟨final, reached⟩ := answered moved outcome stopped rfl
      refine .inr ⟨moved, outcome, stopped, access, final, fun completed => ?_,
        fun α entry record recording =>
        (course.recorded recording).2 _ stopped rfl⟩
      have last := reached completed
      omega

end Engine

end Dma

/-- A simulated bus records what it is asked for. -/
theorem SimulatedBus.recording :
    Transport.Recording
      (fun request => (request.slot, request.cycle, request.start,
        request.words.size))
      (fun bus : SimulatedBus => bus.requests.toList.map fun logged =>
        (logged.slot, logged.cycle, logged.start, logged.words)) where
  submit := by
    intro request before result after submitted
    obtain ⟨_, _, rfl⟩ := SimulatedBus.transport_submit_eq_ok.mp submitted
    simp only [SimulatedBus.after, Array.toList_push, List.map_append]
    rfl
  sleep := by
    intro duration before after slept
    obtain ⟨_, rfl⟩ := SimulatedBus.sleep_eq_ok.mp slept
    rfl
  note _ _ := rfl

namespace Dma.Engine

/-- Three words are read with two requests, the last of them up to address 4. -/
theorem accessRandom_of_three_words :
    checkRange .bits16 ⟨0, 4⟩ 3 = .ok () ∧
      ∃ (submissions : List (Submission SimulatedBus))
      (final : Submission SimulatedBus)
        (moved : Array UInt16) (stopped : Engine SimulatedBus Tape),
        accessRandom .dataIn #[9, 9, 9] ⟨0, 4⟩ threeWordEngine =
          .ok ((moved, .ok submissions.length), stopped) ∧
        submissions.length = 2 ∧ Submission.Row 0 #[9, 9, 9] submissions final ∧
        final.request.lastAddress = 4 ∧
        stopped.transport.requests.toList.map (fun logged =>
            (logged.slot, logged.cycle, logged.start, logged.words)) =
          submissions.map fun submission =>
            (submission.request.slot, submission.request.cycle,
              submission.request.start,
              submission.request.words.size) := by
  have accepted : checkRange .bits16 ⟨0, 4⟩ 3 = .ok () :=
    checkRange_eq_ok.mpr (by decide)
  have observed :
      (accessRandom .dataIn #[9, 9, 9] ⟨0, 4⟩ threeWordEngine).toOption.map
      (fun reached => reached.1.2.toOption) = some (some 2) := by
    decide +kernel
  obtain ⟨_, ran, counted⟩ := exists_of_observed observed
  obtain ⟨submissions, final, _, row, _, ⟨overflow, impossible, _⟩ |
    ⟨moved, outcome, stopped, completed, _, reached, recorded⟩, _⟩ :=
      @accessRandom_covers_range SimulatedBus Tape _ _ .dataIn
        threeWordEngine #[9, 9, 9] ⟨0, 4⟩ accepted
  · cases ran.symm.trans impossible
  · cases ran.symm.trans completed
    cases outcome with
    | error fault => cases counted
    | ok _ =>
        exact ⟨accepted, submissions, final, moved, stopped, completed,
          Option.some.inj counted, row, reached rfl,
          recorded _ _ _ SimulatedBus.recording⟩

end Dma.Engine

end Backplane
