import Backplane.Proofs.Dma.Coverage
import Backplane.Proofs.Dma.Session
import Backplane.Proofs.Transport.Scripted

/-!
# Block lengths are drawn blindly

The lengths of the blocks of random accesses follow from the generator and from
how many words the accesses move.  Nothing that is moved, measured or answered
feeds back into them: it only decides how many of the lengths come to be used.
So the engines of one seed submit the same lengths for accesses of the same word
counts, up to the first block that fails.
-/

namespace Backplane

namespace RandomSource

variable {γ : Type} [RandomSource γ]

/-- The block lengths that are drawn for a number of words, and the source
behind them. -/
def blockLengths (words : Nat) (source : γ) : List Nat × γ :=
  if finished : words = 0 then
    ([], source)
  else
    let (⟨count, positive⟩, source) := blockLength words source
    have : words - count < words :=
      Nat.sub_lt (Nat.pos_of_ne_zero finished) positive
    let (counts, source) := blockLengths (words - count) source
    (count :: counts, source)
termination_by words
decreasing_by assumption

theorem blockLengths_zero (source : γ) :
    blockLengths 0 source = ([], source) := by
  rw [blockLengths, dif_pos rfl]

theorem blockLengths_of_ne_zero {words : Nat} (remains : words ≠ 0)
    (source : γ) :
    blockLengths words source =
      ((blockLength words source).1.val ::
          (blockLengths (words - (blockLength words source).1.val)
            (blockLength words source).2).1,
        (blockLengths (words - (blockLength words source).1.val)
          (blockLength words source).2).2) := by
  rw [blockLengths, dif_neg remains]

/-- The block lengths that are drawn for one number of words after the other. -/
def allBlockLengths : List Nat → γ → List Nat
  | [], _ => []
  | words :: others, source =>
    (blockLengths words source).1 ++ allBlockLengths others
      (blockLengths words source).2

end RandomSource

namespace Dma

namespace Submission

variable {σ : Type} [Transport σ]

/-- An address stayed silent, or the transport broke. -/
def fails (submission : Submission σ) : Bool :=
  match submission.answer with
  | .ok (.ok reply, _) => !reply.outcome.success
  | .ok (.error _, _) => true
  | .error _ => false

/-- What is submitted up to the first block that fails. -/
def upToFault : List (Submission σ) → List (Submission σ)
  | [] => []
  | submission :: rest =>
    if submission.fails then [submission] else submission :: upToFault rest

def lengths (submissions : List (Submission σ)) : List Nat :=
  submissions.map fun submission => submission.request.wordCount

theorem Answered.fails_eq_false {submission : Submission σ}
    {moved : Array UInt16} (answered : submission.Answered moved (.ok ())) :
    submission.fails = false := by
  cases answered with
  | acknowledged answer success =>
      simp only [fails, answer, success]
      rfl

theorem Answered.fails_eq_true {submission : Submission σ}
    {moved : Array UInt16} {fault : BusError}
    (answered : submission.Answered moved (.error fault)) :
    submission.fails = true := by
  cases answered with
  | timedOut answer silent =>
      simp only [fails, answer, silent]
      rfl
  | failed answer => simp only [fails, answer]

theorem upToFault_append_of_sound {first : List (Submission σ)}
    (sound : ∀ submission ∈ first, submission.fails = false)
    (rest : List (Submission σ)) :
    upToFault (first ++ rest) = first ++ upToFault rest := by
  induction first with
  | nil => rfl
  | cons submission first induction =>
      obtain ⟨head, tail⟩ := List.forall_mem_cons.mp sound
      simp only [List.cons_append, upToFault, head, induction tail]
      rfl

theorem upToFault_eq_self {submissions : List (Submission σ)}
    (sound : ∀ submission ∈ submissions, submission.fails = false) :
    upToFault submissions = submissions := by
  have whole := upToFault_append_of_sound sound []
  rwa [List.append_nil, upToFault, List.append_nil] at whole

namespace Row

variable {address : Nat} {buffer : Array UInt16}
  {submissions : List (Submission σ)} {final : Submission σ}

/-- In a row only the final submission can fail. -/
theorem exists_append_final (row : Row address buffer submissions final) :
    ∃ earlier, submissions = earlier ++ [final] ∧
      ∀ submission ∈ earlier, submission.fails = false := by
  induction row with
  | final => exact ⟨[], rfl, List.forall_mem_nil _⟩
  | next _ answered _ induction =>
      obtain ⟨earlier, rfl, sound⟩ := induction
      exact ⟨_ :: earlier, rfl, List.forall_mem_cons.mpr
        ⟨answered.fails_eq_false, sound⟩⟩

theorem final_mem (row : Row address buffer submissions final) :
    final ∈ submissions := by
  obtain ⟨earlier, rfl, _⟩ := row.exists_append_final
  exact List.mem_append_right earlier (List.mem_singleton_self final)

theorem sound (row : Row address buffer submissions final)
    (passed : final.fails = false) :
    ∀ submission ∈ submissions, submission.fails = false := by
  obtain ⟨earlier, rfl, sound⟩ := row.exists_append_final
  exact List.forall_mem_append.mpr ⟨sound, List.forall_mem_singleton.mpr passed⟩

theorem upToFault_append_of_fails (row : Row address buffer submissions final)
    (failed : final.fails = true) (rest : List (Submission σ)) :
    upToFault (submissions ++ rest) = submissions := by
  obtain ⟨earlier, rfl, sound⟩ := row.exists_append_final
  rw [List.append_assoc, upToFault_append_of_sound sound,
    List.singleton_append, upToFault, if_pos failed]

theorem upToFault_eq (row : Row address buffer submissions final) :
    upToFault submissions = submissions := by
  cases failed : final.fails with
  | true =>
      have cut := row.upToFault_append_of_fails failed []
      rwa [List.append_nil] at cut
  | false => exact upToFault_eq_self (row.sound failed)

end Row

end Submission

open Submission

/-- A random access that is asked for. -/
structure Access where
  cycle : Cycle
  buffer : Array UInt16
  range : AddressRange

namespace Access

def call (access : Access) : Call :=
  .accessRandom access.cycle access.buffer access.range

/-- An engine takes the access on. -/
def Accepted (width : AddressWidth) (access : Access) : Prop :=
  Engine.checkRange width access.range access.buffer.size = .ok ()

end Access

namespace Engine

variable {σ γ : Type} [Transport σ] [RandomSource γ]

theorem Sliced.wordCount_nextSubmission {engine : Engine σ γ}
    {buffer : Array UInt16} {address remaining : Nat} {cycle : Cycle}
    (sliced : Sliced buffer address (engine.nextLength remaining)) :
    (engine.nextSubmission cycle buffer address remaining).request.wordCount =
      engine.nextLength remaining :=
  sliced.size_blockRequest _ cycle

namespace Course

variable {cycle : Cycle} {engine stopped : Engine σ γ}
  {buffer moved : Array UInt16} {address remaining : Nat}
  {submissions : List (Submission σ)} {final : Submission σ}
  {ended : Except ClockOverflow
    ((Array UInt16 × Except BusError Unit) × Engine σ γ)}

/-- An access submits the lengths that are drawn for its words, and draws no
more of them than it submits. -/
theorem lengths_prefix
    (course : Course cycle engine buffer address remaining submissions
      final ended) :
    lengths submissions <+:
      (RandomSource.blockLengths remaining engine.generator).1 ∧
      ∀ moved stopped, ended = .ok ((moved, .ok ()), stopped) →
        RandomSource.blockLengths remaining engine.generator =
          (lengths submissions, stopped.generator) := by
  induction course with
  | @last engine buffer address remaining ended sliced within ran whole =>
      have positive := sliced.positive
      rw [RandomSource.blockLengths_of_ne_zero (by omega), lengths,
        List.map_singleton, sliced.wordCount_nextSubmission]
      refine ⟨⟨_, rfl⟩, fun moved stopped completed => ?_⟩
      obtain ⟨_, step⟩ := moveBlock_eq_ok.mp (ran.trans completed)
      obtain ⟨_, _, rfl⟩ := step.frame
      -- The block with all words that are left draws the last length.
      have all : (RandomSource.blockLength remaining engine.generator).1.val =
          remaining :=
        whole _ _ completed
      rw [all, Nat.sub_self, RandomSource.blockLengths_zero, nextLength, all]
      rfl
  | @next engine middle buffer moved address remaining reply rest final
      ended sliced short step behind induction =>
      -- The block hands on the generator as its own draw left it, however it
      -- went.
      obtain ⟨_, _, rfl⟩ := step.frame
      obtain ⟨leading, completed⟩ := induction
      rw [RandomSource.blockLengths_of_ne_zero (by omega), lengths,
        List.map_cons, sliced.wordCount_nextSubmission]
      refine ⟨List.prefix_cons_inj _ |>.mpr leading,
        fun last stopped ending => ?_⟩
      have drawn := completed last stopped ending
      change RandomSource.blockLengths
        (remaining -
          (RandomSource.blockLength remaining engine.generator).1.val)
        (RandomSource.blockLength remaining engine.generator).2 = _ at drawn
      rw [drawn]
      rfl

/-- An access comes back just when its course does, in the state that it
reached. -/
theorem perform_eq {access : Access} (accepted : access.Accepted engine.width)
    (course : Course access.cycle engine access.buffer access.range.first
      access.range.wordCount submissions final ended) :
    access.call.perform engine = ended.map fun done =>
      (.accessed (done.1.1, done.1.2.map fun _ => submissions.length),
        done.2) := by
  change (Answer.accessed <$> accessRandom _ _ _) engine = _
  rw [map_eq_pure_bind]
  cases ended with
  | error overflow =>
      exact except_bind_eq_error.mpr (.inl (course.accessRandom_eq accepted))
  | ok done =>
      rw [Timed.bind_of_ok (course.accessRandom_eq accepted)]
      rfl

theorem width_eq {access : Access} {done : Array UInt16 × Except BusError Unit}
    (accepted : access.Accepted engine.width)
    (course : Course access.cycle engine access.buffer access.range.first
      access.range.wordCount submissions final (.ok (done, stopped))) :
    stopped.width = engine.width := by
  obtain ⟨_, _, _, rfl⟩ := accessRandom_frame (course.accessRandom_eq accepted)
  rfl

end Course

/-- What an engine submits for accesses one after the other, and how they end:
in a state of the engine, or with an overflow of the clock. -/
inductive Sends : Engine σ γ → List Access → List (Submission σ) →
    Except ClockOverflow (Engine σ γ) → Prop where
  | nil {engine : Engine σ γ} : Sends engine [] [] (.ok engine)
  | cons {engine middle : Engine σ γ} {access : Access} {others : List Access}
      {submissions rest : List (Submission σ)} {final : Submission σ}
      {moved : Array UInt16} {outcome : Except BusError Unit}
      {ended : Except ClockOverflow (Engine σ γ)}
      (course : Course access.cycle engine access.buffer access.range.first
        access.range.wordCount submissions final
          (.ok ((moved, outcome), middle)))
      (behind : Sends middle others rest ended) :
      Sends engine (access :: others) (submissions ++ rest) ended
  | overflown {engine : Engine σ γ} {access : Access} {others : List Access}
      {submissions : List (Submission σ)} {final : Submission σ}
      {overflow : ClockOverflow}
      (course : Course access.cycle engine access.buffer access.range.first
        access.range.wordCount submissions final (.error overflow)) :
      Sends engine (access :: others) submissions (.error overflow)

theorem exists_sends (engine : Engine σ γ) {accesses : List Access}
    (accepted : ∀ access ∈ accesses, access.Accepted engine.width) :
    ∃ sent ended, Sends engine accesses sent ended := by
  induction accesses generalizing engine with
  | nil => exact ⟨[], .ok engine, .nil⟩
  | cons access others induction =>
      obtain ⟨first, rest⟩ := List.forall_mem_cons.mp accepted
      obtain ⟨submissions, final, ended, course⟩ :=
        exists_course_of_accepted access.cycle first
      cases ended with
      | error overflow =>
          exact ⟨submissions, .error overflow, .overflown course⟩
      | ok done =>
          rw [← course.width_eq first] at rest
          obtain ⟨sent, last, behind⟩ := induction done.2 rest
          exact ⟨submissions ++ sent, last, .cons course behind⟩

namespace Sends

variable {engine stopped : Engine σ γ} {accesses : List Access}
  {sent : List (Submission σ)} {ended : Except ClockOverflow (Engine σ γ)}

/-- The calls of a session end as what they send does. -/
theorem session_eq (sends : Sends engine accesses sent ended)
    (accepted : ∀ access ∈ accesses, access.Accepted engine.width) :
    ∃ answers, Call.session (accesses.map Access.call) engine =
      ended.map fun stopped => (answers, stopped) := by
  induction sends with
  | nil => exact ⟨[], rfl⟩
  | @cons engine middle access others submissions rest final moved outcome
      ended course behind induction =>
      obtain ⟨first, later⟩ := List.forall_mem_cons.mp accepted
      rw [← course.width_eq first] at later
      obtain ⟨answers, ran⟩ := induction later
      change List.mapM Call.perform _ _ = _ at ran
      refine ⟨.accessed (moved, outcome.map fun _ => submissions.length) ::
        answers, ?_⟩
      rw [Call.session, List.map_cons, List.mapM_cons,
        Timed.bind_of_ok (course.perform_eq first)]
      cases ended with
      | error overflow => exact except_bind_eq_error.mpr (.inl ran)
      | ok stopped => exact Timed.bind_of_ok ran _
  | overflown course =>
      obtain ⟨first, _⟩ := List.forall_mem_cons.mp accepted
      refine ⟨[], ?_⟩
      rw [Call.session, List.map_cons, List.mapM_cons]
      exact except_bind_eq_error.mpr (.inl (course.perform_eq first))

theorem ended_eq {answers : List Answer}
    (sends : Sends engine accesses sent ended)
    (accepted : ∀ access ∈ accesses, access.Accepted engine.width)
    (ran : Call.session (accesses.map Access.call) engine =
      .ok (answers, stopped)) :
    ended = .ok stopped := by
  obtain ⟨answers, same⟩ := sends.session_eq accepted
  rw [ran] at same
  cases ended with
  | error overflow => cases same
  | ok reached =>
      cases same
      rfl

theorem recorded {α : Type} {entry : Request → α} {record : σ → List α}
    (recording : Transport.Recording entry record)
    (sends : Sends engine accesses sent ended)
    (completed : ended = .ok stopped) :
    record stopped.transport = record engine.transport ++
      sent.map fun submission => entry submission.request := by
  induction sends with
  | nil =>
      cases completed
      exact (List.append_nil _).symm
  | cons course behind induction =>
      rw [induction completed, (course.recorded recording).2 _ _ rfl,
        List.map_append, List.append_assoc]
  | overflown => cases completed

/-- Up to the first block that fails, the lengths are those that the generator
has in store. -/
theorem lengths_prefix (sends : Sends engine accesses sent ended) :
    lengths (upToFault sent) <+: RandomSource.allBlockLengths
      (accesses.map fun access => access.range.wordCount) engine.generator := by
  induction sends with
  | nil => exact List.prefix_rfl
  | @cons engine middle access others submissions rest final moved outcome
      ended course behind induction =>
      obtain ⟨leading, drawn⟩ := course.lengths_prefix
      have answered := (course.final_answered.2 moved outcome middle rfl).1
      cases outcome with
      | error fault =>
          rw [course.row.upToFault_append_of_fails answered.fails_eq_true]
          exact leading.trans (List.prefix_append _ _)
      | ok _ =>
          rw [upToFault_append_of_sound
            (course.row.sound answered.fails_eq_false), lengths,
            List.map_append, List.map_cons, RandomSource.allBlockLengths,
            drawn moved middle rfl]
          exact (List.prefix_append_right_inj _).mpr induction
  | overflown course =>
      rw [course.row.upToFault_eq]
      exact course.lengths_prefix.1.trans (List.prefix_append _ _)

/-- Accesses that come back, and no block of which fails, use up what the
generator has in store for them. -/
theorem lengths_eq (sends : Sends engine accesses sent ended)
    (completed : ended = .ok stopped)
    (sound : ∀ submission ∈ sent, submission.fails = false) :
    lengths sent = RandomSource.allBlockLengths
      (accesses.map fun access => access.range.wordCount) engine.generator := by
  induction sends with
  | nil => rfl
  | @cons engine middle access others submissions rest final moved outcome
      ended course behind induction =>
      obtain ⟨soundFirst, soundRest⟩ := List.forall_mem_append.mp sound
      have answered := (course.final_answered.2 moved outcome middle rfl).1
      cases outcome with
      | error fault =>
          have passed := soundFirst final course.row.final_mem
          cases passed.symm.trans answered.fails_eq_true
      | ok _ =>
          rw [lengths, List.map_append, List.map_cons,
            RandomSource.allBlockLengths,
            course.lengths_prefix.2 moved middle rfl]
          exact congrArg (lengths submissions ++ ·)
            (induction completed soundRest)
  | overflown => cases completed

end Sends

/-! ## What the transport tells -/

/-- The submissions of one access: without a gap through its range, each cut out
of the buffer where its address says, and each behind those before it in every
record. -/
structure Covers (engine : Engine σ γ) (access : Access)
    (submissions : List (Submission σ)) (final : Submission σ) : Prop where
  row : Submission.Row access.range.first access.buffer submissions final
  cut : ∀ submission ∈ submissions,
    submission.CutFrom engine.config.slot access.cycle access.range
      access.buffer.size
  recorded : ∀ (α : Type) (entry : Request → α) (record : σ → List α),
    Transport.Recording entry record →
      Submission.Recorded entry record (record engine.transport) submissions

theorem Course.covers {access : Access} {engine : Engine σ γ}
    {submissions : List (Submission σ)} {final : Submission σ}
    {ended : Except ClockOverflow
      ((Array UInt16 × Except BusError Unit) × Engine σ γ)}
    (accepted : access.Accepted engine.width)
    (course : Course access.cycle engine access.buffer access.range.first
      access.range.wordCount submissions final ended) :
    Covers engine access submissions final where
  row := course.row
  cut := course.cutFrom (Nat.le_refl _)
    (AddressRange.first_add_wordCount (checkRange_eq_ok.mp accepted).1)
  recorded _ _ _ recording := (course.recorded recording).1

/-- What an engine submits for accesses one after the other, told by how each
access ran and by what every record of the transport holds of it. -/
inductive Submits : Engine σ γ → List Access → List (Submission σ) → Prop where
  | nil {engine : Engine σ γ} : Submits engine [] []
  | cons {engine middle : Engine σ γ} {access : Access} {others : List Access}
      {submissions rest : List (Submission σ)} {final : Submission σ}
      {moved : Array UInt16} {outcome : Except BusError Unit}
      (ran : accessRandom access.cycle access.buffer access.range engine =
        .ok ((moved, outcome.map fun _ => submissions.length), middle))
      (covers : Covers engine access submissions final)
      (answered : final.Answered moved outcome)
      (reached : outcome = .ok () →
        final.request.lastAddress = access.range.last)
      (recorded : ∀ (α : Type) (entry : Request → α) (record : σ → List α),
        Transport.Recording entry record →
          record middle.transport = record engine.transport ++
            submissions.map fun submission => entry submission.request)
      (behind : Submits middle others rest) :
      Submits engine (access :: others) (submissions ++ rest)
  /-- The clock overflows in the last request or behind it. -/
  | overflown {engine : Engine σ γ} {access : Access} {others : List Access}
      {submissions : List (Submission σ)} {final : Submission σ}
      {overflow : ClockOverflow}
      (ran : accessRandom access.cycle access.buffer access.range engine =
        .error overflow)
      (covers : Covers engine access submissions final)
      (answered : ∀ fault after, final.answer ≠ .ok (.error fault, after)) :
      Submits engine (access :: others) submissions

/-- The accesses as the calls of a session: it adds just what was submitted to
every record, unless the clock overflows. -/
def SessionRecords (engine : Engine σ γ) (accesses : List Access)
    (sent : List (Submission σ)) : Prop :=
  (∃ overflow,
    Call.session (accesses.map Access.call) engine = .error overflow) ∨
    ∃ answers stopped,
      Call.session (accesses.map Access.call) engine = .ok (answers, stopped) ∧
      ∀ (α : Type) (entry : Request → α) (record : σ → List α),
        Transport.Recording entry record →
          record stopped.transport = record engine.transport ++
            sent.map fun submission => entry submission.request

section Told

variable {engine stopped : Engine σ γ} {accesses : List Access}
  {sent : List (Submission σ)} {ended : Except ClockOverflow (Engine σ γ)}

theorem Sends.submits (sends : Sends engine accesses sent ended)
    (accepted : ∀ access ∈ accesses, access.Accepted engine.width) :
    Submits engine accesses sent := by
  induction sends with
  | nil => exact .nil
  | @cons engine middle access others submissions rest final moved outcome
      ended course behind induction =>
      obtain ⟨first, later⟩ := List.forall_mem_cons.mp accepted
      obtain ⟨answered, reached⟩ :=
        course.final_answered.2 moved outcome middle rfl
      have ends := AddressRange.first_add_wordCount
        (checkRange_eq_ok.mp first).1
      rw [← course.width_eq first] at later
      refine .cons (course.accessRandom_eq first) (course.covers first) answered
        (fun completed => ?_)
        (fun _ _ _ recording => (course.recorded recording).2 _ _ rfl)
        (induction later)
      have last := reached completed
      omega
  | overflown course =>
      obtain ⟨first, _⟩ := List.forall_mem_cons.mp accepted
      exact .overflown (course.accessRandom_eq first) (course.covers first)
        (course.final_answered.1 _ rfl)

theorem Sends.sessionRecords (sends : Sends engine accesses sent ended)
    (accepted : ∀ access ∈ accesses, access.Accepted engine.width) :
    SessionRecords engine accesses sent := by
  obtain ⟨answers, ran⟩ := sends.session_eq accepted
  cases ended with
  | error overflow => exact .inl ⟨overflow, ran⟩
  | ok stopped =>
      exact .inr ⟨answers, stopped, ran, fun _ _ _ recording =>
        sends.recorded recording rfl⟩

theorem SessionRecords.recorded {answers : List Answer} {α : Type}
    {entry : Request → α} {record : σ → List α}
    (records : SessionRecords engine accesses sent)
    (recording : Transport.Recording entry record)
    (ran : Call.session (accesses.map Access.call) engine =
      .ok (answers, stopped)) :
    record stopped.transport = record engine.transport ++
      sent.map fun submission => entry submission.request := by
  obtain ⟨overflow, failed⟩ | ⟨_, _, completed, recorded⟩ := records
  · cases ran.symm.trans failed
  · cases ran.symm.trans completed
    exact recorded α entry record recording

/-- Where no access brings back a fault, no block failed. -/
theorem Submits.sound {answers : List Answer}
    (submits : Submits engine accesses sent)
    (ran : Call.session (accesses.map Access.call) engine =
      .ok (answers, stopped))
    (faultless : ∀ answer ∈ answers, answer.fault? = none) :
    ∀ submission ∈ sent, submission.fails = false := by
  induction submits generalizing answers with
  | nil => exact List.forall_mem_nil _
  | @cons engine middle access others submissions rest final moved
      outcome first covers answered reached recorded behind induction =>
      obtain ⟨answer, _, later, performed, ranLater, rfl⟩ :=
        Timed.mapM_cons_eq_ok.mp ran
      obtain ⟨here, after⟩ := List.forall_mem_cons.mp faultless
      obtain ⟨_, accessed, rfl⟩ := Timed.map_eq_ok.mp performed
      cases first.symm.trans accessed
      cases outcome with
      | error fault => cases here
      | ok _ =>
          exact List.forall_mem_append.mpr
            ⟨covers.row.sound answered.fails_eq_false, induction ranLater after⟩
  | overflown first =>
      obtain ⟨_, _, _, performed, _⟩ := Timed.mapM_cons_eq_ok.mp ran
      obtain ⟨_, accessed, _⟩ := Timed.map_eq_ok.mp performed
      cases first.symm.trans accessed

end Told

end Engine

open Engine

theorem Engine.new_of_seed {σ : Type} [Transport σ] {transport : σ}
    {width : AddressWidth} {config : Config} {entropy seed : UInt64}
    {engine : Engine σ ChaCha}
    (opened : Engine.new transport width config entropy = .ok engine)
    (seeded : config.seed? = some seed) :
    engine.width = width ∧ engine.generator = ChaCha.ofSeed seed := by
  obtain ⟨_, rfl⟩ := new_eq_ok.mp opened
  refine ⟨rfl, ?_⟩
  simp only [seeded, Option.getD_some]

/-- Two engines of one seed, on transports of any kind, submit the same block
lengths for accesses of the same word counts: just the same where both sessions
come back and no block fails, and otherwise the one of them up to its first
block that fails no others than the other. -/
theorem block_lengths_agree {σ τ : Type} [Transport σ] [Transport τ]
    {transport : σ} {otherTransport : τ} {width otherWidth : AddressWidth}
    {config otherConfig : Config} {entropy otherEntropy seed : UInt64}
    {engine : Engine σ ChaCha} {other : Engine τ ChaCha}
    {accesses otherAccesses : List Access}
    (opened : Engine.new transport width config entropy = .ok engine)
    (otherOpened :
      Engine.new otherTransport otherWidth otherConfig otherEntropy = .ok other)
    (seeded : config.seed? = some seed)
    (otherSeeded : otherConfig.seed? = some seed)
    (accepted : ∀ access ∈ accesses, access.Accepted width)
    (otherAccepted : ∀ access ∈ otherAccesses, access.Accepted otherWidth)
    (same : accesses.map (fun access => access.range.wordCount) =
      otherAccesses.map fun access => access.range.wordCount) :
    ∃ sent otherSent,
      Submits engine accesses sent ∧ SessionRecords engine accesses sent ∧
      Submits other otherAccesses otherSent ∧
      SessionRecords other otherAccesses otherSent ∧
      (lengths (upToFault sent) <+: lengths (upToFault otherSent) ∨
        lengths (upToFault otherSent) <+: lengths (upToFault sent)) ∧
      ∀ answers stopped otherAnswers otherStopped,
        Call.session (accesses.map Access.call) engine =
          .ok (answers, stopped) →
        Call.session (otherAccesses.map Access.call) other =
          .ok (otherAnswers, otherStopped) →
        (∀ submission ∈ sent, submission.fails = false) →
        (∀ submission ∈ otherSent, submission.fails = false) →
        lengths sent = lengths otherSent := by
  obtain ⟨rfl, generator⟩ := Engine.new_of_seed opened seeded
  obtain ⟨rfl, otherGenerator⟩ := Engine.new_of_seed otherOpened otherSeeded
  obtain ⟨sent, ended, sends⟩ := exists_sends engine accepted
  obtain ⟨otherSent, otherEnded, otherSends⟩ := exists_sends other otherAccepted
  -- Both engines have the same lengths in store.
  have leading := sends.lengths_prefix
  have otherLeading := otherSends.lengths_prefix
  rw [generator, same] at leading
  rw [otherGenerator] at otherLeading
  refine ⟨sent, otherSent, sends.submits accepted,
    sends.sessionRecords accepted, otherSends.submits otherAccepted,
    otherSends.sessionRecords otherAccepted,
    List.prefix_or_prefix_of_prefix leading otherLeading, ?_⟩
  intro answers stopped otherAnswers otherStopped ran otherRan sound otherSound
  have all := sends.lengths_eq (sends.ended_eq accepted ran) sound
  have otherAll :=
    otherSends.lengths_eq (otherSends.ended_eq otherAccepted otherRan)
      otherSound
  rw [all, otherAll, generator, otherGenerator, same]

end Dma

/-- The record of how many requests were handed to a scripted bus. -/
theorem ScriptedBus.recording :
    Transport.Recording (fun _ => ())
      (fun bus : ScriptedBus => List.replicate bus.submits ()) where
  submit := by
    intro request before result after submitted
    obtain ⟨_, _, _, rfl⟩ | ⟨_, _, _, rfl⟩ :=
      ScriptedBus.transport_submit_eq_ok.mp submitted
    · exact List.replicate_succ'
    · exact List.replicate_succ'
  sleep := by
    intro duration before after slept
    obtain ⟨_, rfl⟩ := ScriptedBus.sleep_eq_ok.mp slept
    rfl
  note _ _ := rfl

namespace Dma

open Engine Submission

/-- A bus with room for five words. -/
def roomyBus : SimulatedBus where
  board := MemoryBoard.empty.install 64

def roomyEngine : Engine SimulatedBus ChaCha where
  transport := Transport.note (.engineOpened 31 50 .software) roomyBus
  width := .bits16
  config := { seed? := some 7 }
  generator := ChaCha.ofSeed 7

def fiveWritten : List Access :=
  [⟨.dataOut, #[1, 2, 3, 4, 5], ⟨0, 8⟩⟩]

/-- A slow bus, where a line is shorted. -/
def slowBus : SimulatedBus where
  board := { (MemoryBoard.empty.install 256) with stuckLine? := some 6 }
  wordTime := Duration.micros 50

def slowEngine : Engine SimulatedBus ChaCha where
  transport := Transport.note (.engineOpened 2 100 .software) slowBus
  width := .bits22
  config := { slot := 2, bandwidth := 100, seed? := some 7 }
  generator := ChaCha.ofSeed 7

def fiveRead : List Access :=
  [⟨.dataIn, #[0, 0, 0, 0, 0, 0, 0, 0, 0], ⟨8, 16⟩⟩]

/-- A bus that breaks off the second request. -/
def severedBus : ScriptedBus where
  inner := { board := MemoryBoard.empty.install 32 }
  script :=
    { onSubmit := fun number =>
        if number = 1 then { failure? := some "mailbox closed" } else {} }

def severedEngine : Engine ScriptedBus ChaCha where
  transport := Transport.note (.engineOpened 4 50 .software) severedBus
  width := .bits18
  config := { slot := 4, seed? := some 7 }
  generator := ChaCha.ofSeed 7

/-- Five words are written in four blocks, and reading as many on a slow bus
takes the same four.  On a bus that breaks off the second request it starts out
alike. -/
theorem block_lengths_agree_on_severedBus :
    Engine.new roomyBus .bits16 { seed? := some 7 } 0 = .ok roomyEngine ∧
    Engine.new slowBus .bits22
      { slot := 2, bandwidth := 100, seed? := some 7 } 1 =
      .ok slowEngine ∧
    Engine.new severedBus .bits18 { slot := 4, seed? := some 7 } 9 =
      .ok severedEngine ∧
    (∃ answers stopped sent otherAnswers otherStopped otherSent,
      Call.session (fiveWritten.map Access.call) roomyEngine =
        .ok (answers, stopped) ∧
      stopped.transport.requests.toList.map LoggedRequest.words = [1, 1, 1, 2] ∧
      Submits roomyEngine fiveWritten sent ∧ lengths sent = [1, 1, 1, 2] ∧
      Call.session (fiveRead.map Access.call) slowEngine =
        .ok (otherAnswers, otherStopped) ∧
      otherStopped.transport.requests.toList.map LoggedRequest.words =
        [1, 1, 1, 2] ∧
      Submits slowEngine fiveRead otherSent ∧
      lengths sent = lengths otherSent) ∧
    ∃ sent otherAnswers otherStopped otherSent,
      Submits roomyEngine fiveWritten sent ∧
      Call.session (fiveRead.map Access.call) severedEngine =
        .ok (otherAnswers, otherStopped) ∧
      otherStopped.transport.inner.requests.toList.map
        LoggedRequest.words = [1] ∧
      Submits severedEngine fiveRead otherSent ∧ otherSent.length = 2 ∧
      (lengths (upToFault sent) <+: lengths (upToFault otherSent) ∨
        lengths (upToFault otherSent) <+: lengths (upToFault sent)) := by
  have accepted {width : AddressWidth} :
      ∀ access ∈ fiveWritten, access.Accepted width :=
    List.forall_mem_singleton.mpr
      (checkRange_eq_ok.mpr (by cases width <;> decide))
  have otherAccepted {width : AddressWidth} :
      ∀ access ∈ fiveRead, access.Accepted width :=
    List.forall_mem_singleton.mpr
      (checkRange_eq_ok.mpr (by cases width <;> decide))
  have opened : Engine.new roomyBus .bits16 { seed? := some 7 } 0 =
      .ok roomyEngine := rfl
  have slowOpened : Engine.new slowBus .bits22
      { slot := 2, bandwidth := 100, seed? := some 7 } 1 = .ok slowEngine := rfl
  have severedOpened : Engine.new severedBus .bits18
      { slot := 4, seed? := some 7 } 9 = .ok severedEngine := rfl
  refine ⟨opened, slowOpened, severedOpened, ?_, ?_⟩
  · obtain ⟨sent, otherSent, submits, records, otherSubmits, _, _, agree⟩ :=
      block_lengths_agree opened slowOpened rfl rfl accepted otherAccepted rfl
    obtain ⟨⟨answers, stopped⟩, ran, observed⟩ := exists_of_observed
      (by decide +kernel :
        (Call.session (fiveWritten.map Access.call) roomyEngine).toOption.map
          (fun reached => (reached.1.all fun answer => answer.fault?.isNone,
            reached.2.transport.requests.toList.map LoggedRequest.words)) =
              some (true, [1, 1, 1, 2]))
    obtain ⟨⟨otherAnswers, otherStopped⟩, otherRan, otherObserved⟩ :=
      exists_of_observed (by decide +kernel :
        (Call.session (fiveRead.map Access.call) slowEngine).toOption.map
          (fun reached => (reached.1.all fun answer => answer.fault?.isNone,
            reached.2.transport.requests.toList.map LoggedRequest.words)) =
              some (true, [1, 1, 1, 2]))
    obtain ⟨faultless, counts⟩ := Prod.mk.inj observed
    obtain ⟨otherFaultless, otherCounts⟩ := Prod.mk.inj otherObserved
    have sound := submits.sound ran fun answer member =>
      Option.isNone_iff_eq_none.mp (List.all_eq_true.mp faultless answer member)
    have otherSound := otherSubmits.sound otherRan fun answer member =>
      Option.isNone_iff_eq_none.mp
        (List.all_eq_true.mp otherFaultless answer member)
    have recorded := congrArg (List.map fun entry => entry.2.2.2)
      (records.recorded SimulatedBus.recording ran)
    simp only [List.map_append, List.map_map] at recorded
    exact ⟨answers, stopped, sent, otherAnswers, otherStopped,
      otherSent, ran, counts, submits, recorded.symm.trans counts, otherRan,
      otherCounts, otherSubmits,
      agree _ _ _ _ ran otherRan sound otherSound⟩
  · obtain ⟨sent, otherSent, submits, _, otherSubmits,
        otherRecords, agree, _⟩ :=
      block_lengths_agree opened severedOpened rfl rfl accepted
        otherAccepted rfl
    obtain ⟨⟨otherAnswers, otherStopped⟩, otherRan, otherObserved⟩ :=
      exists_of_observed (by decide +kernel :
        (Call.session (fiveRead.map Access.call) severedEngine).toOption.map
          (fun reached => (reached.2.transport.submits,
            reached.2.transport.inner.requests.toList.map
            LoggedRequest.words)) = some (2, [1]))
    obtain ⟨count, counts⟩ := Prod.mk.inj otherObserved
    have recorded := congrArg List.length
      (otherRecords.recorded ScriptedBus.recording otherRan)
    rw [List.length_replicate, List.length_append, List.length_map] at recorded
    have length : otherSent.length = 2 := by
      rw [← count, recorded]
      exact (Nat.zero_add _).symm
    exact ⟨sent, otherAnswers, otherStopped, otherSent, submits,
      otherRan, counts, otherSubmits, length, agree⟩

end Dma

end Backplane
