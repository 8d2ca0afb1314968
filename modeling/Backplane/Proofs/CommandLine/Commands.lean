import Backplane.CommandLine.Session
import Backplane.Proofs.Bus.Session
import Backplane.Proofs.Exerciser.BlockCounters
import Backplane.Proofs.Exerciser.Cancellation
import Backplane.Proofs.Exerciser.Sizing
import Backplane.Proofs.Power.Simulated
import Backplane.Proofs.Text.Operand

/-!
# Commands on a new bus

What becomes of each command on a bus that was just opened.  Its memory is
healthy, its clock is at zero and its jumpers are open, so a command fails only
for its operands: an address that cannot be read, or a range that is not
well-formed.
-/

namespace Backplane.CommandLine

open Dma

/-! ## Jobs -/

section Jobs

variable {α β : Type} {bus next : Bus SimulatedBus}

theorem onBus_run {operation : Op (Bus SimulatedBus) α}
    {result : Except BusError α}
    (ran : operation.run bus = .ok (result, next)) :
    (onBus operation).run bus = .ok (result.mapError Failure.bus, next) :=
  Timed.map_eq_ok.mpr ⟨result, ran, rfl⟩

theorem onBus_bind_of_overflow {operation : Op (Bus SimulatedBus) α}
    {overflow : ClockOverflow} (ran : operation.run bus = .error overflow)
    (rest : α → Job β) :
    (onBus operation >>= rest).run bus = .error overflow := by
  have adapted : (onBus operation).run bus = .error overflow := by
    change (operation.run bus >>= fun reached =>
      Except.ok (reached.1.mapError Failure.bus, reached.2)) = _
    rw [ran]
    rfl
  change ((onBus operation).run bus >>= fun reached => _) = _
  rw [adapted]
  rfl

/-- A job that comes to its output. -/
def Completes (job : Job String) (bus : Bus SimulatedBus) : Prop :=
  ∃ output stopped, job.run bus = .ok (.ok output, stopped)

def Fails (job : Job β) (bus : Bus SimulatedBus) (failure : Failure) : Prop :=
  ∃ stopped, job.run bus = .ok (.error failure, stopped)

theorem onBus_bind_of_ok {operation : Op (Bus SimulatedBus) α} {value : α}
    (ran : operation.run bus = .ok (.ok value, next)) (rest : α → Job β) :
    (onBus operation >>= rest).run bus = (rest value).run next := by
  rw [ExceptT.run_bind, Timed.bind_of_ok (onBus_run ran)]
  rfl

theorem Completes.output (text : String) (bus : Bus SimulatedBus) :
    Completes (pure text) bus :=
  ⟨text, bus, rfl⟩

theorem Completes.onBus {operation : Op (Bus SimulatedBus) α} {value : α}
    {rest : α → Job String} (ran : operation.run bus = .ok (.ok value, next))
    (completes : Completes (rest value) next) :
    Completes (CommandLine.onBus operation >>= rest) bus := by
  obtain ⟨text, stopped, rested⟩ := completes
  exact ⟨text, stopped, (onBus_bind_of_ok ran rest).trans rested⟩

theorem Fails.onBus {operation : Op (Bus SimulatedBus) α} {value : α}
    {rest : α → Job β} {failure : Failure}
    (ran : operation.run bus = .ok (.ok value, next))
    (fails : Fails (rest value) next failure) :
    Fails (CommandLine.onBus operation >>= rest) bus failure := by
  obtain ⟨stopped, rested⟩ := fails
  exact ⟨stopped, (onBus_bind_of_ok ran rest).trans rested⟩

theorem Fails.of_onBus {operation : Op (Bus SimulatedBus) α} {fault : BusError}
    (ran : operation.run bus = .ok (.error fault, next)) (rest : α → Job β) :
    Fails (CommandLine.onBus operation >>= rest) bus (.bus fault) := by
  refine ⟨next, ?_⟩
  rw [ExceptT.run_bind, Timed.bind_of_ok (onBus_run ran)]
  rfl

theorem operand_bind_of_ok {read : Except ParseError α} {value : α}
    (accepted : read = .ok value) (rest : α → Job β) :
    operand read >>= rest = rest value := by
  subst accepted
  rfl

theorem Fails.of_operand {read : Except ParseError α} {fault : ParseError}
    (refused : read = .error fault) (rest : α → Job β)
    (bus : Bus SimulatedBus) :
    Fails (operand read >>= rest) bus (.operand fault) := by
  subst refused
  exact ⟨bus, rfl⟩

end Jobs

/-! ## A new bus -/

/-- What is chosen when a bus is opened. -/
structure Opened where
  family : Family
  /-- Installed memory in kilowords. -/
  memory : Nat
  config : Config
  valid : config.validate = .ok ()
  width : AddressWidth
  /-- The events while the bus was opened. -/
  journal : Array Event

namespace Opened

/-- The bus that was opened, before anything happened on it. -/
def bus (opened : Opened) : Bus SimulatedBus where
  transport :=
    { board := MemoryBoard.empty.install (opened.memory * 2048),
      journal := opened.journal }
  space := ⟨opened.family, some opened.width⟩
  config := opened.config

/-- The first engine on the bus. -/
def engine (opened : Opened) (entropy : UInt64) :
    Engine SimulatedBus ChaCha where
  transport := Transport.note
    (.engineOpened opened.config.slot opened.config.bandwidth .software)
    opened.bus.transport
  width := opened.width
  config := opened.config
  generator := ChaCha.ofSeed (opened.config.seed?.getD entropy)

variable (opened : Opened) (entropy : UInt64)

theorem width_run : (Bus.width : Op (Bus SimulatedBus) AddressWidth).run
    opened.bus = .ok (.ok opened.width, opened.bus) := rfl

theorem engine_opened :
    Engine.new opened.bus.transport opened.width opened.bus.config entropy =
      .ok (opened.engine entropy) :=
  Engine.new_eq_ok.mpr ⟨opened.valid, rfl⟩

theorem healthy : (opened.engine entropy).transport.board.Healthy where
  line := rfl
  bits := fun address => by
    change (∅ : Std.HashMap Nat UInt16).getD (address / 2) 0 = 0
    exact Std.HashMap.getD_empty

theorem size_cells_le_iff {last : Nat} :
    (opened.engine entropy).transport.board.cells.size ≤ last / 2 ↔
      opened.memory * 2048 ≤ last := by
  change (Array.replicate (opened.memory * 2048 / 2) (0 : UInt16)).size ≤ _ ↔ _
  rw [Array.size_replicate]
  omega

variable {opened entropy}

/-- The clock of a new engine affords bus cycles by the sextillion. -/
theorem affords {cycles : Nat} (fits : cycles * 100000 < Duration.limit) :
    (opened.engine entropy).Affords cycles := by
  have elapsed : (opened.engine entropy).transport.elapsedFor cycles =
      1000 * cycles := rfl
  have idle : (opened.engine entropy).idleFor cycles ≤ 99000 * cycles := by
    have scaled := Nat.div_le_self (1000 * cycles * 100) opened.config.bandwidth
    rw [Engine.idleFor, elapsed, Engine.idleAfter]
    split
    · change 1000 * cycles * 100 / opened.config.bandwidth - _ ≤ _
      omega
    · exact Nat.zero_le _
  have cycleTime : (opened.engine entropy).transport.wordTime * cycles =
      1000 * cycles := rfl
  have clock : (opened.engine entropy).transport.clock = 0 := rfl
  have throttled : (opened.engine entropy).stats.throttled = 0 := rfl
  refine ⟨⟨?_, fun _ => ?_⟩, fun _ => ?_, fun _ => ⟨?_, ?_⟩⟩ <;> omega

/-- An operation on the control lines runs on the transport of the bus. -/
theorem gated_run {α : Type} (operation : Family → Op SimulatedBus α)
    {value : α} {transport : SimulatedBus}
    (ran : (operation opened.family).run opened.bus.transport =
      .ok (.ok value, transport)) :
    (do
      let _ ← Bus.width
      let family := (← get).space.family
      Bus.lift (operation family) : Op (Bus SimulatedBus) α).run opened.bus =
        .ok (.ok value, { opened.bus with transport := transport }) :=
  (Bus.gated_lift_eq_ok operation rfl).mpr ⟨transport, ran, rfl⟩

/-- An exerciser runs on the first engine, and leaves the bus with its
transport. -/
theorem exercise_run {range : AddressRange} {mode : Exerciser.Mode}
    {cancelAfter : Nat} :
    (exercise entropy range mode cancelAfter).run opened.bus =
      (Exerciser.run range mode cancelAfter (opened.engine entropy) >>=
        fun reached =>
        .ok (reached.1.map fun report => (report, reached.2.stats),
          { opened.bus with transport := reached.2.transport })) := by
  rw [exercise, Bus.withEngine_of_opened rfl (opened.engine_opened entropy)]
  cases ran : Exerciser.run range mode cancelAfter (opened.engine entropy) with
  | error overflow =>
      change (Exerciser.run range mode cancelAfter (opened.engine entropy) >>=
        fun _ => _) >>= (fun _ => _) = _
      rw [ran]
      rfl
  | ok reached =>
      obtain ⟨result, stopped⟩ := reached
      rw [Timed.bind_of_ok ran]
      cases result <;> rfl

end Opened

section Commands

variable {opened : Opened} {entropy : UInt64} {inTime : Nat}

/-! ## Commands without operands -/

theorem size_completes :
    Completes (perform entropy inTime .size) opened.bus := by
  have fits : Engine.accessCycles
      (Exerciser.probedRange opened.width) * 100000 <
      Duration.limit := by
    cases opened.width <;> decide
  obtain ⟨result, sized, probed⟩ :=
    Exerciser.exists_probeSize
      (Opened.affords fits : (opened.engine entropy).Affords _)
  obtain ⟨rfl, _, _⟩ := Exerciser.probeSize_eq_ok probed
  obtain ⟨size, next, ran⟩ : ∃ size next,
      (Bus.withEngine entropy Exerciser.probeSize).run
        opened.bus = .ok (.ok size, next) := by
    rw [Bus.withEngine_of_opened rfl (opened.engine_opened entropy), probed]
    exact ⟨_, _, rfl⟩
  rw [perform]
  exact .onBus opened.width_run (.onBus ran (.output _ _))

theorem cycleTime_lt (family : Family) :
    0 + (totalWait family.powerDown + totalWait family.powerUp) <
      Duration.limit := by
  cases family <;> decide

theorem powerCycle_completes :
    Completes (perform entropy inTime .powerCycle) opened.bus := by
  obtain ⟨_, transport, cycled, _⟩ :=
    @SimulatedBus.powerCycle_takes opened.family opened.bus.transport
      (cycleTime_lt _)
  rw [perform]
  exact .onBus (Opened.gated_run PowerSequence.powerCycle cycled) (.output _ _)

theorem init_completes :
    Completes (perform entropy inTime .init) opened.bus := by
  have pulseTime : 0 + opened.family.initPulse < Duration.limit := by
    cases opened.family <;> decide
  obtain ⟨_, transport, pulsed, _⟩ :=
    @SimulatedBus.pulseInit_takes opened.family opened.bus.transport pulseTime
  rw [perform]
  exact .onBus (Opened.gated_run PowerSequence.pulseInit pulsed) (.output _ _)

theorem probeArbitration_completes (refuseClosed : Bool) :
    Completes (perform entropy inTime (.probeArbitration refuseClosed))
      opened.bus := by
  obtain ⟨mask, transport, probed⟩ :=
    @SimulatedBus.exists_probeJumpers opened.family
      refuseClosed opened.bus.transport rfl (cycleTime_lt _)
  rw [perform]
  exact .onBus (Opened.gated_run (probeJumpers · refuseClosed) probed)
    (.output _ _)

/-! ## Commands with addresses -/

section Format

variable {addressText : String}

theorem format_completes {address : Nat}
    (read : opened.width.readAddress addressText = .ok address) :
    Completes (perform entropy inTime (.format addressText)) opened.bus := by
  rw [perform]
  refine .onBus opened.width_run ?_
  rw [operand_bind_of_ok read]
  exact .output _ _

theorem format_fails {fault : ParseError}
    (unread : opened.width.readAddress addressText = .error fault) :
    Fails (perform entropy inTime (.format addressText)) opened.bus
      (.operand fault) := by
  rw [perform]
  exact .onBus opened.width_run (.of_operand unread _ _)

end Format

section Exercise

variable {firstText lastText : String} {mode : Exerciser.Mode}
  {seconds? : Option Nat} {first last : Nat}

/-- The range between two operands. -/
def readRange (width : AddressWidth) (firstText lastText : String) :
    Except Failure AddressRange := do
  let first ← (width.readAddress firstText).mapError Failure.operand
  let last ← (width.readAddress lastText).mapError Failure.operand
  if first % 2 = 1 ∨ last % 2 = 1 ∨ last < first then
    .error (.bus (.invalidRequest (.badExerciseRange first last)))
  else
    .ok ⟨first, last⟩

theorem readRange_eq_ok {width : AddressWidth} {range : AddressRange} :
    readRange width firstText lastText = .ok range ↔
      width.readAddress firstText = .ok range.first ∧
        width.readAddress lastText = .ok range.last ∧
        range.isWellFormed = true := by
  constructor
  · intro read
    obtain ⟨first, readFirst, read⟩ := except_bind_eq_ok.mp read
    obtain ⟨last, readLast, read⟩ := except_bind_eq_ok.mp read
    split at read
    · cases read
    · rename_i wellFormed
      cases read
      rw [← AddressRange.isWellFormed_eq_false_iff, Bool.not_eq_false]
        at wellFormed
      exact ⟨except_mapError_eq_ok.mp readFirst,
        except_mapError_eq_ok.mp readLast, wellFormed⟩
  · rintro ⟨readFirst, readLast, wellFormed⟩
    rw [readRange, readFirst, readLast]
    refine if_neg ?_
    rw [← AddressRange.isWellFormed_eq_false_iff, Bool.not_eq_false]
    exact wellFormed

/-- The space check of an operand is the one of the exerciser. -/
theorem checkRange_of_readRange {width : AddressWidth} {range : AddressRange}
    (read : readRange width firstText lastText = .ok range) :
    Exerciser.checkRange width range = .ok () := by
  obtain ⟨_, readLast, wellFormed⟩ := readRange_eq_ok.mp read
  exact Exerciser.checkRange_eq_ok.mpr
    ⟨wellFormed, (AddressWidth.readAddress_eq_ok.mp readLast).2⟩

theorem exercise_run_of_malformed
    (malformed : AddressRange.isWellFormed ⟨first, last⟩ = false)
    (cancelAfter : Nat) :
    (exercise entropy ⟨first, last⟩ mode cancelAfter).run opened.bus =
      .ok (.error (.invalidRequest (.badExerciseRange first last)),
        { opened.bus with
          transport := (opened.engine entropy).transport }) := by
  have refused : Exerciser.checkRange (opened.engine entropy).width
      ⟨first, last⟩ =
      .error (.invalidRequest (.badExerciseRange first last)) := by
    rw [Exerciser.checkRange, malformed]
    rfl
  rw [Opened.exercise_run, Exerciser.run_of_refused refused]
  rfl

/-- An exerciser fails for the operands of its range and for nothing else. -/
theorem exercise_fails {failure : Failure}
    (refused : readRange opened.width firstText lastText = .error failure) :
    Fails (perform entropy inTime (.exercise firstText lastText mode seconds?))
      opened.bus failure := by
  rw [perform]
  refine .onBus opened.width_run ?_
  cases readFirst : opened.width.readAddress firstText with
  | error fault =>
      rw [readRange, readFirst] at refused
      cases refused
      exact .of_operand rfl _ _
  | ok first =>
      rw [operand_bind_of_ok rfl]
      cases readLast : opened.width.readAddress lastText with
      | error fault =>
          rw [readRange, readFirst, readLast] at refused
          cases refused
          exact .of_operand rfl _ _
      | ok last =>
          rw [operand_bind_of_ok rfl]
          rw [readRange, readFirst, readLast] at refused
          change (if _ then _ else _) = _ at refused
          split at refused
          · rename_i malformed
            cases refused
            exact .of_onBus (exercise_run_of_malformed
              (AddressRange.isWellFormed_eq_false_iff.mpr malformed) _) _
          · cases refused

/-- A range that can be read gives no failure: the run comes to its report,
unless it overflows the clock. -/
theorem exercise_completes_or_overflows {range : AddressRange}
    (read : readRange opened.width firstText lastText = .ok range) :
    Completes (perform entropy inTime
      (.exercise firstText lastText mode seconds?))
        opened.bus ∨
      ∃ overflow,
        Exerciser.run range mode (allowance inTime seconds?)
          (opened.engine entropy) = .error overflow ∧
        (perform entropy inTime
          (.exercise firstText lastText mode seconds?)).run
            opened.bus = .error overflow := by
  obtain ⟨readFirst, readLast, _⟩ := readRange_eq_ok.mp read
  have accepted := checkRange_of_readRange read
  rw [perform]
  cases ran : Exerciser.run range mode (allowance inTime seconds?)
      (opened.engine entropy) with
  | ok reached =>
      obtain ⟨result, stopped⟩ := reached
      obtain ⟨report, rfl⟩ := Exerciser.exists_report_of_run accepted ran
      have reported :
          (exercise entropy range mode (allowance inTime seconds?)).run
            opened.bus = .ok (.ok (report, stopped.stats),
              { opened.bus with transport := stopped.transport }) := by
        rw [Opened.exercise_run, ran]
        rfl
      refine .inl (.onBus opened.width_run ?_)
      rw [operand_bind_of_ok readFirst, operand_bind_of_ok readLast]
      exact .onBus reported (.output _ _)
  | error overflow =>
      have overflowed : (exercise entropy range mode
          (allowance inTime seconds?)).run opened.bus = .error overflow := by
        rw [Opened.exercise_run, ran]
        rfl
      refine .inr ⟨overflow, rfl, ?_⟩
      rw [onBus_bind_of_ok opened.width_run, operand_bind_of_ok readFirst,
        operand_bind_of_ok readLast, onBus_bind_of_overflow overflowed]

/-- The clock of a new engine lasts for quadrillions of accesses. -/
theorem affords_accesses {range : AddressRange} {accesses : Nat}
    (accepted : Exerciser.checkRange opened.width range = .ok ())
    (few : accesses ≤ 2 ^ 56 + 1) :
    (opened.engine entropy).Affords (accesses * Engine.accessCycles range) := by
  have space := opened.width.maxAddress_lt
  have inside := (Exerciser.checkRange_eq_ok.mp accepted).2
  have cycles : Engine.accessCycles range ≤ 2 ^ 21 + 10 := by
    simp only [Engine.accessCycles, AddressRange.wordCount,
      SimulatedBus.timeoutCycles]
    omega
  apply Opened.affords
  calc accesses * Engine.accessCycles range * 100000
      ≤ (2 ^ 56 + 1) * (2 ^ 21 + 10) * 100000 :=
        Nat.mul_le_mul_right _ (Nat.mul_le_mul few cycles)
    _ < Duration.limit := by decide

/-- The run comes to its report if it meets a silent address, or if its timer
goes off in time. -/
theorem exercise_completes {range : AddressRange}
    (read : readRange opened.width firstText lastText = .ok range)
    (ends : seconds? = none → opened.memory * 2048 ≤ range.last)
    (few : inTime ≤ 2 ^ 55) :
    Completes (perform entropy inTime
      (.exercise firstText lastText mode seconds?))
      opened.bus := by
  have wellFormed := (readRange_eq_ok.mp read).2.2
  have accepted := checkRange_of_readRange read
  obtain ⟨result, stopped, returned⟩ : ∃ result stopped,
      Exerciser.run range mode (allowance inTime seconds?)
        (opened.engine entropy) = .ok (result, stopped) := by
    cases seconds? with
    | some seconds =>
        have timely : allowance inTime (some seconds) ≤ 2 ^ 55 := few
        exact (Exerciser.affords_reserve _).exists_run
          (affords_accesses accepted (by omega)) accepted mode
    | none =>
        have behind : (opened.engine entropy).transport.board.cells.size ≤
            range.lastWord :=
          (opened.size_cells_le_iff entropy).mpr (ends rfl)
        obtain ⟨word, missing⟩ :=
          Exerciser.exists_firstSilent (opened.healthy entropy)
            wellFormed behind
        have single : (opened.engine entropy).Affords
            (1 * Engine.accessCycles range) :=
          affords_accesses accepted (Nat.le_add_left 1 _)
        rw [Nat.one_mul] at single
        have unlimited : 0 < allowance inTime none := by
          simp only [allowance, Option.isSome_none,
            Bool.false_eq_true, if_false]
          decide
        exact missing.exists_run single accepted fun _ => unlimited
  rcases exercise_completes_or_overflows read with completes
    | ⟨overflow, overflowed, _⟩
  · exact completes
  · cases returned.symm.trans overflowed

/-- Over installed memory a run ends for its cancellation, with as many requests
behind it as it was let. -/
theorem run_cancelled_of_installed {range : AddressRange} {cancelAfter : Nat}
    {result : Except BusError Exerciser.Report}
    {stopped : Engine SimulatedBus ChaCha}
    (read : readRange opened.width firstText lastText = .ok range)
    (installed : range.last < opened.memory * 2048)
    (ran : Exerciser.run range mode cancelAfter (opened.engine entropy) =
      .ok (result, stopped)) :
    ∃ report, result = .ok report ∧ report.stop = .cancelled ∧
      cancelAfter ≤ report.blocksWritten + report.blocksRead := by
  have wellFormed := (readRange_eq_ok.mp read).2.2
  have accepted := checkRange_of_readRange read
  have covered : range.lastWord <
      (opened.engine entropy).transport.board.cells.size :=
    Nat.not_le.mp fun behind =>
      Nat.not_le.mpr installed ((opened.size_cells_le_iff entropy).mp behind)
  have healthy := opened.healthy entropy
  have answering := healthy.installed wellFormed covered
  obtain ⟨report, _, _, ⟨passes, trace⟩, rfl, _⟩ :=
    (Exerciser.run_eq_ok accepted).mp ran
  obtain ⟨rfl, picture, _⟩ := trace.picture accepted answering
  have unjudged := picture.unjudged (healthy.faultyWords_eq_nil answering)
  have clean : report.stop ≠ .mismatch := by
    rw [unjudged.stop]
    decide
  obtain ⟨_, _, recorded, cancelled, _⟩ := trace.cancelledAt accepted clean
  obtain ⟨written, readBack⟩ := trace.counted accepted recorded
  refine ⟨report, rfl, unjudged.stop, ?_⟩
  rw [written, readBack, cancelled.blocks]
  exact cancelled.enough

/-- Nothing but a cancellation ends an exerciser on the bus, however many
requests are behind it by then. -/
def RunsOn (entropy : UInt64) (range : AddressRange) (mode : Exerciser.Mode)
    (bus : Bus SimulatedBus) : Prop :=
  ∀ requests ≤ 2 ^ 55, ∃ report stats stopped,
    (exercise entropy range mode requests).run bus =
      .ok (.ok (report, stats), stopped) ∧
    report.stop = .cancelled ∧
    requests ≤ report.blocksWritten + report.blocksRead

theorem runsOn_of_installed {range : AddressRange}
    (read : readRange opened.width firstText lastText = .ok range)
    (installed : range.last < opened.memory * 2048) :
    RunsOn entropy range mode opened.bus := by
  intro requests few
  have accepted := checkRange_of_readRange read
  obtain ⟨result, stopped, ran⟩ : ∃ result stopped,
      Exerciser.run range mode requests (opened.engine entropy) =
      .ok (result, stopped) :=
    (Exerciser.affords_reserve _).exists_run
      (affords_accesses accepted (by omega)) accepted mode
  obtain ⟨report, rfl, cancelled, enough⟩ :=
    run_cancelled_of_installed read installed ran
  refine ⟨report, stopped.stats,
    { opened.bus with transport := stopped.transport }, ?_, cancelled, enough⟩
  rw [Opened.exercise_run, ran]
  rfl

end Exercise

end Commands

end Backplane.CommandLine
