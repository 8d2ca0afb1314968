import Backplane.Proofs.Bus.Session
import Backplane.Proofs.Dma.ScriptedBlock
import Backplane.Proofs.Exerciser.Conduct
import Backplane.Proofs.Power.Sequence

/-!
# Requests of a session

Whatever is called on a bus, the requests that reach it are well-formed: they
carry the configured slot, an even start and at least one word, and one that
fails tells the word at which it did.  Only a bare transfer can ask for
addresses that the chosen width does not have.
-/

namespace Backplane

/-- A request as it stands on the record of a bus, from an engine in a slot. -/
structure LoggedRequest.WellFormed (slot : Nat) (entry : LoggedRequest) :
    Prop where
  slot : entry.slot = slot
  aligned : entry.start % 2 = 0
  inhabited : 1 ≤ entry.words
  acknowledged : entry.outcome.success = true → entry.outcome.faultAddress = 0
  silent : entry.outcome.success = false →
    ∃ index < entry.words, entry.outcome.faultAddress = entry.start + 2 * index

/-- Every byte of the request has an address. -/
def LoggedRequest.Inside (width : AddressWidth) (entry : LoggedRequest) :
    Prop :=
  entry.start + 2 * entry.words ≤ width.maxAddress + 1

namespace ScriptedBus

/-- The record of the bus has grown by such requests. -/
def Logged (good : LoggedRequest → Prop) (before after : ScriptedBus) : Prop :=
  ∃ added, after.inner.requests.toList = before.inner.requests.toList ++ added ∧
    ∀ entry ∈ added, good entry

namespace Logged

variable {good : LoggedRequest → Prop} {before middle after : ScriptedBus}

theorem of_same (same : after.inner.requests = before.inner.requests) :
    Logged good before after := by
  refine ⟨[], ?_, List.forall_mem_nil _⟩
  rw [same, List.append_nil]

theorem mono {wider : LoggedRequest → Prop} (logged : Logged good before after)
    (widened : ∀ entry, good entry → wider entry) :
    Logged wider before after := by
  obtain ⟨added, requests, known⟩ := logged
  exact ⟨added, requests, fun entry member =>
    widened entry (known entry member)⟩

theorem trans (head : Logged good before middle)
    (tail : Logged good middle after) : Logged good before after := by
  obtain ⟨first, requests, firstGood⟩ := head
  obtain ⟨rest, more, restGood⟩ := tail
  refine ⟨first ++ rest, ?_, List.forall_mem_append.mpr ⟨firstGood, restGood⟩⟩
  rw [more, requests, List.append_assoc]

theorem of_drove {steps : List PowerStep} (drove : Drove before steps after) :
    Logged good before after :=
  .of_same drove.requests

end Logged

theorem Drives.logged {α : Type} {operation : Op ScriptedBus α}
    {table : List PowerStep} {good : LoggedRequest → Prop}
    {before after : ScriptedBus} {result : Except BusError α}
    (drives : Drives operation table)
    (ran : operation.run before = .ok (result, after)) :
    Logged good before after := by
  obtain ⟨_, _, drove, _⟩ := drives ran
  exact .of_drove drove

end ScriptedBus

namespace Dma

theorem Request.Proper.wellFormed {slot : Nat} {request : Request}
    (proper : request.Proper slot) (board : MemoryBoard) :
    (request.entry board).WellFormed slot := by
  have bound := board.answered_le request.start request.words.size
  refine ⟨proper.slot, proper.aligned, proper.inhabited, ?_, ?_⟩
  · intro success
    change (board.blockOutcome _ _).faultAddress = 0
    cases outcome : board.blockOutcome request.start request.words.size with
    | acknowledged => rfl
    | timedOut fault =>
        simp [entry, outcome, Outcome.success] at success
  · intro failure
    cases outcome : board.blockOutcome request.start request.words.size with
    | acknowledged =>
        simp [entry, outcome, Outcome.success] at failure
    | timedOut fault =>
        obtain ⟨short, address⟩ :=
          MemoryBoard.blockOutcome_eq_timedOut_iff.mp outcome
        refine ⟨_, Nat.lt_of_le_of_ne bound short, ?_⟩
        simp only [entry, outcome, Outcome.faultAddress]
        exact address

theorem Request.Inside.entry {width : AddressWidth} {request : Request}
    (inside : request.Inside width) (board : MemoryBoard) :
    (request.entry board).Inside width := by
  unfold LoggedRequest.Inside
  rw [← width.byteCount_eq]
  exact inside

namespace Engine

variable {γ : Type} {engine stopped : Engine ScriptedBus γ}

/-- What is permitted in a conduct shows on the record of the bus. -/
theorem Conduct.logged {permitted : Request → Prop}
    {good : LoggedRequest → Prop} {replies : List (Except BusError Completion)}
    (conduct : Conduct permitted engine replies stopped)
    (shows : ∀ request board, permitted request → good (request.entry board)) :
    ScriptedBus.Logged good engine.transport stopped.transport := by
  induction conduct with
  | done => exact .of_same rfl
  | noted _ _ induction | drawn _ _ induction | kept _ _ induction =>
      exact induction
  | @carried engine middle stopped request result replies permits ran
      _ induction =>
      refine ScriptedBus.Logged.trans ?_ induction
      cases result with
      | error fault =>
          obtain ⟨_, _, _, rfl⟩ := carryOut_brokenOff ran
          exact .of_same rfl
      | ok done =>
          refine ⟨_, (carryOut_replied ran).requests, ?_⟩
          exact List.forall_mem_singleton.mpr (shows request _ permits)

theorem Conducted.logged {bare : Bool}
    (conducted : Conducted bare engine stopped) :
    ScriptedBus.Logged
      (fun entry => entry.WellFormed engine.config.slot ∧
        (bare = false → entry.Inside engine.width))
      engine.transport stopped.transport := by
  obtain ⟨_, conduct⟩ := conducted
  refine conduct.logged fun request board lawful =>
    ⟨lawful.proper.wellFormed board, ?_⟩
  exact fun ranged => (lawful.inside ranged).entry board

end Engine

end Dma

namespace Bus

open Dma Dma.Engine

/-- Whether a call makes bare transfers. -/
def Call.isBare : Call → Bool
  | transfers _ calls => calls.any Dma.Call.isBare
  | _ => false

/-- A request as a call on this bus may leave it on the record. -/
def Admits (bus : Bus ScriptedBus) (bare : Bool) (entry : LoggedRequest) :
    Prop :=
  entry.WellFormed bus.config.slot ∧
    (bare = false → ∃ width, bus.space.width? = some width ∧ entry.Inside width)

/-- A call keeps the parameters and leaves only such requests on the record. -/
def Issues (bare : Bool) (bus next : Bus ScriptedBus) : Prop :=
  next.config = bus.config ∧
    ScriptedBus.Logged (bus.Admits bare) bus.transport next.transport

theorem Issues.nothing {bare : Bool} (bus : Bus ScriptedBus) :
    Issues bare bus bus :=
  ⟨rfl, .of_same rfl⟩

section Calls

variable {bus next : Bus ScriptedBus} {chosen : AddressWidth}

theorem withEngine_issues {α : Type} {bare : Bool} {entropy : UInt64}
    {result : Except BusError α} {row : Timed (Engine ScriptedBus ChaCha) α}
    (configured : bus.space.width? = some chosen)
    (conducts : ∀ ⦃engine stopped answers⦄, row engine =
      .ok (answers, stopped) →
      Conducted bare engine stopped)
    (ran : (withEngine entropy (Except.ok <$> row)).run bus =
      .ok (result, next)) :
    Issues bare bus next := by
  obtain ⟨_, _, _, rfl⟩ | ⟨engine, stopped, _, opened, done, _, rfl⟩ :=
    (withEngine_row_eq_ok configured).mp ran
  · exact .nothing _
  · obtain ⟨_, rfl⟩ := Engine.new_eq_ok.mp opened
    refine ⟨rfl, (conducts done).logged.mono ?_⟩
    intro entry known
    exact ⟨known.1, fun ranged => ⟨chosen, configured, known.2 ranged⟩⟩

theorem gated_issues {α : Type} {bare : Bool} {result : Except BusError α}
    {table : Family → List PowerStep} {operation : Family → Op ScriptedBus α}
    (configured : bus.space.width? = some chosen)
    (drives : ∀ family, ScriptedBus.Drives (operation family) (table family))
    (ran : (do
      let _ ← Bus.width
      let family := (← get).space.family
      lift (operation family) : Op (Bus ScriptedBus) α).run bus =
        .ok (result, next)) :
    Issues bare bus next := by
  obtain ⟨transport, driven, rfl⟩ :=
    (gated_lift_eq_ok operation configured).mp ran
  exact ⟨rfl, (drives _).logged driven⟩

theorem operation_issues {call : Call} {result : Except BusError Answer}
    (configured : bus.space.width? = some chosen)
    (operates : ∀ bits, call ≠ .configure bits)
    (performed : call.perform.run bus = .ok (result, next)) :
    Issues call.isBare bus next := by
  cases call with
  | configure bits => exact absurd rfl (operates bits)
  | width =>
      obtain ⟨_, asked, _⟩ := Op.map_eq_ok.mp performed
      have told := width_bind_run configured fun width =>
        (pure width : Op (Bus ScriptedBus) _)
      rw [bind_pure] at told
      cases told.symm.trans asked
      exact .nothing bus
  | powerCycle =>
      obtain ⟨_, gated, _⟩ := Op.map_eq_ok.mp performed
      exact gated_issues configured ScriptedBus.drives_powerCycle gated
  | pulseInit =>
      obtain ⟨_, gated, _⟩ := Op.map_eq_ok.mp performed
      exact gated_issues configured ScriptedBus.drives_pulseInit gated
  | probeJumpers refuseClosed =>
      obtain ⟨_, gated, _⟩ := Op.map_eq_ok.mp performed
      exact gated_issues configured
        (ScriptedBus.drives_probeJumpers · refuseClosed) gated
  | transfers entropy calls =>
      obtain ⟨_, ran, _⟩ := Op.map_eq_ok.mp performed
      exact withEngine_issues configured
        (fun _ _ _ row => Dma.Call.session_conducted row) ran
  | exercises entropy tasks =>
      obtain ⟨_, ran, _⟩ := Op.map_eq_ok.mp performed
      exact withEngine_issues configured
        (fun _ _ _ row => Exerciser.Task.session_conducted row) ran

theorem perform_issues {call : Call} {result : Except BusError Answer}
    (performed : call.perform.run bus = .ok (result, next)) :
    Issues call.isBare bus next := by
  obtain operates | ⟨bits, rfl⟩ := call.operates_or_configures
  · cases chosen : bus.space.width? with
    | none =>
        cases (perform_of_unconfigured chosen operates).symm.trans performed
        exact .nothing bus
    | some width => exact operation_issues chosen operates performed
  · cases supported : bus.space.family.width? bits with
    | none =>
        cases (perform_configure_of_unsupported supported).symm.trans performed
        exact .nothing bus
    | some width =>
        cases (perform_configure_of_supported supported).symm.trans performed
        exact ⟨rfl, .of_same rfl⟩

end Calls

theorem session_logged {calls : List Call} {bus reached : Bus ScriptedBus}
    {results : List (Except BusError Answer)}
    (ran : session calls bus = .ok (results, reached)) :
    reached.config = bus.config ∧
      ScriptedBus.Logged (LoggedRequest.WellFormed bus.config.slot)
        bus.transport reached.transport := by
  induction calls generalizing bus results with
  | nil =>
      cases ran
      exact ⟨rfl, .of_same rfl⟩
  | cons call calls induction =>
      obtain ⟨_, middle, _, performed, others, _⟩ :=
        Timed.mapM_cons_eq_ok.mp ran
      obtain ⟨config, head⟩ := perform_issues performed
      obtain ⟨sameConfig, tail⟩ := induction others
      rw [config] at sameConfig tail
      exact ⟨sameConfig, (head.mono fun _ => And.left).trans tail⟩

/-- Only well-formed requests reach the bus in a session.  At every point of it,
the requests behind a range check lie inside the address space of the width
chosen by then: those of a call on the bus without bare transfers, and those of
every other use of an engine that is opened there. -/
theorem session_requests {transport : ScriptedBus} {family : Family}
    {config : Config} {bus reached : Bus ScriptedBus} {calls : List Call}
    {results : List (Except BusError Answer)}
    (opened : (Bus.new transport family).withConfig config = .ok bus)
    (ran : session calls bus = .ok (results, reached)) :
    (1 ≤ config.slot ∧ config.slot ≤ 31) ∧
    ScriptedBus.Logged (LoggedRequest.WellFormed config.slot) transport
      reached.transport ∧
    (∀ (call : Call) result next,
      call.perform.run reached = .ok (result, next) →
      ScriptedBus.Logged
        (fun entry => entry.WellFormed config.slot ∧
          (call.isBare = false →
            ∃ width, reached.space.width? = some width ∧ entry.Inside width))
        reached.transport next.transport) ∧
    ∀ width entropy engine works answers issuing,
      reached.space.width? = some width →
      Engine.new reached.transport width reached.config entropy = .ok engine →
      Exerciser.Work.session works engine = .ok (answers, issuing) →
      ∀ (work : Exerciser.Work) answer issued,
        work.perform issuing = .ok (answer, issued) →
        ScriptedBus.Logged
          (fun entry => entry.WellFormed config.slot ∧
            (work.isBare = false → entry.Inside width))
          issuing.transport issued.transport := by
  obtain ⟨_, valid, built⟩ := except_bind_eq_ok.mp opened
  cases built
  obtain ⟨sameConfig, logged⟩ := session_logged ran
  refine ⟨(Config.validate_eq_ok.mp valid).1, logged, ?_, ?_⟩
  · intro call result next performed
    have issued := (perform_issues performed).2
    unfold Admits at issued
    rw [sameConfig] at issued
    exact issued
  · intro width entropy engine works answers issuing _ created issuingRan
      work answer issued performed
    obtain ⟨_, rfl⟩ := Engine.new_eq_ok.mp created
    have before := Exerciser.Work.session_conducted issuingRan
    have after := (Exerciser.Work.perform_conducted performed).logged
    rw [before.config, before.width, sameConfig] at after
    exact after

/-- Two words of memory in a backplane whose engines use slot 5. -/
def slotFiveQbus : Bus ScriptedBus :=
  { Bus.new { inner := { board := MemoryBoard.empty.install 4 } } .qbus with
    config := { slot := 5 } }

/-- The same after a width of 22 lines was reduced to 16. -/
def reducedQbus : Bus ScriptedBus :=
  { slotFiveQbus with
    transport := Transport.note (.widthChosen .qbus .bits16)
      (Transport.note (.widthChosen .qbus .bits22) slotFiveQbus.transport)
    space := ⟨.qbus, some .bits16⟩ }

def reducedEngine : Engine ScriptedBus ChaCha where
  transport := Transport.note (.engineOpened 5 50 .software)
    reducedQbus.transport
  width := .bits16
  config := { slot := 5 }
  generator := ChaCha.ofSeed 0

/-- A bare transfer that ends behind the memory, and a range that is read after
the width was reduced. -/
theorem session_requests_of_slotFiveQbus :
    (Bus.new { inner := { board := MemoryBoard.empty.install 4 } }
      .qbus).withConfig
      { slot := 5 } = .ok slotFiveQbus ∧
    (∃ results reached,
      session [.configure 22, .transfers 0
        [.transfer false .dataIn 0 (.sink #[0, 0, 0])]]
        slotFiveQbus = .ok (results, reached) ∧
      reached.transport.inner.requests.toList =
        [⟨5, .dataIn, 0, 3, .timedOut 4⟩] ∧
      ScriptedBus.Logged (LoggedRequest.WellFormed 5)
        { inner := { board := MemoryBoard.empty.install 4 } }
          reached.transport) ∧
    (∃ results answer issued,
      session [.configure 22, .configure 16] slotFiveQbus =
        .ok (results, reducedQbus) ∧
      Engine.new reducedQbus.transport .bits16 reducedQbus.config 0 =
        .ok reducedEngine ∧
      (Exerciser.Work.direct (.readRange #[0, 0] ⟨0, 2⟩)).perform
        reducedEngine = .ok (answer, issued) ∧
      issued.transport.inner.requests.toList =
        [⟨5, .dataIn, 0, 2, .acknowledged⟩] ∧
      ScriptedBus.Logged (fun entry => entry.WellFormed 5 ∧
        entry.Inside .bits16) reducedEngine.transport issued.transport) := by
  have opened :
      (Bus.new { inner := { board := MemoryBoard.empty.install 4 } } .qbus :
    Bus ScriptedBus).withConfig { slot := 5 } = .ok slotFiveQbus := rfl
  refine ⟨opened, ?_, ?_⟩
  · obtain ⟨⟨results, reached⟩, ran, requests⟩ := exists_of_observed
      (by decide +kernel :
        (session [.configure 22,
          .transfers 0 [.transfer false .dataIn 0 (.sink #[0, 0, 0])]]
          slotFiveQbus).toOption.map (fun reached =>
            reached.2.transport.inner.requests.toList) =
          some [⟨5, .dataIn, 0, 3, .timedOut 4⟩])
    exact ⟨results, reached, ran, requests, (session_requests opened ran).2.1⟩
  · have ran : session [.configure 22, .configure 16] slotFiveQbus =
      .ok ([.ok (.chosen .bits22), .ok (.chosen .bits16)], reducedQbus) := rfl
    have created : Engine.new reducedQbus.transport .bits16
        reducedQbus.config 0 =
      .ok reducedEngine := rfl
    obtain ⟨⟨answer, issued⟩, performed, requests⟩ := exists_of_observed
      (by decide +kernel :
        ((Exerciser.Work.direct (.readRange #[0, 0] ⟨0, 2⟩)).perform
          reducedEngine).toOption.map (fun reached =>
            reached.2.transport.inner.requests.toList) =
          some [⟨5, .dataIn, 0, 2, .acknowledged⟩])
    have logged := (session_requests opened ran).2.2.2 .bits16 0
      reducedEngine [] []
      reducedEngine rfl created rfl (.direct (.readRange #[0, 0] ⟨0, 2⟩))
      answer issued performed
    exact ⟨_, answer, issued, ran, created, performed, requests,
      logged.mono fun _ known => ⟨known.1, known.2 rfl⟩⟩

end Bus

end Backplane
