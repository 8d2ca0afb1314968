import Backplane.Proofs.Bus.Session
import Mathlib.Algebra.Group.Nat.Defs

/-!
# The width of a bus

A bus carries the width that was chosen last among those its family supports,
or the one fixed by its wiring.  Nothing but a choice of the width gets past a
bus without one, and behind the gate no call misses the width again.
-/

namespace Backplane

/-- The address lines that a backplane of the family can have. -/
def Family.supportedBits : Family → List Nat
  | .unibus => [18]
  | .qbus => [16, 18, 22]

/-- The address lines fixed by the wiring of the family. -/
def Family.wiredBits? : Family → Option Nat
  | .unibus => some 18
  | .qbus => none

namespace Family

variable {family : Family} {bits : Nat}

theorem supportedBits_eq (family : Family) :
    family.supportedBits = family.widths.map AddressWidth.bits := by
  cases family <;> rfl

theorem width?_eq_none : family.width? bits = none ↔
    bits ∉ family.supportedBits := by
  rw [width?, List.find?_eq_none, supportedBits_eq, List.mem_map, not_exists]
  refine forall_congr' fun width => ?_
  rw [not_and, beq_iff_eq]

theorem bits_of_width? {width : AddressWidth}
    (supported : family.width? bits = some width) : width.bits = bits := by
  have found := List.find?_some supported
  exact beq_iff_eq.mp found

end Family

/-- Any fault but the lack of a width. -/
def BusError.PastGate (fault : BusError) : Prop :=
  ∀ family, fault ≠ .widthNotConfigured family

theorem Dma.EngineFault.pastGate {fault : BusError}
    (known : Dma.EngineFault BusError.PastGate fault) : fault.PastGate := by
  cases known with
  | refused => exact nofun
  | silent => exact nofun
  | reported own => exact own

theorem BusError.OfChannel.pastGate {fault : BusError}
    (broken : fault.OfChannel) : fault.PastGate := by
  obtain ⟨reason, rfl⟩ := broken
  exact nofun

/-! ## Operations behind the gate -/

section Faults

variable {σ : Type} [Transport σ] {allowed : BusError → Prop}

theorem runSteps_faults (only : Transport.FailsOnly σ allowed)
    (steps : List PowerStep) :
    Op.FailsOnly (PowerSequence.runSteps steps : Op σ Unit) allowed := by
  induction steps with
  | nil => exact .pure ()
  | cons step steps induction =>
      refine (Op.FailsOnly.liftM _).bind fun _ => ?_
      refine (only.setSignal _ _).bind fun _ => ?_
      exact (Op.FailsOnly.liftM _).bind fun _ => induction

theorem powerCycle_faults (only : Transport.FailsOnly σ allowed)
    (family : Family) :
    Op.FailsOnly (PowerSequence.powerCycle family : Op σ Unit) allowed := by
  have down : Op.FailsOnly (PowerSequence.powerDown family : Op σ Unit)
      allowed :=
    (Op.FailsOnly.liftM _).bind fun _ => runSteps_faults only _
  have up : Op.FailsOnly (PowerSequence.powerUp family : Op σ Unit) allowed :=
    (Op.FailsOnly.liftM _).bind fun _ => runSteps_faults only _
  exact down.bind fun _ => up

theorem pulseInit_faults (only : Transport.FailsOnly σ allowed)
    (family : Family) :
    Op.FailsOnly (PowerSequence.pulseInit family : Op σ Unit) allowed := by
  refine (Op.FailsOnly.liftM _).bind fun _ => ?_
  refine (only.setSignal _ _).bind fun _ => ?_
  exact (Op.FailsOnly.liftM _).bind fun _ => only.setSignal _ _

/-- A probe fails with its transport, or because it finds closed jumpers. -/
theorem probeJumpers_faults (only : Transport.FailsOnly σ allowed)
    (family : Family) (refuseClosed : Bool) :
    Op.FailsOnly (probeJumpers family refuseClosed : Op σ GrantMask)
      (fun fault =>
        allowed fault ∨ ∃ closed, fault = .arbitrationFault closed) := by
  refine ((powerCycle_faults only family).mono fun _ => .inl).bind fun _ => ?_
  refine (only.sampleGrants.mono fun _ => .inl).bind fun mask => ?_
  split
  · exact (Op.FailsOnly.liftM _).bind fun _ => .pure mask
  · split
    · refine (Op.FailsOnly.forM fun line => .liftM _).bind fun _ => ?_
      exact .throw (.inr ⟨mask, rfl⟩)
    · exact (Op.FailsOnly.liftM _).bind fun _ => .pure mask

theorem Dma.Engine.new_fault {transport : σ} {width : AddressWidth}
    {config : Dma.Config} {entropy : UInt64} {fault : BusError}
    (refused : Dma.Engine.new transport width config entropy = .error fault) :
    ∃ invalid, fault = .invalidConfig invalid := by
  unfold Dma.Engine.new Dma.Config.validate at refused
  split at refused
  · cases refused
    exact ⟨_, rfl⟩
  · split at refused <;> cases refused
    exact ⟨_, rfl⟩

end Faults

namespace Bus

open Dma

variable {σ : Type} [Transport σ]

/-- A call behind the gate leaves the width alone, and its faults are others
than the lack of one, if those of the transport are. -/
structure Passed (bus : Bus σ) (result : Except BusError Answer)
    (next : Bus σ) : Prop where
  space : next.space = bus.space
  faults : Transport.FailsOnly σ BusError.PastGate →
    ∀ fault ∈ faultsOf result, fault.PastGate

section Calls

variable {α : Type} {bus next : Bus σ} {chosen : AddressWidth}

theorem Passed.of_gated {change : α → Answer} {outcome : Except BusError α}
    (operation : Family → Op σ α) (configured : bus.space.width? = some chosen)
    (plain : ∀ value, (change value).faults = [])
    (faults : Transport.FailsOnly σ BusError.PastGate →
      ∀ family, Op.FailsOnly (operation family) BusError.PastGate)
    (gated : (do
      let _ ← Bus.width
      let family := (← get).space.family
      lift (operation family) : Op (Bus σ) α).run bus = .ok (outcome, next)) :
    Passed bus (outcome.map change) next := by
  obtain ⟨transport, ran, rfl⟩ :=
    (gated_lift_eq_ok operation configured).mp gated
  refine ⟨rfl, fun only fault failed => ?_⟩
  cases outcome with
  | ok value =>
      rw [Except.map, faultsOf, plain] at failed
      cases failed
  | error broken =>
      obtain rfl := List.mem_singleton.mp failed
      exact faults only _ ran

theorem Passed.of_row {entropy : UInt64}
    {row : Timed (Engine σ ChaCha) (List α)} {change : List α → Answer}
    {fault? : α → Option BusError} {outcome : Except BusError (List α)}
    (configured : bus.space.width? = some chosen)
    (listed : ∀ answers, (change answers).faults = answers.filterMap fault?)
    (known : Transport.FailsOnly σ BusError.PastGate →
      ∀ ⦃engine stopped answers⦄,
      row engine = .ok (answers, stopped) →
        ∀ answer ∈ answers, ∀ fault ∈ fault? answer,
          EngineFault BusError.PastGate fault)
    (ran : (withEngine entropy (Except.ok <$> row)).run bus =
      .ok (outcome, next)) :
    Passed bus (outcome.map change) next := by
  rcases (withEngine_row_eq_ok configured).mp ran with
    ⟨refusal, refused, rfl, rfl⟩ | ⟨engine, stopped, answers, _, done, rfl, rfl⟩
  · refine ⟨rfl, fun _ fault failed => ?_⟩
    obtain rfl := List.mem_singleton.mp failed
    obtain ⟨invalid, rfl⟩ := Engine.new_fault refused
    exact nofun
  · refine ⟨rfl, fun only fault failed => ?_⟩
    rw [Except.map, faultsOf, listed] at failed
    obtain ⟨answer, inAnswers, brought⟩ := List.mem_filterMap.mp failed
    exact (known only done answer inAnswers fault brought).pastGate

theorem perform_passed {call : Call} {result : Except BusError Answer}
    (configured : bus.space.width? = some chosen)
    (operates : ∀ bits, call ≠ .configure bits)
    (performed : call.perform.run bus = .ok (result, next)) :
    Passed bus result next := by
  cases call with
  | configure bits => exact absurd rfl (operates bits)
  | width =>
      obtain ⟨outcome, asked, rfl⟩ := Op.map_eq_ok.mp performed
      have told := width_bind_run configured fun width =>
        (pure width : Op (Bus σ) _)
      rw [bind_pure] at told
      cases told.symm.trans asked
      exact ⟨rfl, fun _ => List.forall_mem_nil _⟩
  | powerCycle =>
      obtain ⟨outcome, gated, rfl⟩ := Op.map_eq_ok.mp performed
      exact .of_gated PowerSequence.powerCycle configured (fun _ => rfl)
        powerCycle_faults gated
  | pulseInit =>
      obtain ⟨outcome, gated, rfl⟩ := Op.map_eq_ok.mp performed
      exact .of_gated PowerSequence.pulseInit configured (fun _ => rfl)
        pulseInit_faults gated
  | probeJumpers refuseClosed =>
      obtain ⟨outcome, gated, rfl⟩ := Op.map_eq_ok.mp performed
      refine .of_gated (Backplane.probeJumpers · refuseClosed) configured
        (fun _ => rfl) (fun only family => ?_) gated
      refine (probeJumpers_faults only family refuseClosed).mono ?_
      rintro fault (own | ⟨closed, rfl⟩)
      · exact own
      · exact nofun
  | transfers entropy calls =>
      obtain ⟨outcome, ran, rfl⟩ := Op.map_eq_ok.mp performed
      refine .of_row configured (fun _ => rfl) (fun only _ _ _ row => ?_) ran
      exact Timed.forall_of_mapM
        (fun _ _ _ _ => Dma.Call.perform_engineFault only) row
  | exercises entropy tasks =>
      obtain ⟨outcome, ran, rfl⟩ := Op.map_eq_ok.mp performed
      refine .of_row configured (fun _ => rfl) (fun only _ _ _ row => ?_) ran
      exact Timed.forall_of_mapM
        (fun _ _ _ _ => Exerciser.Task.perform_engineFault only) row

end Calls

/-! ## The width along a session -/

/-- The address lines that a call chooses, if the family supports them. -/
def Call.chosenBits? (family : Family) : Call → Option Nat
  | configure bits => if bits ∈ family.supportedBits then some bits else none
  | _ => none

/-- The address lines of a bus. -/
def bits? (bus : Bus σ) : Option Nat :=
  bus.space.width?.map AddressWidth.bits

theorem perform_bits {bus next : Bus σ} {call : Call}
    {result : Except BusError Answer}
    (performed : call.perform.run bus = .ok (result, next)) :
    next.space.family = bus.space.family ∧
      next.bits? = (call.chosenBits? bus.space.family).or bus.bits? := by
  rcases call.operates_or_configures with operates | ⟨bits, rfl⟩
  · have chooses : call.chosenBits? bus.space.family = none := by
      cases call with
      | configure bits => exact absurd rfl (operates bits)
      | _ => rfl
    have same : next.space = bus.space := by
      -- Refused in front of the gate, or run behind it on the transport alone.
      cases chosen : bus.space.width? with
      | none =>
          cases (perform_of_unconfigured chosen operates).symm.trans performed
          rfl
      | some width => exact (perform_passed chosen operates performed).space
    rw [chooses, Option.none_or, bits?, same]
    exact ⟨rfl, rfl⟩
  · rcases configured_or_refused performed with
      ⟨width, supported, _, space⟩ | ⟨unsupported, _, rfl⟩
    · have listed : bits ∈ bus.space.family.supportedBits := by
        by_cases listed : bits ∈ bus.space.family.supportedBits
        · exact listed
        · rw [Family.width?_eq_none.mpr listed] at supported
          cases supported
      rw [Call.chosenBits?, if_pos listed, Option.some_or, bits?, space,
        Option.map_some, Family.bits_of_width? supported]
      exact ⟨rfl, rfl⟩
    · rw [Call.chosenBits?, if_neg (Family.width?_eq_none.mp unsupported),
        Option.none_or]
      exact ⟨rfl, rfl⟩

/-- The choice that counts is the last one that was supported. -/
theorem session_bits {calls : List Call} {bus reached : Bus σ}
    {results : List (Except BusError Answer)}
    (ran : session calls bus = .ok (results, reached)) :
    reached.space.family = bus.space.family ∧
      reached.bits? =
        (calls.filterMap (Call.chosenBits? bus.space.family)).getLast?.or
          bus.bits? := by
  induction calls generalizing bus results with
  | nil =>
      cases ran
      exact ⟨rfl, rfl⟩
  | cons call calls induction =>
      obtain ⟨_, middle, _, performed, others, _⟩ :=
        Timed.mapM_cons_eq_ok.mp ran
      obtain ⟨sameFamily, bits⟩ := perform_bits performed
      obtain ⟨family, last⟩ := induction others
      refine ⟨family.trans sameFamily, ?_⟩
      rw [last, bits, sameFamily]
      cases chosen : call.chosenBits? bus.space.family with
      | none => rw [List.filterMap_cons_none chosen, Option.none_or]
      | some bits =>
          rw [List.filterMap_cons_some chosen, List.getLast?_cons,
            Option.some_or, Option.some_or]
          cases (calls.filterMap
            (Call.chosenBits? bus.space.family)).getLast? <;> rfl

theorem perform_pastGate (only : Transport.FailsOnly σ BusError.PastGate)
    {call : Call} {bus next : Bus σ} {chosen : AddressWidth}
    {result : Except BusError Answer}
    (configured : bus.space.width? = some chosen)
    (performed : call.perform.run bus = .ok (result, next)) :
    (∀ fault ∈ faultsOf result, fault.PastGate) ∧
      ∃ width, next.space.width? = some width := by
  rcases call.operates_or_configures with operates | ⟨bits, rfl⟩
  · have passed := perform_passed configured operates performed
    rw [passed.space]
    exact ⟨passed.faults only, chosen, configured⟩
  · rcases configured_or_refused performed with
      ⟨width, _, rfl, space⟩ | ⟨_, rfl, rfl⟩
    · rw [space]
      exact ⟨List.forall_mem_nil _, width, rfl⟩
    · refine ⟨fun fault refused => ?_, chosen, configured⟩
      obtain rfl := List.mem_singleton.mp refused
      exact nofun

/-- A bus that has a width keeps one, so no later call misses it. -/
theorem session_pastGate (only : Transport.FailsOnly σ BusError.PastGate)
    {calls : List Call} {bus reached : Bus σ} {chosen : AddressWidth}
    {results : List (Except BusError Answer)}
    (configured : bus.space.width? = some chosen)
    (ran : session calls bus = .ok (results, reached)) :
    ∀ result ∈ results, ∀ fault ∈ faultsOf result, fault.PastGate := by
  induction calls generalizing bus chosen results with
  | nil =>
      cases ran
      exact List.forall_mem_nil _
  | cons call calls induction =>
      obtain ⟨_, middle, _, performed, others, rfl⟩ :=
        Timed.mapM_cons_eq_ok.mp ran
      obtain ⟨past, _, stillConfigured⟩ :=
        perform_pastGate only configured performed
      exact List.forall_mem_cons.mpr ⟨past, induction stillConfigured others⟩

omit [Transport σ] in
theorem withConfig_space {opened bus : Bus σ} {config : Config}
    (parametrized : opened.withConfig config = .ok bus) :
    bus.space = opened.space := by
  obtain ⟨_, _, same⟩ := except_bind_eq_ok.mp parametrized
  cases same
  rfl

/-- The gate of a bus on any transport, after any session.  The bus carries the
width of the last supported choice, or of its wiring, with the measures of that
width; an unsupported choice changes nothing; without a width every other call
is refused and changes nothing either; and with one no later call comes back for
the lack of it, unless the transport itself did. -/
theorem width_gate {transport : σ} {family : Family} {config : Config}
    {bus reached : Bus σ} {calls : List Call}
    {results : List (Except BusError Answer)}
    (opened : (Bus.new transport family).withConfig config = .ok bus)
    (ran : session calls bus = .ok (results, reached)) :
    reached.space.family = family ∧
    reached.bits? =
      (calls.filterMap (Call.chosenBits? family)).getLast?.or
        family.wiredBits? ∧
    (∀ width, reached.space.width? = some width →
      width.wordCount = 2 ^ (width.bits - 1) ∧
        width.byteCount = 2 ^ width.bits ∧
        width.ioPageStart = 2 ^ width.bits - 8192) ∧
    (∀ bits ∉ family.supportedBits,
      (Call.configure bits).perform.run reached =
        .ok (.error (.unsupportedWidth family bits), reached)) ∧
    (reached.bits? = none → ∀ call : Call, (∀ bits, call ≠ .configure bits) →
      call.perform.run reached =
        .ok (.error (.widthNotConfigured family), reached)) ∧
    (reached.bits? ≠ none → Transport.FailsOnly σ BusError.PastGate →
      ∀ later laterResults stopped,
        session later reached = .ok (laterResults, stopped) →
        ∀ result ∈ laterResults, ∀ asked,
          BusError.widthNotConfigured asked ∉ faultsOf result) := by
  obtain ⟨sameFamily, bits⟩ := session_bits ran
  have fresh : bus.space = .new family := withConfig_space opened
  have wired : bus.bits? = family.wiredBits? := by
    rw [bits?, fresh]
    cases family <;> rfl
  rw [wired, fresh] at bits
  rw [fresh] at sameFamily
  refine ⟨sameFamily, bits, ?_, ?_, ?_, ?_⟩
  · intro width _
    cases width <;> exact ⟨rfl, rfl, rfl⟩
  · intro bits unsupported
    cases sameFamily
    exact perform_configure_of_unsupported
      (Family.width?_eq_none.mpr unsupported)
  · intro unconfigured call operates
    cases sameFamily
    exact perform_of_unconfigured
      (Option.map_eq_none_iff.mp unconfigured) operates
  · intro hasBits only later laterResults stopped laterRan result
      inResults asked missed
    cases configured : reached.space.width? with
    | none => exact hasBits (Option.map_eq_none_iff.mpr configured)
    | some chosen =>
        exact session_pastGate only configured laterRan result inResults _
          missed asked rfl

/-- A fresh bus of the QBUS family, on a channel that breaks with the first
request. -/
def brokenQbus : Bus ScriptedBus :=
  Bus.new
    { inner := {}
      script := { onSubmit := fun _ => { failure? := some "mailbox closed" } } }
    .qbus

/-- Without a width the power lines are left alone; with one, the next call
misses nothing but the channel. -/
theorem width_gate_brokenQbus :
    (∃ results reached,
      session [.powerCycle, .configure 17] brokenQbus = .ok (results, reached) ∧
      reached.bits? = none ∧
      Call.pulseInit.perform.run reached =
        .ok (.error (.widthNotConfigured .qbus), reached)) ∧
    (∃ results reached answers stopped,
      session [.configure 22, .configure 16, .configure 20] brokenQbus =
        .ok (results, reached) ∧
      reached.bits? = some 16 ∧
      (Call.configure 17).perform.run reached =
        .ok (.error (.unsupportedWidth .qbus 17), reached) ∧
      session [.transfers 0 [.transfer true .dataIn 0 (.sink #[0])]] reached =
        .ok (answers, stopped) ∧
      answers.map faultsOf = [[.transport "mailbox closed"]] ∧
      ∀ result ∈ answers, ∀ asked,
        .widthNotConfigured asked ∉ faultsOf result) := by
  have opened : brokenQbus.withConfig {} = .ok brokenQbus := rfl
  constructor
  · obtain ⟨⟨results, reached⟩, ran, unconfigured⟩ := exists_of_observed
      (by decide +kernel :
        (session [.powerCycle, .configure 17] brokenQbus).toOption.map
          (fun reached => reached.2.bits?) = some none)
    have gate := width_gate opened ran
    exact ⟨results, reached, ran, unconfigured,
      gate.2.2.2.2.1 unconfigured .pulseInit (fun _ => nofun)⟩
  · obtain ⟨⟨answers, stopped⟩, ran, broken⟩ := exists_of_observed
      (by decide +kernel :
        ((do
          let _ ← session [.configure 22, .configure 16, .configure 20]
          session [.transfers 0 [.transfer true .dataIn 0 (.sink #[0])]] :
            Timed (Bus ScriptedBus) _) brokenQbus).toOption.map
          (fun reached => reached.1.map faultsOf) =
            some [[.transport "mailbox closed"]])
    obtain ⟨results, reached, first, later⟩ := Timed.bind_eq_ok.mp ran
    have gate := width_gate opened first
    have bits : reached.bits? = some 16 := gate.2.1
    have hasBits : reached.bits? ≠ none := by
      rw [bits]
      nofun
    have pastGate := ScriptedBus.failsOnly.mono fun _ =>
      BusError.OfChannel.pastGate
    exact ⟨results, reached, answers, stopped, first, bits,
      gate.2.2.2.1 17 (by decide), later, broken,
      gate.2.2.2.2.2 hasBits pastGate _ _ _ later⟩

end Bus

end Backplane
