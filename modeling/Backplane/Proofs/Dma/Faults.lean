import Backplane.Proofs.Dma.Coverage
import Backplane.Transport.Scripted

/-!
# Faults of an engine

An operation of an engine has few ways to fail: the request was refused, an
address stayed silent, or the transport failed.  What was accepted once is never
refused later on.  By its contract a transport fails only because its channel
broke.
-/

namespace Backplane

/-- The faults with which the operations of a transport can come back. -/
structure Transport.FailsOnly (σ : Type) [Transport σ]
    (allowed : BusError → Prop) : Prop where
  submit (request : Dma.Request) :
    Op.FailsOnly (Transport.submit request : Op σ Dma.Reply) allowed
  setSignal (signal : Signal) (asserted : Bool) :
    Op.FailsOnly (Transport.setSignal signal asserted : Op σ Unit) allowed
  sampleGrants : Op.FailsOnly (Transport.sampleGrants : Op σ GrantMask) allowed

theorem Transport.FailsOnly.mono {σ : Type} [Transport σ]
    {allowed wider : BusError → Prop} (only : Transport.FailsOnly σ allowed)
    (widened : ∀ fault, allowed fault → wider fault) :
    Transport.FailsOnly σ wider where
  submit request := (only.submit request).mono widened
  setSignal signal asserted := (only.setSignal signal asserted).mono widened
  sampleGrants := only.sampleGrants.mono widened

/-- A fault of the channel to the bus. -/
def BusError.OfChannel (fault : BusError) : Prop :=
  ∃ reason, fault = .transport reason

/-- A simulated bus never fails. -/
theorem SimulatedBus.failsOnly :
    Transport.FailsOnly SimulatedBus BusError.OfChannel where
  submit _ := .liftM _
  setSignal _ _ := .liftM _
  sampleGrants := (Op.FailsOnly.liftM _).bind fun _ => .pure _

/-- A script breaks the channel and does nothing else to it. -/
theorem ScriptedBus.failsOnly :
    Transport.FailsOnly ScriptedBus BusError.OfChannel where
  submit request := by
    intro start fault stop failed
    change ScriptedBus.submit request start = _ at failed
    unfold ScriptedBus.submit at failed
    dsimp only at failed
    split at failed
    · cases failed
      exact ⟨_, rfl⟩
    · obtain ⟨_, _, impossible⟩ := except_bind_eq_ok.mp failed
      cases impossible
  setSignal signal asserted := by
    intro start fault stop failed
    change ScriptedBus.setSignal signal asserted start = _ at failed
    unfold ScriptedBus.setSignal at failed
    split at failed
    · cases failed
      exact ⟨_, rfl⟩
    · cases failed
  sampleGrants := by
    intro start fault stop failed
    change ScriptedBus.sampleGrants start = _ at failed
    unfold ScriptedBus.sampleGrants at failed
    split at failed
    · cases failed
      exact ⟨_, rfl⟩
    · cases failed

namespace Dma

/-- The ways in which an operation of an engine fails on a transport with the
faults allowed. -/
inductive EngineFault (allowed : BusError → Prop) : BusError → Prop where
  | refused (fault : RequestFault) : EngineFault allowed (.invalidRequest fault)
  | silent (address : Nat) : EngineFault allowed (.timeout address)
  | reported {fault : BusError} (own : allowed fault) :
      EngineFault allowed fault

/-- The ways in which a block fails that was accepted. -/
inductive BlockFault (allowed : BusError → Prop) : BusError → Prop where
  | silent (address : Nat) : BlockFault allowed (.timeout address)
  | reported {fault : BusError} (own : allowed fault) : BlockFault allowed fault

variable {allowed : BusError → Prop}

theorem BlockFault.engineFault {fault : BusError}
    (known : BlockFault allowed fault) : EngineFault allowed fault := by
  cases known with
  | silent address => exact .silent address
  | reported own => exact .reported own

theorem Request.ofBuffer_refusal {slot : Nat} {cycle : Cycle} {start : Nat}
    {buffer : Buffer} {blocking : Bool} {fault : BusError}
    (refused : ofBuffer slot cycle start buffer blocking = .error fault) :
    ∃ refusal, fault = .invalidRequest refusal := by
  unfold ofBuffer at refused
  split at refused
  · cases refused
    exact ⟨_, rfl⟩
  · split at refused
    · cases refused
      exact ⟨_, rfl⟩
    · split at refused <;> cases refused
      exact ⟨_, rfl⟩

theorem Submission.Answered.blockFault {σ : Type} [Transport σ]
    (only : Transport.FailsOnly σ allowed) {submission : Submission σ}
    {moved : Array UInt16} {fault : BusError}
    (answered : submission.Answered moved (.error fault)) :
    BlockFault allowed fault := by
  cases answered with
  | timedOut _ _ => exact .silent _
  | failed answer => exact .reported (only.submit _ answer)

namespace Engine

theorem checkRange_refusal {width : AddressWidth} {range : AddressRange}
    {words : Nat} {fault : BusError}
    (refused : checkRange width range words = .error fault) :
    ∃ refusal, fault = .invalidRequest refusal := by
  unfold checkRange at refused
  split at refused
  · cases refused
    exact ⟨_, rfl⟩
  · split at refused
    · cases refused
      exact ⟨_, rfl⟩
    · split at refused <;> cases refused
      exact ⟨_, rfl⟩

variable {σ γ : Type} [Transport σ] {engine stopped : Engine σ γ}
  {fault : BusError}

section Transfers

variable {blocking : Bool} {cycle : Cycle} {start : Nat} {buffer : Buffer}

theorem transfer_reported (only : Transport.FailsOnly σ allowed)
    {request : Request}
    (built : Request.ofBuffer engine.config.slot cycle start buffer blocking =
      .ok request)
    (failed : transfer blocking cycle start buffer engine =
      .ok (.error fault, stopped)) :
    allowed fault := by
  obtain ⟨_, _, answer, same, _⟩ | ⟨_, _, _, _, _, _, _, impossible, _⟩ :=
    (transfer_submitted_eq_ok built).mp failed
  · cases same
    exact only.submit request answer
  · cases impossible

theorem transfer_engineFault (only : Transport.FailsOnly σ allowed)
    (failed : transfer blocking cycle start buffer engine =
      .ok (.error fault, stopped)) :
    EngineFault allowed fault := by
  cases built : Request.ofBuffer engine.config.slot cycle start
    buffer blocking with
  | error refused =>
      rw [transfer_of_refused built] at failed
      cases failed
      obtain ⟨refusal, rfl⟩ := Request.ofBuffer_refusal built
      exact .refused refusal
  | ok request => exact .reported (transfer_reported only built failed)

end Transfers

section Ranges

variable {cycle : Cycle} {buffer moved : Array UInt16} {range : AddressRange}

theorem moveRange_blockFault (only : Transport.FailsOnly σ allowed)
    (accepted : checkRange engine.width range buffer.size = .ok ())
    (failed : moveRange cycle buffer range engine =
      .ok ((moved, .error fault), stopped)) :
    BlockFault allowed fault := by
  obtain ⟨_, step⟩ := (moveRange_eq_ok accepted).mp failed
  exact (step.answered (acceptedWords accepted).slice).blockFault only

theorem moveRange_engineFault (only : Transport.FailsOnly σ allowed)
    (failed : moveRange cycle buffer range engine =
      .ok ((moved, .error fault), stopped)) :
    EngineFault allowed fault := by
  cases checked : checkRange engine.width range buffer.size with
  | error refused =>
      rw [moveRange_of_refused checked] at failed
      cases failed
      obtain ⟨refusal, rfl⟩ := checkRange_refusal checked
      exact .refused refusal
  | ok _ => exact (moveRange_blockFault only checked failed).engineFault

variable [RandomSource γ]

/-- A random access fails as the last submission of its course does. -/
theorem accessRandom_blockFault (only : Transport.FailsOnly σ allowed)
    (accepted : checkRange engine.width range buffer.size = .ok ())
    (failed : accessRandom cycle buffer range engine =
      .ok ((moved, .error fault), stopped)) : BlockFault allowed fault := by
  obtain ⟨submissions, final, ended, course⟩ :=
    exists_course_of_accepted cycle accepted
  rw [course.accessRandom_eq accepted] at failed
  cases ended with
  | error overflow => cases failed
  | ok done =>
      obtain ⟨⟨_, outcome⟩, _⟩ := done
      obtain ⟨answered, _⟩ := course.final_answered.2 _ _ _ rfl
      cases outcome with
      | ok _ => cases failed
      | error _ =>
          cases failed
          exact answered.blockFault only

theorem accessRandom_engineFault (only : Transport.FailsOnly σ allowed)
    (failed : accessRandom cycle buffer range engine =
      .ok ((moved, .error fault), stopped)) :
    EngineFault allowed fault := by
  cases checked : checkRange engine.width range buffer.size with
  | error refused =>
      rw [accessRandom_of_refused checked] at failed
      cases failed
      obtain ⟨refusal, rfl⟩ := checkRange_refusal checked
      exact .refused refusal
  | ok _ => exact (accessRandom_blockFault only checked failed).engineFault

end Ranges

end Engine

end Dma

end Backplane
