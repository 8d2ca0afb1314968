import Backplane.Proofs.Dma.Faults
import Backplane.Proofs.Exerciser.ExactReport

/-!
# Sessions with an exerciser

A session performs tasks on one engine, one after the other: sizings of the
memory and runs of the two exercisers.  A task fails in the ways in which its
engine does, and no block of a run is refused once its range was accepted.
-/

namespace Backplane.Exerciser

open Dma

inductive Task where
  | size
  | run (range : AddressRange) (mode : Mode) (cancelAfter : Nat)

inductive Answer where
  | sized (reply : Except BusError Nat)
  | ran (reply : Except BusError Report)

/-- The fault that an answer brings back. -/
def Answer.fault? : Answer → Option BusError
  | sized (.error fault) | ran (.error fault) => some fault
  | sized (.ok _) | ran (.ok _) => none

namespace Task

variable {σ γ : Type} [Transport σ] [RandomSource γ]

def perform : Task → Timed (Engine σ γ) Answer
  | size => Answer.sized <$> probeSize
  | run range mode cancelAfter =>
    Answer.ran <$> Exerciser.run range mode cancelAfter

def session (tasks : List Task) : Timed (Engine σ γ) (List Answer) :=
  tasks.mapM perform

end Task

section Faults

variable {σ γ : Type} [Transport σ] {allowed : BusError → Prop}
  {engine stopped : Engine σ γ} {fault : BusError}

theorem probeSize_engineFault (only : Transport.FailsOnly σ allowed)
    (failed : probeSize engine = .ok (.error fault, stopped)) :
    EngineFault allowed fault := by
  obtain ⟨_, outcome, _, _, reading, result, _⟩ := readRange_of_probeSize failed
  cases outcome with
  | ok _ => cases result
  | error refusal =>
      have known := Engine.moveRange_engineFault only reading
      cases refusal with
      | timeout address => cases result
      | _ =>
          cases result
          exact known

theorem checkRange_refusal {width : AddressWidth} {range : AddressRange}
    (refused : checkRange width range = .error fault) :
    ∃ refusal, fault = .invalidRequest refusal := by
  unfold checkRange at refused
  split at refused
  · cases refused
    exact ⟨_, rfl⟩
  · split at refused <;> cases refused
    exact ⟨_, rfl⟩

/-- The engine takes on a range with both buffers of a run. -/
structure TakesOn (range : AddressRange) (engine : Engine σ γ)
    (buffers : Buffers) : Prop where
  accepted : checkRange engine.width range = .ok ()
  covering : Covering range buffers

variable {range : AddressRange} {buffers after : Buffers}
  {report reached : Report} {fault? : Option BusError}

theorem AddressPass.blockFault (only : Transport.FailsOnly σ allowed)
    (pass : AddressPass range engine buffers report after reached
      fault? stopped)
    (takesOn : TakesOn range engine buffers) :
    TakesOn range stopped after ∧
    ∀ fault ∈ fault?, BlockFault allowed fault := by
  have accepted := engine_checkRange takesOn.accepted takesOn.covering.readback
  have covering :=
    (addressPass_reports range takesOn.covering (addressPass_eq_ok.mpr pass)).1
  cases pass with
  | unread reading =>
      have known := Engine.moveRange_blockFault only accepted reading
      obtain ⟨_, _, rfl⟩ := Engine.moveRange_frame reading
      exact ⟨⟨takesOn.accepted, covering⟩,
        fun _ same => Option.some.inj same ▸ known⟩
  | compared reading =>
      obtain ⟨_, _, rfl⟩ := Engine.moveRange_frame reading
      refine ⟨⟨?_, covering⟩, nofun⟩
      rw [Engine.notedAll_width]
      exact takesOn.accepted

variable [RandomSource γ]

theorem RandomPass.blockFault (only : Transport.FailsOnly σ allowed)
    (pass : RandomPass range engine buffers report after reached fault? stopped)
    (takesOn : TakesOn range engine buffers) :
    TakesOn range stopped after ∧
    ∀ fault ∈ fault?, BlockFault allowed fault := by
  have drawn : (drawnWords engine range buffers.pattern).size =
      range.lastWord + 1 :=
    (size_randomWords _ _ _ _).trans takesOn.covering.pattern
  have covering :=
    (randomPass_reports range takesOn.covering (randomPass_eq_ok.mpr pass)).1
  have written : Engine.checkRange
      (afterDraw engine range buffers.pattern).width range
      (drawnWords engine range buffers.pattern).size = .ok () :=
    engine_checkRange takesOn.accepted drawn
  have read := engine_checkRange takesOn.accepted takesOn.covering.readback
  cases pass with
  | unwritten writing =>
      have known := Engine.accessRandom_blockFault only written writing
      obtain ⟨_, _, _, rfl⟩ := Engine.accessRandom_frame writing
      exact ⟨⟨takesOn.accepted, covering⟩,
        fun _ same => Option.some.inj same ▸ known⟩
  | unread writing reading =>
      obtain ⟨_, _, _, rfl⟩ := Engine.accessRandom_frame writing
      have known := Engine.accessRandom_blockFault only (by exact read) reading
      obtain ⟨_, _, _, rfl⟩ := Engine.accessRandom_frame reading
      exact ⟨⟨takesOn.accepted, covering⟩,
        fun _ same => Option.some.inj same ▸ known⟩
  | compared writing reading =>
      obtain ⟨_, _, _, rfl⟩ := Engine.accessRandom_frame writing
      obtain ⟨_, _, _, rfl⟩ := Engine.accessRandom_frame reading
      refine ⟨⟨?_, covering⟩, nofun⟩
      rw [Engine.notedAll_width]
      exact takesOn.accepted

theorem RunTrace.blockFault (only : Transport.FailsOnly σ allowed)
    {cancelAfter : Nat} {mode : Mode} {passes : List Buffers}
    (trace : RunTrace range cancelAfter engine mode passes report
      fault? stopped)
    (accepted : checkRange engine.width range = .ok ()) :
    ∀ fault ∈ fault?, BlockFault allowed fault := by
  have sized : (addressPattern (range.lastWord + 1)).size =
      range.lastWord + 1 :=
    size_addressPattern _
  cases trace with
  | unwritten writing =>
      have known := Engine.moveRange_blockFault
        only (engine_checkRange accepted sized) writing
      exact fun _ same => Option.some.inj same ▸ known
  | @address pattern written _ _ _ _ writing trace =>
      have takesOn : TakesOn range written ⟨pattern, blankBuffer range⟩ := by
        obtain ⟨_, _, rfl⟩ := Engine.moveRange_frame writing
        exact ⟨accepted, (Engine.size_moveRange writing).trans sized,
          size_blankBuffer range⟩
      refine trace.fault_of_pass (fun _ _ _ _ _ _ _ between ran => ?_) takesOn
      exact (addressPass_eq_ok.mp ran).blockFault only between
  | random trace =>
      have takesOn : TakesOn range engine
          ⟨blankBuffer range, blankBuffer range⟩ :=
        ⟨accepted, covering_blank range⟩
      refine trace.fault_of_pass (fun _ _ _ _ _ _ _ between ran => ?_) takesOn
      exact (randomPass_eq_ok.mp ran).blockFault only between

/-- A run of an accepted range fails only as its transport does. -/
theorem run_reported (only : Transport.FailsOnly σ allowed) {mode : Mode}
    {cancelAfter : Nat} (accepted : checkRange engine.width range = .ok ())
    (failed : run range mode cancelAfter engine = .ok (.error fault, stopped)) :
    allowed fault := by
  obtain ⟨_, fault?, _, ⟨_, trace⟩, result, _⟩ := (run_eq_ok accepted).mp failed
  have known := trace.blockFault only accepted
  cases fault? with
  | none => cases result
  | some runFault =>
      cases known runFault rfl with
      | silent address => cases result
      | reported own =>
          cases runFault with
          | timeout address => cases result
          | _ =>
              cases result
              exact own

theorem run_engineFault (only : Transport.FailsOnly σ allowed) {mode : Mode}
    {cancelAfter : Nat}
    (failed : run range mode cancelAfter engine = .ok (.error fault, stopped)) :
    EngineFault allowed fault := by
  cases checked : checkRange engine.width range with
  | error refused =>
      rw [run_of_refused checked] at failed
      cases failed
      obtain ⟨refusal, rfl⟩ := checkRange_refusal checked
      exact .refused refusal
  | ok _ => exact .reported (run_reported only checked failed)

theorem Task.perform_engineFault (only : Transport.FailsOnly σ allowed)
    {task : Task} {answer : Answer}
    (performed : task.perform engine = .ok (answer, stopped)) :
    ∀ fault ∈ answer.fault?, EngineFault allowed fault := by
  intro fault failed
  cases task with
  | size =>
      obtain ⟨reply, ran, rfl⟩ := Timed.map_eq_ok.mp performed
      cases reply <;> cases failed
      exact probeSize_engineFault only ran
  | run =>
      obtain ⟨reply, ran, rfl⟩ := Timed.map_eq_ok.mp performed
      cases reply <;> cases failed
      exact run_engineFault only ran

end Faults

end Backplane.Exerciser
