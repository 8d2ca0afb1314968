import Backplane.Proofs.Dma.Session
import Backplane.Proofs.Exerciser.Session

/-!
# Conducts of an exerciser

An exerciser asks nothing of the bus but accesses of checked ranges.  Its
passes, its runs and the sizing of memory are therefore conducts of the engine
below, and so is a workload: calls on an engine and tasks for an exerciser in
any order.
-/

namespace Backplane.Exerciser

open Dma Dma.Engine

section Runs

variable {σ γ : Type} [Transport σ] {engine stopped : Engine σ γ}

theorem probeSize_conducted {result : Except BusError Nat}
    (ran : probeSize engine = .ok (result, stopped)) :
    Conducted false engine stopped := by
  obtain ⟨_, _, middle, events, reading, _, rfl⟩ := readRange_of_probeSize ran
  exact (moveRange_conducted reading).trans (.notedAll middle events)

variable {range : AddressRange} {buffers after : Buffers}
  {report reached : Report} {fault? : Option BusError}

theorem AddressPass.conducted
    (pass : AddressPass range engine buffers report after reached
      fault? stopped) :
    Conducted false engine stopped := by
  cases pass with
  | unread reading => exact moveRange_conducted reading
  | compared reading =>
      exact (moveRange_conducted reading).trans (.notedAll _ _)

variable [RandomSource γ]

theorem RandomPass.conducted
    (pass : RandomPass range engine buffers report after reached
      fault? stopped) :
    Conducted false engine stopped := by
  cases pass with
  | unwritten writing => exact (accessRandom_conducted writing).drawn
  | unread writing reading =>
      have written := (accessRandom_conducted writing).drawn
      exact written.trans (accessRandom_conducted reading)
  | compared writing reading =>
      have written := (accessRandom_conducted writing).drawn
      exact (written.trans (accessRandom_conducted reading)).trans
        (.notedAll _ _)

omit [RandomSource γ] in
/-- What a pass does once, a row of passes does again and again. -/
theorem PassTrace.conducted {requestLimit : Nat} {pass : Pass σ γ}
    {passes : List Buffers} {last : Report}
    (each : ∀ ⦃engine stopped buffers report outcome⦄,
      pass buffers report engine = .ok (outcome, stopped) →
        Conducted false engine stopped)
    (trace : PassTrace requestLimit pass engine buffers report passes last
      fault? stopped) :
    Conducted false engine stopped := by
  induction trace with
  | cancelled => exact .refl _
  | broken _ ran => exact each ran
  | differs _ ran => exact each ran
  | next _ ran _ _ induction => exact (each ran).trans induction

theorem RunTrace.conducted {cancelAfter : Nat} {mode : Mode}
    {passes : List Buffers}
    (trace : RunTrace range cancelAfter engine mode passes report
      fault? stopped) :
    Conducted false engine stopped := by
  cases trace with
  | unwritten writing => exact moveRange_conducted writing
  | address writing trace =>
      apply (moveRange_conducted writing).trans
      exact trace.conducted fun _ _ _ _ _ ran =>
        (addressPass_eq_ok.mp ran).conducted
  | random trace =>
      exact trace.conducted fun _ _ _ _ _ ran =>
        (randomPass_eq_ok.mp ran).conducted

theorem run_conducted {mode : Mode} {cancelAfter : Nat}
    {result : Except BusError Report}
    (ran : run range mode cancelAfter engine = .ok (result, stopped)) :
    Conducted false engine stopped := by
  cases checked : checkRange engine.width range with
  | error fault =>
      rw [run_of_refused checked] at ran
      cases ran
      exact .refl engine
  | ok _ =>
      obtain ⟨_, _, last, ⟨_, trace⟩, _, rfl⟩ := (run_eq_ok checked).mp ran
      exact trace.conducted.noted.trans (.notedAll _ _)

theorem Task.perform_conducted {task : Task} {answer : Answer}
    (performed : task.perform engine = .ok (answer, stopped)) :
    Conducted false engine stopped := by
  cases task with
  | size =>
      obtain ⟨_, ran, _⟩ := Timed.map_eq_ok.mp performed
      exact probeSize_conducted ran
  | run =>
      obtain ⟨_, ran, _⟩ := Timed.map_eq_ok.mp performed
      exact run_conducted ran

theorem Task.session_conducted {tasks : List Task} {answers : List Answer}
    (ran : Task.session tasks engine = .ok (answers, stopped)) :
    Conducted false engine stopped :=
  .of_mapM (fun _ _ _ _ _ performed => Task.perform_conducted performed) ran

end Runs

/-! ## Workloads -/

/-- One use of an engine: a call of its own, or a task for an exerciser on
it. -/
inductive Work where
  | direct (call : Dma.Call)
  | exercise (task : Task)

namespace Work

variable {σ γ : Type} [Transport σ] [RandomSource γ]

def perform : Work → Timed (Engine σ γ) (Dma.Answer ⊕ Answer)
  | direct call => Sum.inl <$> call.perform
  | exercise task => Sum.inr <$> task.perform

def session (works : List Work) :
    Timed (Engine σ γ) (List (Dma.Answer ⊕ Answer)) :=
  works.mapM perform

def isBare : Work → Bool
  | direct call => call.isBare
  | exercise _ => false

variable {engine stopped : Engine σ γ}

theorem perform_conducted {work : Work} {answer : Dma.Answer ⊕ Answer}
    (performed : work.perform engine = .ok (answer, stopped)) :
    Conducted work.isBare engine stopped := by
  cases work with
  | direct call =>
      obtain ⟨_, ran, _⟩ := Timed.map_eq_ok.mp performed
      exact Dma.Call.perform_conducted ran
  | exercise task =>
      obtain ⟨_, ran, _⟩ := Timed.map_eq_ok.mp performed
      exact Task.perform_conducted ran

theorem session_conducted {works : List Work}
    {answers : List (Dma.Answer ⊕ Answer)}
    (ran : session works engine = .ok (answers, stopped)) :
    Conducted true engine stopped :=
  .of_mapM (fun _ _ _ _ _ performed => (perform_conducted performed).mono
    fun _ => rfl) ran

end Work

end Backplane.Exerciser
