import Backplane.Proofs.Dma.Faults
import Backplane.Proofs.Dma.Ledger

/-!
# Sessions with an engine

A session makes calls on one engine, one after the other, whether or not those
before were refused or timed out.  A call fails in the ways in which its engine
does.  On a simulated bus every call keeps a ledger, so a session does.
-/

namespace Backplane.Dma

inductive Call where
  | transfer (blocking : Bool) (cycle : Cycle) (start : Nat) (buffer : Buffer)
  | writeRange (buffer : Array UInt16) (range : AddressRange)
  | readRange (buffer : Array UInt16) (range : AddressRange)
  | accessRandom (cycle : Cycle) (buffer : Array UInt16) (range : AddressRange)
  | takeCompletion

inductive Answer where
  | transferred (reply : Except BusError (Option Completion × Array UInt16))
  | moved (reply : Array UInt16 × Except BusError Unit)
  | accessed (reply : Array UInt16 × Except BusError Nat)
  | collected (completion? : Option Completion)

/-- The fault that an answer brings back. -/
def Answer.fault? : Answer → Option BusError
  | transferred (.error fault) | moved (_, .error fault)
  | accessed (_, .error fault) => some fault
  | transferred (.ok _) | moved (_, .ok _) | accessed (_, .ok _)
  | collected _ => none

namespace Call

variable {γ : Type} [RandomSource γ]

def perform {σ : Type} [Transport σ] : Call → Timed (Engine σ γ) Answer
  | transfer blocking cycle start buffer =>
    Answer.transferred <$> Engine.transfer blocking cycle start buffer
  | writeRange buffer range => Answer.moved <$> Engine.writeRange buffer range
  | readRange buffer range => Answer.moved <$> Engine.readRange buffer range
  | accessRandom cycle buffer range =>
    Answer.accessed <$> Engine.accessRandom cycle buffer range
  | takeCompletion => Answer.collected <$> Engine.takeCompletion

def session {σ : Type} [Transport σ] (calls : List Call) :
    Timed (Engine σ γ) (List Answer) :=
  calls.mapM perform

open Engine

theorem perform_engineFault {σ : Type} [Transport σ] {allowed : BusError → Prop}
    (only : Transport.FailsOnly σ allowed) {call : Call}
    {engine stopped : Engine σ γ} {answer : Answer}
    (performed : call.perform engine = .ok (answer, stopped)) :
    ∀ fault ∈ answer.fault?, EngineFault allowed fault := by
  intro fault failed
  cases call with
  | transfer =>
      obtain ⟨reply, ran, rfl⟩ := Timed.map_eq_ok.mp performed
      cases reply <;> cases failed
      exact transfer_engineFault only ran
  | writeRange | readRange =>
      obtain ⟨⟨_, outcome⟩, ran, rfl⟩ := Timed.map_eq_ok.mp performed
      cases outcome <;> cases failed
      exact moveRange_engineFault only ran
  | accessRandom =>
      obtain ⟨⟨_, outcome⟩, ran, rfl⟩ := Timed.map_eq_ok.mp performed
      cases outcome <;> cases failed
      exact accessRandom_engineFault only ran
  | takeCompletion =>
      cases performed
      cases failed

/-- Only a bare transfer takes its address unchecked. -/
def isBare : Call → Bool
  | transfer .. => true
  | writeRange .. | readRange .. | accessRandom .. | takeCompletion => false

theorem perform_conducted {σ : Type} [Transport σ] {call : Call}
    {engine stopped : Engine σ γ} {answer : Answer}
    (ran : call.perform engine = .ok (answer, stopped)) :
    Conducted call.isBare engine stopped := by
  cases call with
  | transfer =>
      obtain ⟨_, ran, _⟩ := Timed.map_eq_ok.mp ran
      exact transfer_conducted ran
  | writeRange | readRange =>
      obtain ⟨_, ran, _⟩ := Timed.map_eq_ok.mp ran
      exact moveRange_conducted ran
  | accessRandom =>
      obtain ⟨_, ran, _⟩ := Timed.map_eq_ok.mp ran
      exact accessRandom_conducted ran
  | takeCompletion =>
      obtain ⟨_, ran, _⟩ := Timed.map_eq_ok.mp ran
      exact takeCompletion_conducted ran

theorem session_conducted {σ : Type} [Transport σ] {calls : List Call}
    {engine stopped : Engine σ γ} {answers : List Answer}
    (ran : session calls engine = .ok (answers, stopped)) :
    Conducted (calls.any isBare) engine stopped := by
  refine .of_mapM (fun call member _ _ _ performed => ?_) ran
  apply (perform_conducted performed).mono
  intro bare
  exact List.any_eq_true.mpr ⟨call, member, bare⟩

theorem session_ledger {calls : List Call} {answers : List Answer}
    {engine stopped : Engine SimulatedBus γ}
    (ran : session calls engine = .ok (answers, stopped)) :
    ∃ completions, Ledger engine completions stopped := by
  obtain ⟨_, conduct⟩ := session_conducted ran
  obtain ⟨completions, _, ledger⟩ :=
    conduct.ledger (fun _ => Request.Lawful.proper) rfl
  exact ⟨completions, ledger⟩

end Call

end Backplane.Dma
