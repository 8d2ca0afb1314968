import Backplane.Proofs.Dma.Session
import Backplane.Proofs.Exerciser.Session

/-!
# Refused calls

A call is refused just for what its arguments say about it: nothing that was
accepted is refused later on, whatever the blocks are that it is cut into.  A
refused call leaves the engine and the buffer of its caller as they were, and a
call whose only request fails leaves at least the engine so, apart from the
transport.
-/

namespace Backplane

/-- No range of words of the address space. -/
def AddressRange.Malformed (width : AddressWidth) (range : AddressRange) :
    Prop :=
  range.first % 2 = 1 ∨ range.last % 2 = 1 ∨ range.last < range.first ∨
    width.maxAddress < range.last

instance (width : AddressWidth) (range : AddressRange) :
    Decidable (range.Malformed width) :=
  inferInstanceAs (Decidable (_ ∨ _ ∨ _ ∨ _))

/-- A fault that refuses nothing. -/
def BusError.RefusesNothing (fault : BusError) : Prop :=
  ∀ refusal, fault ≠ .invalidRequest refusal

namespace Dma

open Engine

theorem BlockFault.refusesNothing {fault : BusError}
    (known : BlockFault BusError.RefusesNothing fault) :
    fault.RefusesNothing := by
  cases known with
  | silent address => exact nofun
  | reported own => exact own

theorem Request.ofBuffer_of_wellFormed {slot : Nat} {cycle : Cycle}
    {start : Nat} {buffer : Buffer} {blocking : Bool}
    (wellFormed :
      ¬ (buffer.isSink ≠ cycle.isRead ∨ buffer.words.size = 0 ∨
        start % 2 = 1)) :
    ofBuffer slot cycle start buffer blocking =
      .ok ⟨slot, cycle, start, buffer, blocking⟩ := by
  obtain ⟨faces, inhabited, even⟩ : ¬ buffer.isSink ≠ cycle.isRead ∧
      ¬ buffer.words.size = 0 ∧ ¬ start % 2 = 1 := by
    simpa only [not_or] using wellFormed
  exact ofBuffer_eq_ok.mpr
    ⟨Decidable.not_not.mp faces, Nat.pos_of_ne_zero inhabited, by omega, rfl⟩

theorem Request.ofBuffer_of_malformed {slot : Nat} {cycle : Cycle} {start : Nat}
    {buffer : Buffer} {blocking : Bool}
    (malformed : buffer.isSink ≠ cycle.isRead ∨ buffer.words.size = 0 ∨
      start % 2 = 1) :
    ∃ refusal, ofBuffer slot cycle start buffer blocking =
      .error (.invalidRequest refusal) := by
  cases built : ofBuffer slot cycle start buffer blocking with
  | error fault =>
      obtain ⟨refusal, rfl⟩ := ofBuffer_refusal built
      exact ⟨refusal, rfl⟩
  | ok request =>
      obtain ⟨faces, inhabited, even, _⟩ := ofBuffer_eq_ok.mp built
      obtain backward | empty | odd := malformed
      · exact absurd faces backward
      · omega
      · omega

namespace Engine

variable {width : AddressWidth} {range : AddressRange} {bufferWords : Nat}

theorem checkRange_eq_ok_iff :
    checkRange width range bufferWords = .ok () ↔
      ¬ (range.Malformed width ∨ bufferWords ≤ range.last / 2) := by
  rw [checkRange_eq_ok, AddressRange.isWellFormed_iff, AddressRange.Malformed,
    AddressRange.lastWord]
  omega

theorem checkRange_of_malformed
    (malformed : range.Malformed width ∨ bufferWords ≤ range.last / 2) :
    ∃ refusal, checkRange width range bufferWords =
      .error (.invalidRequest refusal) := by
  cases checked : checkRange width range bufferWords with
  | error fault =>
      obtain ⟨refusal, rfl⟩ := checkRange_refusal checked
      exact ⟨refusal, rfl⟩
  | ok _ => exact absurd malformed (checkRange_eq_ok_iff.mp checked)

end Engine

namespace Call

/-- What a call is to be refused for. -/
def Malformed (width : AddressWidth) : Call → Prop
  | transfer _ cycle start buffer =>
    buffer.isSink ≠ cycle.isRead ∨ buffer.words.size = 0 ∨ start % 2 = 1
  | writeRange buffer range | readRange buffer range
      | accessRandom _ buffer range =>
    range.Malformed width ∨ buffer.size ≤ range.last / 2
  | takeCompletion => False

instance (width : AddressWidth) :
    (call : Call) → Decidable (call.Malformed width)
  | transfer .. => inferInstanceAs (Decidable (_ ≠ _ ∨ _ ∨ _))
  | writeRange .. | readRange .. | accessRandom .. =>
    inferInstanceAs (Decidable (_ ∨ _))
  | takeCompletion => inferInstanceAs (Decidable False)

/-- How a call comes back that was refused: its caller keeps the buffer as it
was. -/
inductive Refused (refusal : RequestFault) : Call → Answer → Prop where
  | transfer {blocking : Bool} {cycle : Cycle} {start : Nat} {buffer : Buffer} :
      Refused refusal (transfer blocking cycle start buffer)
        (.transferred (.error (.invalidRequest refusal)))
  | writeRange {buffer : Array UInt16} {range : AddressRange} :
      Refused refusal (writeRange buffer range)
        (.moved (buffer, .error (.invalidRequest refusal)))
  | readRange {buffer : Array UInt16} {range : AddressRange} :
      Refused refusal (readRange buffer range)
        (.moved (buffer, .error (.invalidRequest refusal)))
  | accessRandom {cycle : Cycle} {buffer : Array UInt16}
      {range : AddressRange} :
      Refused refusal (accessRandom cycle buffer range)
        (.accessed (buffer, .error (.invalidRequest refusal)))

/-- The request of a call that submits just one. -/
def request? {σ γ : Type} (engine : Engine σ γ) : Call → Option Request
  | transfer blocking cycle start buffer =>
    some ⟨engine.config.slot, cycle, start, buffer, blocking⟩
  | writeRange buffer range =>
    some (engine.blockRequest .dataOut buffer range.first range.wordCount)
  | readRange buffer range =>
    some (engine.blockRequest .dataIn buffer range.first range.wordCount)
  | accessRandom .. | takeCompletion => none

variable {σ γ : Type} [Transport σ] [RandomSource γ]
  {engine stopped : Engine σ γ} {call : Call} {answer : Answer}

theorem refused_of_malformed (malformed : call.Malformed engine.width) :
    ∃ refusal answer, call.perform engine = .ok (answer, engine) ∧
      call.Refused refusal answer := by
  cases call with
  | transfer blocking cycle start buffer =>
      obtain ⟨refusal, refused⟩ := Request.ofBuffer_of_malformed malformed
      exact ⟨refusal, _, Timed.map_eq_ok.mpr
        ⟨_, transfer_of_refused refused, rfl⟩, .transfer⟩
  | writeRange buffer range =>
      obtain ⟨refusal, refused⟩ := checkRange_of_malformed malformed
      exact ⟨refusal, _, Timed.map_eq_ok.mpr
        ⟨_, moveRange_of_refused refused, rfl⟩, .writeRange⟩
  | readRange buffer range =>
      obtain ⟨refusal, refused⟩ := checkRange_of_malformed malformed
      exact ⟨refusal, _, Timed.map_eq_ok.mpr
        ⟨_, moveRange_of_refused refused, rfl⟩, .readRange⟩
  | accessRandom cycle buffer range =>
      obtain ⟨refusal, refused⟩ := checkRange_of_malformed malformed
      exact ⟨refusal, _, Timed.map_eq_ok.mpr
        ⟨_, accessRandom_of_refused refused, rfl⟩, .accessRandom⟩
  | takeCompletion => exact malformed.elim

/-- A transport that refuses nothing itself leaves all refusals to the
checks. -/
theorem refusesNothing_of_wellFormed
    (contract : Transport.FailsOnly σ BusError.RefusesNothing)
    (wellFormed : ¬ call.Malformed engine.width)
    (performed : call.perform engine = .ok (answer, stopped)) :
    ∀ fault ∈ answer.fault?, fault.RefusesNothing := by
  intro fault failed
  cases call with
  | transfer blocking cycle start buffer =>
      obtain ⟨reply, ran, rfl⟩ := Timed.map_eq_ok.mp performed
      cases reply <;> cases failed
      exact transfer_reported contract
        (Request.ofBuffer_of_wellFormed wellFormed) ran
  | writeRange buffer range | readRange buffer range =>
      obtain ⟨⟨_, outcome⟩, ran, rfl⟩ := Timed.map_eq_ok.mp performed
      cases outcome <;> cases failed
      exact (moveRange_blockFault contract (checkRange_eq_ok_iff.mpr wellFormed)
        ran).refusesNothing
  | accessRandom cycle buffer range =>
      obtain ⟨⟨_, outcome⟩, ran, rfl⟩ := Timed.map_eq_ok.mp performed
      cases outcome <;> cases failed
      exact (accessRandom_blockFault contract
        (checkRange_eq_ok_iff.mpr wellFormed) ran).refusesNothing
  | takeCompletion =>
      cases performed
      cases failed

/-- Behind a request that fails, a call does nothing more. -/
theorem perform_of_failed {request : Request} {fault : BusError} {after : σ}
    (wellFormed : ¬ call.Malformed engine.width)
    (single : call.request? engine = some request)
    (failed : (Transport.submit request).run
      (engine.announced request).transport = .ok (.error fault, after)) :
    ∃ answer,
      call.perform engine = .ok (answer, { engine with transport := after }) ∧
      answer.fault? = some fault := by
  cases call with
  | transfer blocking cycle start buffer =>
      cases single
      have transferred :=
        (transfer_submitted_eq_ok
          (Request.ofBuffer_of_wellFormed wellFormed)).mpr
          (.inl ⟨fault, after, failed, rfl, rfl⟩)
      exact ⟨_, Timed.map_eq_ok.mpr ⟨_, transferred, rfl⟩, rfl⟩
  | writeRange buffer range | readRange buffer range =>
      cases single
      have accepted := checkRange_eq_ok_iff.mpr wellFormed
      have moved := (moveRange_eq_ok accepted).mpr
        (moveBlock_eq_ok.mp
          (moveBlock_of_failed (acceptedWords accepted).slice failed))
      exact ⟨_, Timed.map_eq_ok.mpr ⟨_, moved, rfl⟩, rfl⟩
  | accessRandom | takeCompletion => cases single

end Call

end Dma

namespace Exerciser

open Dma

theorem checkRange_eq_ok_iff {width : AddressWidth} {range : AddressRange} :
    checkRange width range = .ok () ↔ ¬ range.Malformed width := by
  rw [checkRange_eq_ok, AddressRange.isWellFormed_iff, AddressRange.Malformed]
  omega

theorem checkRange_of_malformed {width : AddressWidth} {range : AddressRange}
    (malformed : range.Malformed width) :
    ∃ refusal, checkRange width range = .error (.invalidRequest refusal) := by
  cases checked : checkRange width range with
  | error fault =>
      obtain ⟨refusal, rfl⟩ := checkRange_refusal checked
      exact ⟨refusal, rfl⟩
  | ok _ => exact absurd malformed (checkRange_eq_ok_iff.mp checked)

variable {σ γ : Type} [Transport σ] [RandomSource γ]

/-- Just the malformed calls on an engine and runs of an exerciser are refused,
and these change nothing at all.  A call whose only request fails changes
nothing but the transport, which is left as the request left it. -/
theorem only_malformed_calls_are_refused (engine : Engine σ γ) :
    (∀ call : Call,
      (call.Malformed engine.width → ∃ refusal answer,
        call.perform engine = .ok (answer, engine) ∧
        call.Refused refusal answer) ∧
      (Transport.FailsOnly σ BusError.RefusesNothing → ∀ refusal answer stopped,
        call.perform engine = .ok (answer, stopped) →
        answer.fault? = some (.invalidRequest refusal) →
        call.Malformed engine.width) ∧
      ∀ request fault after, ¬ call.Malformed engine.width →
        call.request? engine = some request →
        (Transport.submit request).run (engine.announced request).transport =
          .ok (.error fault, after) →
        ∃ answer, call.perform engine =
          .ok (answer, { engine with transport := after }) ∧
          answer.fault? = some fault) ∧
    ∀ range mode cancelAfter,
      (range.Malformed engine.width → ∃ refusal,
        run range mode cancelAfter engine =
          .ok (.error (.invalidRequest refusal), engine)) ∧
      (Transport.FailsOnly σ BusError.RefusesNothing → ∀ refusal stopped,
        run range mode cancelAfter engine =
          .ok (.error (.invalidRequest refusal), stopped) →
        range.Malformed engine.width) := by
  refine ⟨fun call =>
    ⟨Call.refused_of_malformed, fun contract => ?_, fun request fault after =>
      Call.perform_of_failed⟩, fun range mode cancelAfter =>
        ⟨fun malformed => ?_,
        fun contract => ?_⟩⟩
  · intro refusal answer stopped performed refused
    apply Classical.byContradiction
    intro wellFormed
    exact Call.refusesNothing_of_wellFormed contract wellFormed performed _
      refused refusal rfl
  · obtain ⟨refusal, refused⟩ := checkRange_of_malformed malformed
    exact ⟨refusal, run_of_refused refused⟩
  · intro refusal stopped ran
    apply Classical.byContradiction
    intro wellFormed
    exact run_reported contract (checkRange_eq_ok_iff.mpr wellFormed)
      ran refusal rfl

/-- An engine in the middle of its work whose channel breaks off every
request. -/
def deafEngine : Engine ScriptedBus Tape where
  transport :=
    { inner := { clock := 70 }
      script := { onSubmit := fun _ => { failure? := some "mailbox closed" } } }
  width := .bits16
  config := {}
  generator := .repeating #[5]
  stats := { transfers := 1, words := 2 }
  pending? := some ⟨.dataOut, 0, 2, .acknowledged, 70⟩

/-- An odd range is refused and one word is not, but then its request breaks
off. -/
theorem only_malformed_calls_are_refused_by_deafEngine :
    (∃ refusal answer,
      (Call.writeRange #[1, 2] ⟨1, 2⟩).perform deafEngine =
        .ok (answer, deafEngine) ∧
      (Call.writeRange #[1, 2] ⟨1, 2⟩).Refused refusal answer) ∧
    (∃ answer after,
      (Call.readRange #[1] ⟨0, 0⟩).perform deafEngine =
        .ok (answer, { deafEngine with transport := after }) ∧
      answer.fault? = some (.transport "mailbox closed") ∧
      after.inner.clock = 70) ∧
    (∃ refusal, run ⟨4, 2⟩ .addressPattern 9 deafEngine =
      .ok (.error (.invalidRequest refusal), deafEngine)) ∧
    ∀ refusal stopped, run ⟨2, 4⟩ .addressPattern 9 deafEngine ≠
      .ok (.error (.invalidRequest refusal), stopped) := by
  have contract : Transport.FailsOnly ScriptedBus BusError.RefusesNothing := by
    apply ScriptedBus.failsOnly.mono
    rintro _ ⟨_, rfl⟩
    exact nofun
  obtain ⟨calls, runs⟩ := only_malformed_calls_are_refused deafEngine
  let request := deafEngine.blockRequest .dataIn #[1] 0 1
  obtain ⟨after, broken, clock⟩ : ∃ after,
      (Transport.submit request).run (deafEngine.announced request).transport =
        .ok (.error (.transport "mailbox closed"), after) ∧
        after.inner.clock = 70 :=
    ⟨_, rfl, rfl⟩
  obtain ⟨answer, performed, fault⟩ :=
    (calls (.readRange #[1] ⟨0, 0⟩)).2.2 request _ after (by decide) rfl broken
  refine ⟨(calls _).1 (by decide), ⟨answer, after, performed, fault, clock⟩,
    (runs _ _ _).1 (by decide), fun refusal stopped ran => ?_⟩
  have malformed := (runs _ _ _).2 contract refusal stopped ran
  revert malformed
  decide

end Exerciser

end Backplane
