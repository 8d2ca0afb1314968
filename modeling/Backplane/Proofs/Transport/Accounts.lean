import Backplane.Proofs.Transport.Scripted
import Backplane.Proofs.Transport.Watched

/-!
# Calls on a scripted bus, and what they leave behind

Calls that submit no request leave memory and the record of requests as they
are, and the journal grows by just what they note.  What comes of an edge or of
a sample is what the script says of it.
-/

namespace Backplane

namespace ChannelCall

/-- What came of an edge. -/
def edge? : ChannelCall → Option (Except BusError Unit)
  | drove _ _ outcome => some outcome
  | _ => none

def isSubmission : ChannelCall → Bool
  | submitted .. => true
  | _ => false

end ChannelCall

/-- What came of the edges among calls. -/
def edgeOutcomes (calls : List ChannelCall) : List (Except BusError Unit) :=
  calls.filterMap ChannelCall.edge?

@[simp] theorem edgeOutcomes_append (calls others : List ChannelCall) :
    edgeOutcomes (calls ++ others) =
      edgeOutcomes calls ++ edgeOutcomes others :=
  List.filterMap_append

/-- Notes in the journal drive no edge. -/
theorem edgeOutcomes_busCalls (calls : List ChannelCall) :
    edgeOutcomes (busCalls calls) = edgeOutcomes calls := by
  induction calls with
  | nil => rfl
  | cons call calls induction =>
      cases call with
      | noted event => exact induction
      | drove signal asserted outcome => exact congrArg (outcome :: ·) induction
      | submitted request outcome => exact induction
      | sampled outcome => exact induction
      | slept duration => exact induction

namespace ScriptedBus

/-- What calls without a submission leave of a bus. -/
structure Accounts (bus : ScriptedBus) (calls : List ChannelCall)
    (stopped : ScriptedBus) : Prop where
  board : stopped.inner.board = bus.inner.board
  requests : stopped.inner.requests = bus.inner.requests
  closed : stopped.inner.closed = bus.inner.closed
  script : stopped.script = bus.script
  signals : stopped.signals = bus.signals + (edgeOutcomes calls).length
  journal : stopped.inner.journal.toList =
    bus.inner.journal.toList ++ notedEvents calls
  edges : edgeOutcomes calls =
    (List.range' bus.signals (edgeOutcomes calls).length).map fun edge =>
      answer (bus.script.onSignal edge) ()
  samples : ∀ outcome, .sampled outcome ∈ calls →
    outcome = answer bus.script.onSample bus.inner.closed

namespace Accounts

variable {bus middle stopped : ScriptedBus} {calls others : List ChannelCall}

theorem nothing (bus : ScriptedBus) : Accounts bus [] bus where
  board := rfl
  requests := rfl
  closed := rfl
  script := rfl
  signals := rfl
  journal := (List.append_nil _).symm
  edges := rfl
  samples := nofun

theorem append (head : Accounts bus calls middle)
    (tail : Accounts middle others stopped) :
    Accounts bus (calls ++ others) stopped where
  board := tail.board.trans head.board
  requests := tail.requests.trans head.requests
  closed := tail.closed.trans head.closed
  script := tail.script.trans head.script
  signals := by
    rw [tail.signals, head.signals, edgeOutcomes_append, List.length_append,
      Nat.add_assoc]
  journal := by
    rw [tail.journal, head.journal, notedEvents_append, List.append_assoc]
  edges := by
    rw [edgeOutcomes_append, List.length_append, ← List.range'_append_1,
      List.map_append, ← head.edges, ← head.signals, ← head.script,
      ← tail.edges]
  samples outcome sampled := by
    rcases List.mem_append.mp sampled with earlier | later
    · exact head.samples outcome earlier
    · rw [tail.samples outcome later, head.script, head.closed]

theorem of_leads {call : ChannelCall} (leads : call.Leads bus stopped)
    (idle : call.isSubmission = false) : Accounts bus [call] stopped := by
  cases leads with
  | submitted => cases idle
  | drove ran =>
      rcases setSignal_eq_ok.mp ran with ⟨reason, scripted, rfl, rfl⟩
        | ⟨scripted, rfl, rfl⟩
      · have answered : answer (bus.script.onSignal bus.signals) () =
            .error (.transport reason) :=
            answer_eq_error.mpr ⟨reason, scripted, rfl⟩
        exact ⟨rfl, rfl, rfl, rfl, rfl, (List.append_nil _).symm,
          congrArg (fun outcome => [outcome]) answered.symm, by simp⟩
      · have answered : answer (bus.script.onSignal bus.signals) () = .ok () :=
          answer_eq_ok.mpr ⟨scripted, rfl⟩
        exact ⟨rfl, rfl, rfl, rfl, rfl, (List.append_nil _).symm,
          congrArg (fun outcome => [outcome]) answered.symm, by simp⟩
  | sampled ran =>
      obtain ⟨rfl, rfl⟩ := sampleGrants_eq_ok.mp ran
      exact ⟨rfl, rfl, rfl, rfl, rfl, (List.append_nil _).symm, rfl, by simp⟩
  | slept ran =>
      obtain ⟨_, rfl⟩ := sleep_eq_ok.mp ran
      exact ⟨rfl, rfl, rfl, rfl, rfl, (List.append_nil _).symm, rfl, by simp⟩
  | noted event =>
      exact ⟨rfl, rfl, rfl, rfl, rfl, Array.toList_push, rfl, by simp⟩

end Accounts

variable {bus stopped : ScriptedBus} {calls : List ChannelCall} {count : Nat}

theorem Accounts.passed (accounts : Accounts bus calls stopped)
    (outcomes : edgeOutcomes calls = List.replicate count (.ok ())) :
    ∀ edge < count, bus.script.onSignal (bus.signals + edge) = none := by
  intro edge before
  have answers := accounts.edges
  rw [outcomes, List.length_replicate, eq_comm, List.eq_replicate_iff]
    at answers
  have answered :=
    answers.2 (answer (bus.script.onSignal (bus.signals + edge)) ())
      (List.mem_map_of_mem
        (List.mem_range'_1.mpr ⟨Nat.le_add_right _ _, by omega⟩))
  exact (answer_eq_ok.mp answered).1

theorem Accounts.broke {fault : BusError}
    (accounts : Accounts bus calls stopped)
    (outcomes : edgeOutcomes calls = List.replicate count (.ok ()) ++
      [.error fault]) :
    ∃ reason, bus.script.onSignal (bus.signals + count) = some reason ∧
      fault = .transport reason := by
  have answers := accounts.edges
  rw [outcomes, List.length_append, List.length_replicate,
    List.length_singleton, List.range'_1_concat, List.map_append] at answers
  have last := List.append_inj_right' answers rfl
  exact answer_eq_error.mp (List.singleton_inj.mp last).symm

theorem accounts_of_performed (performed : Performed bus calls stopped)
    (idle : ∀ call ∈ calls, call.isSubmission = false) :
    Accounts bus calls stopped := by
  induction performed with
  | nothing bus => exact .nothing bus
  | call leads _ induction =>
      obtain ⟨first, rest⟩ := List.forall_mem_cons.mp idle
      exact (Accounts.of_leads leads first).append (induction rest)

end ScriptedBus

end Backplane
