import Backplane.Proofs.Power.Calls
import Backplane.Proofs.Power.TimedPrefix
import Backplane.Proofs.Transport.Accounts

/-!
# What a jumper probe finds

A probe of a scripted bus comes back with a transport error just where the
script breaks off one of its edges or its sample.  Otherwise the closed jumpers
of the bus decide, which are sampled behind a complete power cycle, and memory
is left alone in every case.
-/

namespace Backplane

/-! ## What calls of a probe consist of -/

theorem sampled_mem_iff {calls : List ChannelCall}
    {outcome : Except BusError GrantMask} :
    .sampled outcome ∈ calls ↔ .sampled outcome ∈ busCalls calls := by
  simp [busCalls, ChannelCall.isOnBus]

theorem isSubmission_of_busCalls {calls : List ChannelCall}
    (idle : ∀ call ∈ busCalls calls, call.isSubmission = false) :
    ∀ call ∈ calls, call.isSubmission = false := by
  intro call made
  cases call with
  | noted event => rfl
  | submitted request outcome => exact idle _ (List.mem_filter.mpr ⟨made, rfl⟩)
  | drove signal asserted outcome => rfl
  | sampled outcome => rfl
  | slept duration => rfl

theorem edgeOutcomes_playedCalls (table : List PowerStep) :
    edgeOutcomes (playedCalls table) =
      List.replicate table.length (.ok ()) := by
  induction table with
  | nil => rfl
  | cons step table induction => exact congrArg (.ok () :: ·) induction

namespace Plays

variable {α : Type} {table : List PowerStep} {calls : List ChannelCall}
  {value : α} {fault : BusError} {result : Except BusError α}

theorem idle (plays : Plays table calls result) :
    ∀ call ∈ calls, call.isSubmission = false := by
  apply isSubmission_of_busCalls
  intro call made
  cases plays with
  | completed bus quiet =>
      rw [bus, mem_playedCalls] at made
      obtain ⟨_, _, rfl | rfl⟩ := made <;> rfl
  | broken leading bus quiet =>
      rw [bus, List.mem_append, mem_playedCalls, List.mem_singleton] at made
      obtain ⟨_, _, rfl | rfl⟩ | rfl := made <;> rfl

theorem not_sampled (plays : Plays table calls result)
    (outcome : Except BusError GrantMask) : .sampled outcome ∉ calls := by
  rw [sampled_mem_iff]
  intro made
  cases plays with
  | completed bus quiet =>
      rw [bus, mem_playedCalls] at made
      simp at made
  | broken leading bus quiet =>
      rw [bus, List.mem_append, mem_playedCalls, List.mem_singleton] at made
      simp at made

theorem quiet (plays : Plays table calls result) :
    errorEvents (notedEvents calls) = [] := by
  cases plays with
  | completed _ quiet => exact quiet
  | broken _ _ quiet => exact quiet

theorem bus_of_ok (plays : Plays table calls (.ok value : Except _ α)) :
    busCalls calls = playedCalls table := by
  cases plays with
  | completed bus quiet => exact bus

theorem edges_of_ok (plays : Plays table calls (.ok value : Except _ α)) :
    edgeOutcomes calls = List.replicate table.length (.ok ()) := by
  rw [← edgeOutcomes_busCalls, plays.bus_of_ok, edgeOutcomes_playedCalls]

theorem edges_of_error (plays : Plays table calls (.error fault : Except _ α)) :
    ∃ driven < table.length,
      edgeOutcomes calls = List.replicate driven (.ok ()) ++
        [.error fault] := by
  cases plays with
  | @broken driven step _ leading bus quiet =>
      refine ⟨driven.length, ?_, ?_⟩
      · have within := leading.length_le
        rw [List.length_append, List.length_singleton] at within
        exact within
      · rw [← edgeOutcomes_busCalls, bus, edgeOutcomes_append,
          edgeOutcomes_playedCalls]
        rfl

/-! A table is followed by one sample, with events beside it. -/

section Sample

variable {others : List ChannelCall} {outcome : Except BusError GrantMask}
  (sample : busCalls others = [.sampled outcome])

include sample

theorem mem_sample_iff (plays : Plays table calls result)
    {other : Except BusError GrantMask} :
    .sampled other ∈ calls ++ others ↔ outcome = other := by
  rw [List.mem_append, or_iff_right (plays.not_sampled other),
    sampled_mem_iff, sample]
  simp [eq_comm]

theorem idle_sample (plays : Plays table calls result) :
    ∀ call ∈ calls ++ others, call.isSubmission = false := by
  refine List.forall_mem_append.mpr ⟨plays.idle, isSubmission_of_busCalls ?_⟩
  rw [sample]
  simp [ChannelCall.isSubmission]

theorem edges_sample (plays : Plays table calls (.ok value : Except _ α)) :
    edgeOutcomes (calls ++ others) = List.replicate table.length (.ok ()) := by
  rw [edgeOutcomes_append, plays.edges_of_ok,
    ← edgeOutcomes_busCalls others, sample]
  exact List.append_nil _

end Sample

end Plays

namespace Verdict

variable {refuseClosed : Bool} {outcome result : Except BusError GrantMask}
  {errors : List Event}

theorem accepted_iff (verdict : Verdict refuseClosed outcome errors result)
    (mask : GrantMask) :
    result = .ok mask ↔ outcome = .ok mask ∧ ¬ Refused refuseClosed mask := by
  cases verdict with
  | unsampled fault => simp
  | refused refusal =>
      refine iff_of_false nofun ?_
      rintro ⟨same, acceptance⟩
      cases same
      exact acceptance refusal
  | accepted acceptance =>
      refine (and_iff_left_of_imp ?_).symm
      intro same
      cases same
      exact acceptance

/-- A channel that breaks does not speak of jumpers. -/
theorem refused_iff (verdict : Verdict refuseClosed outcome errors result)
    (broken : ∀ fault, outcome = .error fault →
      ∃ reason, fault = .transport reason)
    (mask : GrantMask) :
    result = .error (.arbitrationFault mask) ↔
      outcome = .ok mask ∧ Refused refuseClosed mask := by
  cases verdict with
  | unsampled fault =>
      obtain ⟨reason, rfl⟩ := broken fault rfl
      simp
  | refused refusal =>
      constructor
      · intro same
        cases same
        exact ⟨rfl, refusal⟩
      · rintro ⟨same, _⟩
        cases same
        rfl
  | accepted acceptance =>
      refine iff_of_false nofun ?_
      rintro ⟨same, refusal⟩
      cases same
      exact acceptance refusal

theorem transport_iff (verdict : Verdict refuseClosed outcome errors result)
    (broken : ∀ fault, outcome = .error fault →
      ∃ reason, fault = .transport reason) :
    (∃ reason, result = .error (.transport reason)) ↔
    ∃ fault, outcome = .error fault := by
  cases verdict with
  | unsampled fault =>
      obtain ⟨reason, rfl⟩ := broken fault rfl
      exact iff_of_true ⟨reason, rfl⟩ ⟨_, rfl⟩
  | refused refusal => simp
  | accepted acceptance => simp

theorem names_closed_lines
    (verdict : Verdict refuseClosed outcome errors result)
    (broken : ∀ fault, outcome = .error fault →
      ∃ reason, fault = .transport reason) :
    ∃ lines : List GrantLine, errors = lines.map .jumperClosed ∧
      lines.Pairwise (fun line next => line.position < next.position) ∧
      ∀ line, line ∈ lines ↔
        ∃ mask, result = .error (.arbitrationFault mask) ∧
        mask.contains line = true := by
  cases verdict with
  | unsampled fault =>
      obtain ⟨reason, rfl⟩ := broken fault rfl
      exact ⟨[], rfl, .nil, by simp⟩
  | @refused mask refusal =>
      exact ⟨mask.closedLines, rfl, mask.closedLines_sorted,
        by simp [GrantMask.mem_closedLines]⟩
  | accepted acceptance => exact ⟨[], rfl, .nil, by simp⟩

end Verdict

namespace ScriptedBus

/-- The script breaks off one of the four edges of a power cycle, or a
sample. -/
def Breaks (bus : ScriptedBus) : Prop :=
  (∃ edge < 4, bus.script.onSignal (bus.signals + edge) ≠ none) ∨
    bus.script.onSample ≠ none

/-- What a probe comes back with and leaves behind, beside the calls that it
makes. -/
structure ProbeOutcome (bus : ScriptedBus) (family : Family)
    (refuseClosed : Bool) (calls : List ChannelCall)
    (result : Except BusError GrantMask) (stopped : ScriptedBus) : Prop where
  /-- Nothing but the complete power cycle comes before a sample, and nothing
  behind it. -/
  quiescent : ∀ outcome, .sampled outcome ∈ calls →
    busCalls calls = playedCalls (family.powerDown ++ family.powerUp) ++
      [.sampled outcome]
  sampled : ∀ mask, .sampled (.ok mask) ∈ calls ↔ ¬ bus.Breaks ∧
    mask = bus.inner.closed
  transport : (∃ reason, result = .error (.transport reason)) ↔ bus.Breaks
  refused : ∀ mask, result = .error (.arbitrationFault mask) ↔
    .sampled (.ok mask) ∈ calls ∧ mask ≠ .clear ∧ refuseClosed = true
  accepted : ∀ mask, result = .ok mask ↔
    .sampled (.ok mask) ∈ calls ∧ ¬ (mask ≠ .clear ∧ refuseClosed = true)
  /-- An error for each closed line of a refused mask in bit order, and no
  other. -/
  errors : ∃ events, stopped.inner.journal.toList =
    bus.inner.journal.toList ++ events ∧
    ∃ lines : List GrantLine, errorEvents events = lines.map .jumperClosed ∧
      lines.Pairwise (fun line next => line.position < next.position) ∧
      ∀ line, line ∈ lines ↔
        ∃ mask, result = .error (.arbitrationFault mask) ∧
        mask.contains line = true
  board : stopped.inner.board = bus.inner.board
  requests : stopped.inner.requests = bus.inner.requests

theorem length_powerCycle (family : Family) :
    (family.powerDown ++ family.powerUp).length = 4 := by
  cases family <;> rfl

section Outcome

variable {bus stopped : ScriptedBus} {family : Family} {refuseClosed : Bool}
  {calls cycle others : List ChannelCall} {result : Except BusError GrantMask}
  {fault : BusError}

theorem probeOutcome_of_broken (performed : Performed bus cycle stopped)
    (plays : Plays (family.powerDown ++ family.powerUp) cycle
      (.error fault : Except BusError Unit)) :
    ProbeOutcome bus family refuseClosed cycle (.error fault) stopped := by
  have accounts := accounts_of_performed performed plays.idle
  have unsampled := plays.not_sampled
  obtain ⟨driven, short, outcomes⟩ := plays.edges_of_error
  obtain ⟨reason, scripted, rfl⟩ := accounts.broke outcomes
  rw [length_powerCycle] at short
  have breaks : bus.Breaks :=
    .inl ⟨driven, short, by rw [scripted]; exact nofun⟩
  exact {
    quiescent := fun outcome sampled => absurd sampled (unsampled outcome)
    sampled := fun mask => iff_of_false (unsampled _) fun passed =>
    passed.1 breaks
    transport := iff_of_true ⟨reason, rfl⟩ breaks
    refused := fun mask => iff_of_false nofun fun passed => unsampled _ passed.1
    accepted := fun mask => iff_of_false nofun fun passed =>
    unsampled _ passed.1
    errors := ⟨_, accounts.journal, [], plays.quiet, .nil, by simp⟩
    board := accounts.board
    requests := accounts.requests }

theorem probeOutcome_of_sampled
    (performed : Performed bus (cycle ++ others) stopped)
    (plays : Plays (family.powerDown ++ family.powerUp) cycle
      (.ok () : Except BusError Unit))
    (answers : Answers refuseClosed others result) :
    ProbeOutcome bus family refuseClosed (cycle ++ others) result stopped := by
  obtain ⟨outcome, sample, verdict⟩ := answers
  have onBus : busCalls (cycle ++ others) =
      playedCalls (family.powerDown ++ family.powerUp) ++
      [.sampled outcome] := by
    rw [busCalls_append, plays.bus_of_ok, sample]
  -- The edges are those of the cycle, and the only sample is the one behind it,
  -- so that the script answers each of the five calls once.
  have accounts := accounts_of_performed performed (plays.idle_sample sample)
  have answered : outcome = answer bus.script.onSample bus.inner.closed :=
    accounts.samples outcome ((plays.mem_sample_iff sample).mpr rfl)
  have edges := plays.edges_sample sample
  rw [length_powerCycle] at edges
  have breaks : bus.Breaks ↔ bus.script.onSample ≠ none := by
    refine or_iff_right ?_
    rintro ⟨edge, before, broken⟩
    exact broken (accounts.passed edges edge before)
  have broken : ∀ fault, outcome = .error fault →
      ∃ reason, fault = .transport reason := by
    intro fault failed
    obtain ⟨reason, _, same⟩ := answer_eq_error.mp (answered.symm.trans failed)
    exact ⟨reason, same⟩
  exact {
    quiescent := fun other sampled => by
      rw [onBus, (plays.mem_sample_iff sample).mp sampled]
    sampled := fun mask => by
      rw [plays.mem_sample_iff sample, answered, answer_eq_ok, breaks,
        Classical.not_not]
    transport := by
      rw [verdict.transport_iff broken, breaks, answered,
        Option.ne_none_iff_exists']
      simp only [answer_eq_error]
      rw [exists_comm]
      simp only [exists_and_left, exists_eq, and_true]
    refused := fun mask => by
      rw [plays.mem_sample_iff sample]
      exact verdict.refused_iff broken mask
    accepted := fun mask => by
      rw [plays.mem_sample_iff sample]
      exact verdict.accepted_iff mask
    errors := by
      refine ⟨_, accounts.journal, ?_⟩
      rw [notedEvents_append, errorEvents_append, plays.quiet]
      exact verdict.names_closed_lines broken
    board := accounts.board
    requests := accounts.requests }

end Outcome

/-! ## Coming back -/

/-- An operation that lets no time pass and comes back from every state. -/
def Returns {α : Type} (operation : Op ScriptedBus α) : Prop :=
  ∀ bus, ∃ result stopped, operation.run bus = .ok (result, stopped)

namespace Returns

variable {α β : Type}

theorem pure (value : α) : Returns (Pure.pure value) := fun bus => ⟨_, bus, rfl⟩

theorem throw (fault : BusError) : Returns (throw fault : Op ScriptedBus α) :=
  fun bus => ⟨_, bus, rfl⟩

theorem report (event : Event) : Returns (Transport.report event) :=
  fun bus => ⟨_, Transport.note event bus, rfl⟩

theorem sampleGrants : Returns Transport.sampleGrants :=
  fun bus => ⟨_, bus, sampleGrants_eq_ok.mpr ⟨rfl, rfl⟩⟩

/-- What returns also returns behind an operation that came back. -/
theorem behind {operation : Op ScriptedBus α} {next : α → Op ScriptedBus β}
    {bus middle : ScriptedBus} {outcome : Except BusError α}
    (ran : operation.run bus = .ok (outcome, middle))
    (tail : ∀ value, Returns (next value)) :
    ∃ result stopped, (operation >>= next).run bus = .ok (result, stopped) := by
  cases outcome with
  | error fault => exact ⟨_, middle, Op.bind_eq_ok.mpr (.inl ⟨fault, ran, rfl⟩)⟩
  | ok value =>
      obtain ⟨result, stopped, rested⟩ := tail value middle
      exact ⟨result, stopped, Op.bind_eq_ok.mpr
        (.inr ⟨value, middle, ran, rested⟩)⟩

theorem bind {operation : Op ScriptedBus α} {next : α → Op ScriptedBus β}
    (head : Returns operation) (tail : ∀ value, Returns (next value)) :
    Returns (operation >>= next) := by
  intro bus
  obtain ⟨outcome, middle, ran⟩ := head bus
  exact behind ran tail

theorem reports {ι : Type} (event : ι → Event) (items : List ι) :
    Returns (items.forM fun item => Transport.report (event item)) := by
  induction items with
  | nil => exact .pure _
  | cons item items induction =>
      exact (report (event item)).bind fun _ => induction

end Returns

/-- A probe comes back wherever the clock can show the waits of the edges that
pass. -/
theorem exists_probeJumpers {bus : ScriptedBus} {family : Family} {driven : Nat}
    (stops : bus.StopsAfter 4 driven)
    (fits : bus.inner.clock + totalWait
      ((family.powerDown ++ family.powerUp).take driven) <
      Duration.limit) (refuseClosed : Bool) :
    ∃ result stopped,
      (probeJumpers family refuseClosed).run bus = .ok (result, stopped) := by
  rw [← length_powerCycle family] at stops
  obtain ⟨cycled, middle, ran, _⟩ := follows_powerCycle family stops fits
  -- No time passes behind the power cycle.
  refine Returns.behind ran fun _ => Returns.sampleGrants.bind fun mask => ?_
  split
  · exact (Returns.report _).bind fun _ => .pure mask
  · split
    · exact (Returns.reports Event.jumperClosed _).bind fun _ => .throw _
    · exact (Returns.report _).bind fun _ => .pure mask

/-- A probe samples the jumpers only behind a complete power cycle of its own,
and hides neither a broken call nor a closed jumper. -/
theorem probeJumpers_samples_quiescent_bus (bus : ScriptedBus) (family : Family)
    (refuseClosed : Bool) :
    (∃ driven, bus.StopsAfter 4 driven ∧
      (bus.inner.clock + totalWait
        ((family.powerDown ++ family.powerUp).take driven) <
          Duration.limit →
        ∃ result stopped,
          (probeJumpers family refuseClosed).run bus = .ok (result, stopped))) ∧
    ∀ result stopped,
      (probeJumpers family refuseClosed).run bus = .ok (result, stopped) →
      ∃ calls, (probeJumpers family refuseClosed).run
        (⟨bus, []⟩ : Watched ScriptedBus) = .ok (result, ⟨stopped, calls⟩) ∧
        ProbeOutcome bus family refuseClosed calls result stopped := by
  constructor
  · obtain ⟨driven, stops⟩ := exists_stopsAfter bus 4
    exact ⟨driven, stops, fun fits =>
      exists_probeJumpers stops fits refuseClosed⟩
  · intro result stopped ran
    obtain ⟨calls, performed, probed, watching⟩ :=
      makesCalls_probeJumpers family refuseClosed ran
    refine ⟨calls, watching [], ?_⟩
    cases probed with
    | broken plays => exact probeOutcome_of_broken performed plays
    | sampled plays answers =>
        exact probeOutcome_of_sampled performed plays answers

/-- A bus with two closed jumpers. -/
def jumpered : ScriptedBus where
  inner := { closed := .ofLines [.bg7, .npg] }

theorem jumpered_names_closed_lines :
    ∃ calls stopped, (probeJumpers .qbus true).run jumpered =
        .ok (.error (.arbitrationFault (.ofLines [.bg7, .npg])), stopped) ∧
      ProbeOutcome jumpered .qbus true calls
        (.error (.arbitrationFault (.ofLines [.bg7, .npg]))) stopped ∧
      errorEvents stopped.inner.journal.toList =
        [.jumperClosed .bg7, .jumperClosed .npg] := by
  obtain ⟨stopped, ran, named⟩ :
      ∃ stopped, (probeJumpers .qbus true).run jumpered =
        .ok (.error (.arbitrationFault (.ofLines [.bg7, .npg])), stopped) ∧
      errorEvents stopped.inner.journal.toList =
        [.jumperClosed .bg7, .jumperClosed .npg] := ⟨_, rfl, rfl⟩
  obtain ⟨calls, _, outcome⟩ :=
    (probeJumpers_samples_quiescent_bus jumpered .qbus true).2 _ stopped ran
  exact ⟨calls, stopped, ran, outcome, named⟩

end ScriptedBus

end Backplane
