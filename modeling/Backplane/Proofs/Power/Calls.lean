import Backplane.JumperProbe
import Backplane.Proofs.Transport.Watched

/-!
# The calls of a jumper probe

On any channel, all that a probe does on the bus is to drive the edges of a
power cycle, each with its wait, and to sample the jumpers once behind the last
of them.  A call that fails ends the probe with the error of that call.  What is
written to the journal of a sample follows from its mask alone.
-/

namespace Backplane

/-- An edge that passed, and the wait after it. -/
def PowerStep.calls (step : PowerStep) : List ChannelCall :=
  [.drove step.signal step.asserted (.ok ()), .slept step.wait]

/-- The calls on the bus that drive a table to its end. -/
def playedCalls (table : List PowerStep) : List ChannelCall :=
  table.flatMap PowerStep.calls

@[simp] theorem playedCalls_append (first rest : List PowerStep) :
    playedCalls (first ++ rest) = playedCalls first ++ playedCalls rest :=
  List.flatMap_append

theorem mem_playedCalls {table : List PowerStep} {call : ChannelCall} :
    call ∈ playedCalls table ↔ ∃ step ∈ table,
      call = .drove step.signal step.asserted (.ok ()) ∨
      call = .slept step.wait := by
  simp [playedCalls, PowerStep.calls]

/-- The events among others that are errors. -/
def errorEvents (events : List Event) : List Event :=
  events.filter fun event => event.severity = .error

@[simp] theorem errorEvents_append (events others : List Event) :
    errorEvents (events ++ others) = errorEvents events ++ errorEvents others :=
  List.filter_append events others

/-- The calls of an operation that drives a table: the whole of it, or its
leading edges up to one that fails, and no word of an error in the journal. -/
inductive Plays {α : Type} (table : List PowerStep) (calls : List ChannelCall) :
    Except BusError α → Prop where
  | completed {value : α} (bus : busCalls calls = playedCalls table)
      (quiet : errorEvents (notedEvents calls) = []) :
      Plays table calls (.ok value)
  | broken {driven : List PowerStep} {step : PowerStep} {fault : BusError}
      (leading : driven ++ [step] <+: table)
      (bus : busCalls calls =
        playedCalls driven ++ [.drove step.signal step.asserted (.error fault)])
      (quiet : errorEvents (notedEvents calls) = []) :
      Plays table calls (.error fault)

namespace Plays

variable {α β : Type} {first rest : List PowerStep}
  {calls others : List ChannelCall}

theorem extend {fault : BusError}
    (plays : Plays first calls (.error fault : Except _ α))
    (rest : List PowerStep) :
    Plays (first ++ rest) calls (.error fault : Except _ β) := by
  cases plays with
  | broken leading bus quiet =>
      exact .broken (leading.trans (List.prefix_append first rest)) bus quiet

theorem append {value : α} {result : Except BusError β}
    (head : Plays first calls (.ok value : Except _ α))
    (tail : Plays rest others result) :
    Plays (first ++ rest) (calls ++ others) result := by
  cases head with
  | completed bus quiet =>
      cases tail with
      | completed busRest quietRest =>
          refine .completed ?_ ?_
          · rw [busCalls_append, bus, busRest, playedCalls_append]
          · rw [notedEvents_append, errorEvents_append, quiet, quietRest,
              List.append_nil]
      | @broken driven step fault leading busRest quietRest =>
          have leadingWhole : first ++ driven ++ [step] <+: first ++ rest := by
            rw [List.append_assoc]
            exact (List.prefix_append_right_inj first).mpr leading
          refine .broken leadingWhole ?_ ?_
          · rw [busCalls_append, bus, busRest, playedCalls_append,
              List.append_assoc]
          · rw [notedEvents_append, errorEvents_append, quiet, quietRest,
              List.append_nil]

end Plays

namespace MakesCalls

variable {α β : Type}

theorem followedBy {operation : ∀ (σ : Type) [Transport σ], Op σ α}
    {next : ∀ (σ : Type) [Transport σ], α → Op σ β}
    {first rest : List PowerStep} (head : MakesCalls operation (Plays first))
    (tail : ∀ value, MakesCalls (fun σ _ => next σ value) (Plays rest)) :
    MakesCalls (fun σ _ => operation σ >>= next σ) (Plays (first ++ rest)) :=
  head.bind tail (fun _ _ failed => failed.extend rest)
    fun _ _ _ _ passed passedRest => passed.append passedRest

/-- An event that is no error, as an operation without an edge. -/
theorem announcement {event : Event} (harmless : event.severity ≠ .error) :
    MakesCalls (fun _ _ => Transport.report event) (Plays []) := by
  refine (report event).mono ?_
  rintro _ _ ⟨rfl, rfl⟩
  exact .completed rfl
    (by simp [notedEvents, ChannelCall.event?, errorEvents, harmless])

theorem edge (step : PowerStep) :
    MakesCalls
      (fun σ _ => do
        Transport.setSignal step.signal step.asserted
        Transport.sleep (σ := σ) step.wait) (Plays [step]) := by
  refine (setSignal step.signal step.asserted).bind
    (fun _ => sleep step.wait) ?_ ?_
  · rintro _ fault rfl
    have leading : [] ++ [step] <+: [step] := List.prefix_rfl
    exact .broken leading rfl rfl
  · rintro _ _ _ _ rfl ⟨rfl, rfl⟩
    exact .completed rfl rfl

end MakesCalls

theorem makesCalls_runSteps (table : List PowerStep) :
    MakesCalls (fun _ _ => PowerSequence.runSteps table) (Plays table) := by
  induction table with
  | nil =>
      refine (MakesCalls.pure ()).mono ?_
      rintro _ _ ⟨rfl, rfl⟩
      exact .completed rfl rfl
  | cons step table induction =>
      have harmless : (Event.powerEdge step).severity ≠ .error := nofun
      have announced := (MakesCalls.announcement harmless).followedBy
        fun _ => .edge step
      have whole := announced.followedBy fun _ => induction
      simpa [PowerSequence.runSteps] using whole

theorem makesCalls_powerCycle (family : Family) :
    MakesCalls (fun _ _ => PowerSequence.powerCycle family)
      (Plays (family.powerDown ++ family.powerUp)) := by
  have loss : (Event.powerLoss family).severity ≠ .error := nofun
  have back : (Event.powerReturn family).severity ≠ .error := nofun
  have down := (MakesCalls.announcement loss).followedBy fun _ =>
    makesCalls_runSteps family.powerDown
  have up := (MakesCalls.announcement back).followedBy fun _ =>
    makesCalls_runSteps family.powerUp
  exact down.followedBy fun _ => up

/-- A mask is refused that shows a closed jumper, where closed jumpers are an
error. -/
def Refused (refuseClosed : Bool) (mask : GrantMask) : Prop :=
  mask ≠ .clear ∧ refuseClosed = true

/-- The errors in the journal and the result that follow from a sample of the
jumpers. -/
inductive Verdict (refuseClosed : Bool) :
    Except BusError GrantMask → List Event →
    Except BusError GrantMask → Prop where
  | unsampled (fault : BusError) :
      Verdict refuseClosed (.error fault) [] (.error fault)
  | refused {mask : GrantMask} (refusal : Refused refuseClosed mask) :
      Verdict refuseClosed (.ok mask) (mask.closedLines.map .jumperClosed)
        (.error (.arbitrationFault mask))
  | accepted {mask : GrantMask} (acceptance : ¬ Refused refuseClosed mask) :
      Verdict refuseClosed (.ok mask) [] (.ok mask)

/-- The calls of a single sample, with what follows from it. -/
def Answers (refuseClosed : Bool) (calls : List ChannelCall)
    (result : Except BusError GrantMask) : Prop :=
  ∃ outcome, busCalls calls = [.sampled outcome] ∧
    Verdict refuseClosed outcome (errorEvents (notedEvents calls)) result

/-- The calls of a probe: its table breaks off, or the jumpers are sampled
behind it. -/
inductive Probed (table : List PowerStep) (refuseClosed : Bool) :
    List ChannelCall → Except BusError GrantMask → Prop where
  | broken {cycle : List ChannelCall} {fault : BusError}
      (plays : Plays table cycle (.error fault : Except BusError Unit)) :
      Probed table refuseClosed cycle (.error fault)
  | sampled {cycle others : List ChannelCall}
      {result : Except BusError GrantMask}
      (plays : Plays table cycle (.ok () : Except BusError Unit))
      (answers : Answers refuseClosed others result) :
      Probed table refuseClosed (cycle ++ others) result

section Settling

variable {refuseClosed : Bool} {mask : GrantMask}

/-- A mask is settled in the journal alone. -/
def Settles (refuseClosed : Bool) (mask : GrantMask) (calls : List ChannelCall)
    (result : Except BusError GrantMask) : Prop :=
  ∃ events, calls = events.map .noted ∧
    Verdict refuseClosed (.ok mask) (errorEvents events) result

/-- An accepted mask comes back, with an event that is no error. -/
theorem makesCalls_acceptance {event : Event}
    (acceptance : ¬ Refused refuseClosed mask)
    (harmless : event.severity ≠ .error) :
    MakesCalls
      (fun _ _ => do
        Transport.report event
        return mask) (Settles refuseClosed mask) := by
  refine (MakesCalls.report event).bind (fun _ => .pure mask) nofun ?_
  rintro _ _ _ _ ⟨rfl, _⟩ ⟨rfl, rfl⟩
  have quiet : errorEvents [event] = [] := by simp [errorEvents, harmless]
  refine ⟨[event], rfl, ?_⟩
  rw [quiet]
  exact .accepted acceptance

/-- Every closed line is named before the mask is refused. -/
theorem makesCalls_refusal (refusal : Refused refuseClosed mask) :
    MakesCalls
      (fun _ _ => do
        mask.closedLines.forM fun line => Transport.report (.jumperClosed line)
        throw (.arbitrationFault mask)) (Settles refuseClosed mask) := by
  refine (MakesCalls.reports Event.jumperClosed mask.closedLines).bind
    (fun _ => .throw (.arbitrationFault mask)) nofun ?_
  rintro _ _ _ _ ⟨rfl, _⟩ ⟨rfl, rfl⟩
  have named : errorEvents (mask.closedLines.map .jumperClosed) =
      mask.closedLines.map .jumperClosed := by
      simp [errorEvents, Event.severity]
  refine ⟨_, List.append_nil _, ?_⟩
  rw [named]
  exact .refused refusal

end Settling

theorem makesCalls_probeJumpers (family : Family) (refuseClosed : Bool) :
    MakesCalls (fun _ _ => probeJumpers family refuseClosed)
      (Probed (family.powerDown ++ family.powerUp) refuseClosed) := by
  refine (makesCalls_powerCycle family).bind
    (fun _ => (?_ : MakesCalls _ (Answers refuseClosed)))
    (fun _ _ failed => .broken failed) fun _ _ _ _ passed answers =>
    .sampled passed answers
  -- Only the mask of a sample that passed is settled.
  refine MakesCalls.sampleGrants.bind
    (fun mask => (?_ : MakesCalls _ (Settles refuseClosed mask))) ?_ ?_
  · by_cases clear : mask.isClear = true
    · simp only [clear, if_true]
      exact makesCalls_acceptance
        (fun refusal => refusal.1 (GrantMask.isClear_iff.mp clear)) nofun
    · simp only [clear]
      cases refuseClosed with
      | true =>
          exact makesCalls_refusal
            ⟨fun same => clear (GrantMask.isClear_iff.mpr same), rfl⟩
      | false => exact makesCalls_acceptance nofun nofun
  · rintro _ fault rfl
    exact ⟨.error fault, rfl, .unsampled fault⟩
  · rintro _ mask _ _ rfl ⟨events, rfl, verdict⟩
    refine ⟨.ok mask, ?_, ?_⟩
    · rw [busCalls_append, busCalls_noted]
      rfl
    · rw [notedEvents_append, notedEvents_noted]
      exact verdict

end Backplane
