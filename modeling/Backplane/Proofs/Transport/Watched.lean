import Backplane.Proofs.Timed

/-!
# Watched channels

A transport that passes every call on to a channel and records the calls, each
with what came of it.  An operation runs on it as it runs on the channel itself,
so the record tells which calls the operation makes, and in which order.
-/

namespace Backplane

/-- A call on a channel, with what came of it. -/
inductive ChannelCall where
  | submitted (request : Dma.Request) (outcome : Except BusError Dma.Reply)
  | drove (signal : Signal) (asserted : Bool) (outcome : Except BusError Unit)
  | sampled (outcome : Except BusError GrantMask)
  | slept (duration : Nat)
  | noted (event : Event)

namespace ChannelCall

/-- A call on the bus, in contrast to one on the journal. -/
def isOnBus : ChannelCall → Bool
  | noted _ => false
  | _ => true

def event? : ChannelCall → Option Event
  | noted event => some event
  | _ => none

/-- The call takes a channel from one state to another. -/
inductive Leads {σ : Type} [Transport σ] : σ → ChannelCall → σ → Prop where
  | submitted {start stop : σ} {request : Dma.Request}
      {outcome : Except BusError Dma.Reply}
      (ran : (Transport.submit (σ := σ) request).run start =
        .ok (outcome, stop)) :
      Leads start (.submitted request outcome) stop
  | drove {start stop : σ} {signal : Signal} {asserted : Bool}
      {outcome : Except BusError Unit}
      (ran : (Transport.setSignal (σ := σ) signal asserted).run start =
        .ok (outcome, stop)) :
      Leads start (.drove signal asserted outcome) stop
  | sampled {start stop : σ} {outcome : Except BusError GrantMask}
      (ran : (Transport.sampleGrants (σ := σ)).run start =
        .ok (outcome, stop)) :
      Leads start (.sampled outcome) stop
  | slept {start stop : σ} {duration : Nat}
      (ran : Transport.sleep (σ := σ) duration start = .ok ((), stop)) :
      Leads start (.slept duration) stop
  | noted (start : σ) (event : Event) :
      Leads start (.noted event) (Transport.note event start)

end ChannelCall

/-- The calls on the bus among calls. -/
def busCalls (calls : List ChannelCall) : List ChannelCall :=
  calls.filter ChannelCall.isOnBus

/-- The events that calls write to the journal. -/
def notedEvents (calls : List ChannelCall) : List Event :=
  calls.filterMap ChannelCall.event?

@[simp] theorem busCalls_append (calls others : List ChannelCall) :
    busCalls (calls ++ others) = busCalls calls ++ busCalls others :=
  List.filter_append calls others

@[simp] theorem notedEvents_append (calls others : List ChannelCall) :
    notedEvents (calls ++ others) = notedEvents calls ++ notedEvents others :=
  List.filterMap_append

@[simp] theorem busCalls_noted (events : List Event) :
    busCalls (events.map .noted) = [] := by
  simp [busCalls, ChannelCall.isOnBus]

@[simp] theorem notedEvents_noted (events : List Event) :
    notedEvents (events.map .noted) = events := by
  simp [notedEvents, Function.comp_def, ChannelCall.event?]

/-- A channel, and the calls made on it. -/
structure Watched (σ : Type) where
  channel : σ
  calls : List ChannelCall := []

namespace Watched

variable {σ α : Type}

/-- Run an operation of the channel, and record it as a call. -/
def through (call : Except BusError α → ChannelCall) (operation : Op σ α) :
    Op (Watched σ) α := fun ⟨channel, calls⟩ => do
  let (outcome, channel) ← operation channel
  return (outcome, ⟨channel, calls ++ [call outcome]⟩)

theorem through_of_ok {call : Except BusError α → ChannelCall}
    {operation : Op σ α} {channel stopped : σ} {outcome : Except BusError α}
    (ran : operation.run channel = .ok (outcome, stopped))
    (record : List ChannelCall) :
    (through call operation).run ⟨channel, record⟩ =
      .ok (outcome, ⟨stopped, record ++ [call outcome]⟩) := by
  change (operation.run channel >>= fun reached =>
    Except.ok (reached.1, Watched.mk reached.2 (record ++ [call reached.1]))) =
      _
  rw [ran]
  rfl

instance [Transport σ] : Transport (Watched σ) where
  kind := Transport.kind σ
  submit request := through (.submitted request) (Transport.submit request)
  setSignal signal asserted :=
    through (.drove signal asserted) (Transport.setSignal signal asserted)
  sampleGrants := through .sampled Transport.sampleGrants
  now watched := Transport.now watched.channel
  sleep duration := fun ⟨channel, calls⟩ => do
    let ((), channel) ← Transport.sleep duration channel
    return ((), ⟨channel, calls ++ [.slept duration]⟩)
  note event watched :=
    ⟨Transport.note event watched.channel, watched.calls ++ [.noted event]⟩

end Watched

variable {σ : Type} [Transport σ]

/-- Calls that take a channel from one state to another, one after the other. -/
inductive Performed : σ → List ChannelCall → σ → Prop where
  | nothing (channel : σ) : Performed channel [] channel
  | call {start middle stop : σ} {call : ChannelCall} {calls : List ChannelCall}
      (first : call.Leads start middle) (rest : Performed middle calls stop) :
      Performed start (call :: calls) stop

namespace Performed

variable {start middle stop : σ} {calls others : List ChannelCall}

theorem single {call : ChannelCall} (leads : call.Leads start stop) :
    Performed start [call] stop :=
  .call leads (.nothing stop)

theorem append (head : Performed start calls middle)
    (tail : Performed middle others stop) :
    Performed start (calls ++ others) stop := by
  induction head with
  | nothing => exact tail
  | call first _ induction => exact .call first (induction tail)

end Performed

/-- Where an operation of all transports reaches a result on a channel, it
reaches the same result on the watched channel, and `shows` holds of the calls
that are recorded. -/
def MakesCalls {α : Type} (operation : ∀ (σ : Type) [Transport σ], Op σ α)
    (shows : List ChannelCall → Except BusError α → Prop) : Prop :=
  ∀ ⦃σ : Type⦄ [Transport σ] ⦃channel : σ⦄ ⦃result stopped⦄,
    (operation σ).run channel = .ok (result, stopped) →
    ∃ calls, Performed channel calls stopped ∧ shows calls result ∧
      ∀ record, (operation (Watched σ)).run ⟨channel, record⟩ =
        .ok (result, ⟨stopped, record ++ calls⟩)

namespace MakesCalls

variable {α β : Type}

theorem pure (value : α) :
    MakesCalls (fun _ _ => Pure.pure value) fun calls result =>
      calls = [] ∧ result = .ok value := by
  intro σ _ channel result stopped ran
  cases ran
  exact ⟨[], .nothing channel, ⟨rfl, rfl⟩,
    fun record => by rw [List.append_nil]; rfl⟩

theorem throw (fault : BusError) :
    MakesCalls (fun _ _ => (throw fault : Op _ α)) fun calls result =>
      calls = [] ∧ result = .error fault := by
  intro σ _ channel result stopped ran
  cases ran
  exact ⟨[], .nothing channel, ⟨rfl, rfl⟩,
    fun record => by rw [List.append_nil]; rfl⟩

theorem report (event : Event) :
    MakesCalls (fun _ _ => Transport.report event) fun calls result =>
      calls = [.noted event] ∧ result = .ok () := by
  intro σ _ channel result stopped ran
  cases ran
  exact ⟨_, .single (.noted channel event), ⟨rfl, rfl⟩, fun _ => rfl⟩

theorem setSignal (signal : Signal) (asserted : Bool) :
    MakesCalls (fun _ _ => Transport.setSignal signal asserted)
      fun calls outcome =>
      calls = [.drove signal asserted outcome] :=
  fun _ _ _ _ _ ran => ⟨_, .single (.drove ran), rfl, Watched.through_of_ok ran⟩

theorem sampleGrants :
    MakesCalls (fun _ _ => Transport.sampleGrants) fun calls outcome =>
      calls = [.sampled outcome] :=
  fun _ _ _ _ _ ran =>
    ⟨_, .single (.sampled ran), rfl, Watched.through_of_ok ran⟩

theorem sleep (duration : Nat) :
    MakesCalls (fun σ _ => Transport.sleep (σ := σ) duration)
      fun calls result =>
      calls = [.slept duration] ∧ result = .ok () := by
  intro σ _ channel result stopped ran
  obtain ⟨_, slept, rfl⟩ := Op.liftM_eq_ok.mp ran
  refine ⟨_, .single (.slept slept), ⟨rfl, rfl⟩,
    fun record => Op.liftM_eq_ok.mpr ⟨(), ?_, rfl⟩⟩
  change (Transport.sleep (σ := σ) duration channel >>= fun reached =>
    Except.ok ((), Watched.mk reached.2 (record ++ [.slept duration]))) = _
  rw [slept]
  rfl

theorem mono {operation : ∀ (σ : Type) [Transport σ], Op σ α}
    {shows wider : List ChannelCall → Except BusError α → Prop}
    (makes : MakesCalls operation shows)
    (widened : ∀ calls result, shows calls result → wider calls result) :
    MakesCalls operation wider := by
  intro σ _ channel result stopped ran
  obtain ⟨calls, performed, shown, watching⟩ := makes ran
  exact ⟨calls, performed, widened calls result shown, watching⟩

/-- The calls of a second operation stand behind those of a first one that
passed. -/
theorem bind {operation : ∀ (σ : Type) [Transport σ], Op σ α}
    {next : ∀ (σ : Type) [Transport σ], α → Op σ β}
    {shows : List ChannelCall → Except BusError α → Prop}
    {nextShows : α → List ChannelCall → Except BusError β → Prop}
    {wholeShows : List ChannelCall → Except BusError β → Prop}
    (head : MakesCalls operation shows)
    (tail : ∀ value, MakesCalls (fun σ _ => next σ value) (nextShows value))
    (failed : ∀ calls fault, shows calls (.error fault) →
      wholeShows calls (.error fault))
    (passed : ∀ calls value others result, shows calls (.ok value) →
      nextShows value others result → wholeShows (calls ++ others) result) :
    MakesCalls (fun σ _ => operation σ >>= next σ) wholeShows := by
  intro σ _ channel result stopped ran
  rcases Op.bind_eq_ok.mp ran with ⟨fault, broke, rfl⟩
    | ⟨value, middle, began, rested⟩
  · obtain ⟨calls, performed, shown, watching⟩ := head broke
    exact ⟨calls, performed, failed calls fault shown, fun record =>
      Op.bind_eq_ok.mpr (.inl ⟨fault, watching record, rfl⟩)⟩
  · obtain ⟨calls, performed, shown, watching⟩ := head began
    obtain ⟨others, performedRest, shownRest, watchingRest⟩ := tail value rested
    refine ⟨calls ++ others, performed.append performedRest,
      passed calls value others result shown shownRest, fun record =>
        Op.bind_eq_ok.mpr (.inr ⟨value, _, watching record, ?_⟩)⟩
    rw [← List.append_assoc]
    exact watchingRest _

/-- Events in a row go into the journal one after the other. -/
theorem reports {ι : Type} (event : ι → Event) (items : List ι) :
    MakesCalls (fun _ _ => items.forM fun item => Transport.report (event item))
      fun calls result => calls = (items.map event).map .noted ∧
      result = .ok () := by
  induction items with
  | nil => exact .pure ()
  | cons item items induction =>
      refine (report (event item)).bind (fun _ => induction) nofun ?_
      rintro _ _ _ _ ⟨rfl, _⟩ ⟨rfl, rfl⟩
      exact ⟨rfl, rfl⟩

end MakesCalls

end Backplane
