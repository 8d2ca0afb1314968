import Backplane.Bus
import Backplane.Proofs.Dma.Session
import Backplane.Proofs.Exerciser.Session

/-!
# Sessions with a bus

A session makes calls on one bus, one after the other, whatever became of those
before.  A call other than a choice of the width runs on the transport alone,
and only once a width is chosen.
-/

namespace Backplane.Bus

open Dma

inductive Call where
  | configure (bits : Nat)
  | width
  | powerCycle
  | pulseInit
  | probeJumpers (refuseClosed : Bool)
  /-- Open an engine and make calls on it. -/
  | transfers (entropy : UInt64) (calls : List Dma.Call)
  /-- Open an engine and perform exerciser tasks on it. -/
  | exercises (entropy : UInt64) (tasks : List Exerciser.Task)

inductive Answer where
  | chosen (width : AddressWidth)
  | told (width : AddressWidth)
  | done
  | sampled (mask : GrantMask)
  | transferred (answers : List Dma.Answer)
  | exercised (answers : List Exerciser.Answer)

theorem Call.operates_or_configures (call : Call) :
    (∀ bits, call ≠ .configure bits) ∨ ∃ bits, call = .configure bits := by
  cases call with
  | configure bits => exact .inr ⟨bits, rfl⟩
  | _ => exact .inl fun _ => nofun

/-- The faults that an answer brings back. -/
def Answer.faults : Answer → List BusError
  | transferred answers => answers.filterMap Dma.Answer.fault?
  | exercised answers => answers.filterMap Exerciser.Answer.fault?
  | _ => []

/-- The faults of a call, those of its engine included. -/
def faultsOf : Except BusError Answer → List BusError
  | .ok answer => answer.faults
  | .error fault => [fault]

variable {σ : Type} [Transport σ]

def Call.perform : Call → Op (Bus σ) Answer
  | configure bits => Answer.chosen <$> Bus.configure bits
  | width => Answer.told <$> Bus.width
  | powerCycle => (fun _ => .done) <$> Bus.powerCycle
  | pulseInit => (fun _ => .done) <$> Bus.pulseInit
  | probeJumpers refuseClosed =>
    Answer.sampled <$> Bus.probeJumpers refuseClosed
  | transfers entropy calls =>
    Answer.transferred <$> withEngine entropy
      (Except.ok <$> Dma.Call.session calls)
  | exercises entropy tasks =>
    Answer.exercised <$> withEngine entropy
      (Except.ok <$> Exerciser.Task.session tasks)

def session (calls : List Call) :
    Timed (Bus σ) (List (Except BusError Answer)) :=
  calls.mapM fun call => call.perform.run

/-! ## A bus without a width -/

/-- Without a width every call but a choice of one is refused, and touches
nothing. -/
theorem perform_of_unconfigured {bus : Bus σ}
    (unconfigured : bus.space.width? = none) {call : Call}
    (operates : ∀ bits, call ≠ .configure bits) :
    call.perform.run bus =
      .ok (.error (.widthNotConfigured bus.space.family), bus) := by
  obtain ⟨transport, ⟨family, width?⟩, config⟩ := bus
  cases unconfigured
  cases call with
  | configure bits => exact absurd rfl (operates bits)
  | _ => rfl

omit [Transport σ] in
theorem lift_eq_ok {α : Type} {operation : Op σ α} {bus next : Bus σ}
    {result : Except BusError α} :
    (lift operation).run bus = .ok (result, next) ↔
      ∃ transport, operation.run bus.transport = .ok (result, transport) ∧
        next = { bus with transport := transport } := by
  change (operation.run bus.transport >>= fun reached =>
    Except.ok (reached.1, { bus with transport := reached.2 })) = _ ↔ _
  rw [except_bind_eq_ok]
  constructor
  · rintro ⟨⟨_, transport⟩, ran, same⟩
    cases same
    exact ⟨transport, ran, rfl⟩
  · rintro ⟨transport, ran, rfl⟩
    exact ⟨_, ran, rfl⟩

/-! ## The choice of a width -/

/-- The bus after a choice of its width. -/
def withWidth (bus : Bus σ) (width : AddressWidth) : Bus σ :=
  { bus with
    transport := Transport.note (.widthChosen bus.space.family width)
      bus.transport
    space := ⟨bus.space.family, some width⟩ }

theorem configure_of_supported {bus : Bus σ} {bits : Nat} {width : AddressWidth}
    (supported : bus.space.family.width? bits = some width) :
    (Bus.configure bits).run bus = .ok (.ok width, bus.withWidth width) := by
  have configured : bus.space.configure bits =
      .ok ⟨bus.space.family, some width⟩ := by
    rw [AddressSpace.configure, supported]
  have chosen : (chooseWidth bus.space bits).run bus.transport =
      .ok (.ok (⟨bus.space.family, some width⟩, width),
        Transport.note (.widthChosen bus.space.family width)
        bus.transport) := by
    rw [chooseWidth, configured]
    rfl
  refine Op.bind_eq_ok.mpr (.inr ⟨bus, bus, rfl, ?_⟩)
  exact Op.bind_eq_ok.mpr (.inr ⟨_, _, lift_eq_ok.mpr ⟨_, chosen, rfl⟩, rfl⟩)

theorem configure_of_unsupported {bus : Bus σ} {bits : Nat}
    (unsupported : bus.space.family.width? bits = none) :
    (Bus.configure bits).run bus =
      .ok (.error (.unsupportedWidth bus.space.family bits), bus) := by
  have refused : bus.space.configure bits =
      .error (.unsupportedWidth bus.space.family bits) := by
    rw [AddressSpace.configure, unsupported]
  have unchosen : (chooseWidth bus.space bits).run bus.transport =
      .ok (.error (.unsupportedWidth bus.space.family bits),
        bus.transport) := by
    rw [chooseWidth, refused]
    rfl
  refine Op.bind_eq_ok.mpr (.inr ⟨bus, bus, rfl, ?_⟩)
  exact Op.bind_eq_ok.mpr (.inl ⟨_, lift_eq_ok.mpr ⟨_, unchosen, rfl⟩, rfl⟩)

theorem perform_configure_of_supported {bus : Bus σ} {bits : Nat}
    {width : AddressWidth}
    (supported : bus.space.family.width? bits = some width) :
    (Call.configure bits).perform.run bus =
      .ok (.ok (.chosen width), bus.withWidth width) :=
  Op.map_eq_ok.mpr ⟨.ok width, configure_of_supported supported, rfl⟩

theorem perform_configure_of_unsupported {bus : Bus σ} {bits : Nat}
    (unsupported : bus.space.family.width? bits = none) :
    (Call.configure bits).perform.run bus =
      .ok (.error (.unsupportedWidth bus.space.family bits), bus) :=
  Op.map_eq_ok.mpr ⟨.error _, configure_of_unsupported unsupported, rfl⟩

/-- A choice of a width either takes effect or changes nothing. -/
theorem configured_or_refused {bus next : Bus σ} {bits : Nat}
    {result : Except BusError Answer}
    (performed : (Call.configure bits).perform.run bus = .ok (result, next)) :
    (∃ width, bus.space.family.width? bits = some width ∧
      result = .ok (.chosen width) ∧
      next.space = ⟨bus.space.family, some width⟩) ∨
    (bus.space.family.width? bits = none ∧
      result = .error (.unsupportedWidth bus.space.family bits) ∧
      next = bus) := by
  cases supported : bus.space.family.width? bits with
  | none =>
      cases (perform_configure_of_unsupported supported).symm.trans performed
      exact .inr ⟨rfl, rfl, rfl⟩
  | some width =>
      cases (perform_configure_of_supported supported).symm.trans performed
      exact .inl ⟨width, rfl, rfl, rfl⟩

/-! ## A bus with a width -/

omit [Transport σ] in
theorem width_bind_run {α : Type} {bus : Bus σ} {chosen : AddressWidth}
    (configured : bus.space.width? = some chosen)
    (next : AddressWidth → Op (Bus σ) α) :
    (Bus.width >>= next).run bus = (next chosen).run bus := by
  obtain ⟨transport, ⟨family, width?⟩, config⟩ := bus
  cases configured
  rfl

omit [Transport σ] in
/-- With a width an operation on the transport runs on it alone. -/
theorem gated_lift_eq_ok {α : Type} {bus next : Bus σ} {chosen : AddressWidth}
    {result : Except BusError α} (operation : Family → Op σ α)
    (configured : bus.space.width? = some chosen) :
    (do
      let _ ← Bus.width
      let family := (← get).space.family
      lift (operation family) : Op (Bus σ) α).run bus = .ok (result, next) ↔
        ∃ transport, (operation bus.space.family).run bus.transport =
          .ok (result, transport) ∧
          next = { bus with transport := transport } := by
  rw [width_bind_run configured]
  exact lift_eq_ok

section Engines

variable {α : Type} {entropy : UInt64} {bus next : Bus σ}
  {chosen : AddressWidth}

theorem withEngine_of_refused {fault : BusError}
    {operation : Timed (Engine σ ChaCha) (Except BusError α)}
    (configured : bus.space.width? = some chosen)
    (refused : Engine.new bus.transport chosen bus.config entropy =
      .error fault) :
    (withEngine entropy operation).run bus = .ok (.error fault, bus) := by
  rw [withEngine, width_bind_run configured]
  simp only [ExceptT.run, ExceptT.mk, refused]
  rfl

/-- An operation on a new engine leaves the bus with the transport of the
engine. -/
theorem withEngine_of_opened {engine : Engine σ ChaCha}
    {operation : Timed (Engine σ ChaCha) (Except BusError α)}
    (configured : bus.space.width? = some chosen)
    (opened : Engine.new bus.transport chosen bus.config entropy = .ok engine) :
    (withEngine entropy operation).run bus =
      (operation engine >>= fun reached =>
        .ok (reached.1, { bus with transport := reached.2.transport })) := by
  rw [withEngine, width_bind_run configured]
  simp only [ExceptT.run, ExceptT.mk, opened]
  rfl

/-- With a width a row of engine calls runs on a new engine, if the parameters
of the engine allow for one. -/
theorem withEngine_row_eq_ok {row : Timed (Engine σ ChaCha) α}
    {result : Except BusError α} (configured : bus.space.width? = some chosen) :
    (withEngine entropy (Except.ok <$> row)).run bus = .ok (result, next) ↔
      (∃ fault,
        Engine.new bus.transport chosen bus.config entropy = .error fault ∧
        result = .error fault ∧ next = bus) ∨
      (∃ engine stopped answers,
        Engine.new bus.transport chosen bus.config entropy = .ok engine ∧
        row engine = .ok (answers, stopped) ∧ result = .ok answers ∧
        next = { bus with transport := stopped.transport }) := by
  cases opened : Engine.new bus.transport chosen bus.config entropy with
  | error fault =>
      rw [withEngine_of_refused configured opened]
      simp [eq_comm]
  | ok engine =>
      rw [withEngine_of_opened configured opened, except_bind_eq_ok]
      constructor
      · rintro ⟨⟨_, stopped⟩, wrapped, same⟩
        obtain ⟨answers, ran, rfl⟩ := Timed.map_eq_ok.mp wrapped
        cases same
        exact .inr ⟨engine, stopped, answers, rfl, ran, rfl, rfl⟩
      · rintro (⟨_, impossible, _⟩ | ⟨_, stopped, answers, same, ran, rfl, rfl⟩)
        · cases impossible
        · cases same
          exact ⟨(.ok answers, stopped),
            Timed.map_eq_ok.mpr ⟨answers, ran, rfl⟩, rfl⟩

end Engines

end Backplane.Bus
