import Backplane.Address.Space
import Backplane.Exerciser.Run
import Backplane.JumperProbe

/-!
# The bus

A backplane reached through one transport, with its address space and the
parameters of its transfer engines.  Nothing is driven before an address width
is chosen.
-/

namespace Backplane

/-- Choose the width of an address space, and write it to the journal. -/
def chooseWidth {σ : Type} [Transport σ] (space : AddressSpace) (bits : Nat) :
    Op σ (AddressSpace × AddressWidth) := do
  let space ← MonadExcept.ofExcept (space.configure bits)
  let width ← MonadExcept.ofExcept space.configured
  Transport.report (.widthChosen space.family width)
  return (space, width)

/-- A backplane behind a transport. -/
structure Bus (σ : Type) where
  transport : σ
  space : AddressSpace
  /-- Parameters of the engines opened on this bus. -/
  config : Dma.Config := {}

namespace Bus

variable {σ : Type} [Transport σ]

/-- A bus of a family behind a transport, with standard engine parameters. -/
def new (transport : σ) (family : Family) : Bus σ where
  transport := Transport.note (.busOpened family (Transport.kind σ)) transport
  space := .new family

/-- Replace the engine parameters. -/
def withConfig (bus : Bus σ) (config : Dma.Config) :
    Except BusError (Bus σ) := do
  config.validate
  return { bus with config := config }

/-- Run an operation on the transport. -/
def lift {α : Type} (operation : Op σ α) : Op (Bus σ) α := fun bus => do
  let ⟨transport, space, config⟩ := bus
  let (result, transport) ← operation transport
  return (result, ⟨transport, space, config⟩)

/-- The address width, or an error when none is chosen yet. -/
def width : Op (Bus σ) AddressWidth := do
  MonadExcept.ofExcept (← get).space.configured

/-- Choose the address width by its number of address lines. -/
def configure (bits : Nat) : Op (Bus σ) AddressWidth := do
  let (space, chosen) ← lift (chooseWidth (← get).space bits)
  modify fun bus => { bus with space := space }
  return chosen

/-- Announce the loss and the return of power. -/
def powerCycle : Op (Bus σ) Unit := do
  let _ ← width
  let family := (← get).space.family
  lift (PowerSequence.powerCycle family)

/-- Pulse the reset line. -/
def pulseInit : Op (Bus σ) Unit := do
  let _ ← width
  let family := (← get).space.family
  lift (PowerSequence.pulseInit family)

/-- Power-cycle the bus and sample the grant jumpers. -/
def probeJumpers (refuseClosed : Bool) : Op (Bus σ) GrantMask := do
  let _ ← width
  let family := (← get).space.family
  lift (Backplane.probeJumpers family refuseClosed)

/-- Run an operation on a new engine for this bus.  Without a configured seed
the engine's generator starts from `entropy`. -/
def withEngine {α : Type} (entropy : UInt64)
    (operation : Timed (Dma.Engine σ ChaCha) (Except BusError α)) :
    Op (Bus σ) α := do
  let chosen ← width
  ExceptT.mk fun bus => do
    let ⟨transport, space, config⟩ := bus
    match Dma.Engine.new transport chosen config entropy with
    | .error fault => return (.error fault, ⟨transport, space, config⟩)
    | .ok engine =>
      let (result, engine) ← operation engine
      return (result, ⟨engine.transport, space, config⟩)

end Bus

end Backplane
