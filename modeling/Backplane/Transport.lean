import Backplane.Dma.Request
import Backplane.Event

/-!
# Transports

A transport is the channel to a backplane.  Operations on a state either give a
result or fail with a bus error, and keep the state they reached in both
cases; only a clock overflow leaves no state behind.
-/

namespace Backplane

/-- A step that takes time and cannot fail otherwise. -/
abbrev Timed (σ : Type) := StateT σ (Except ClockOverflow)

/-- An operation that may fail and keeps its state when it does. -/
abbrev Op (σ : Type) := ExceptT BusError (Timed σ)

/-- A channel to a backplane.  An error means that the channel itself broke: a
block that times out is a reply. -/
class Transport (σ : Type) where
  kind : TransportKind
  /-- Run the cycles of a request. -/
  submit : Dma.Request → Op σ Dma.Reply
  /-- Drive a control line. -/
  setSignal : Signal → Bool → Op σ Unit
  /-- Sample the grant jumpers; only meaningful on a quiescent bus. -/
  sampleGrants : Op σ GrantMask
  /-- Time since the transport was opened. -/
  now : σ → Nat
  /-- Let time pass. -/
  sleep : Nat → Timed σ Unit
  /-- Write an event to the journal. -/
  note : Event → σ → σ

namespace Transport

variable {σ : Type} [Transport σ]

/-- Write an event to the journal, as an operation. -/
def report (event : Event) : Op σ Unit :=
  modify (note event)

end Transport

end Backplane
