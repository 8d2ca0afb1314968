import Backplane.Transport

/-!
# Power sequences

The loss and the return of mains power are announced by driving the power-fail
lines of a family in a fixed order, with a wait after each edge.  A sequence
that was started ends only with its table or with a failing transport.
-/

namespace Backplane.PowerSequence

variable {σ : Type} [Transport σ]

/-- Drive the edges of a table in order, waiting after each. -/
def runSteps : List PowerStep → Op σ Unit
  | [] => return
  | step :: rest => do
    Transport.report (.powerEdge step)
    Transport.setSignal step.signal step.asserted
    Transport.sleep (σ := σ) step.wait
    runSteps rest

/-- Announce the loss of power. -/
def powerDown (family : Family) : Op σ Unit := do
  Transport.report (.powerLoss family)
  runSteps family.powerDown

/-- Announce the return of power. -/
def powerUp (family : Family) : Op σ Unit := do
  Transport.report (.powerReturn family)
  runSteps family.powerUp

/-- Loss of power, then its return; it halts or restarts every processor. -/
def powerCycle (family : Family) : Op σ Unit := do
  powerDown family
  powerUp family

/-- Pulse the reset line. -/
def pulseInit (family : Family) : Op σ Unit := do
  Transport.report (.resetPulse family)
  Transport.setSignal family.initSignal true
  Transport.sleep (σ := σ) family.initPulse
  Transport.setSignal family.initSignal false

end Backplane.PowerSequence
