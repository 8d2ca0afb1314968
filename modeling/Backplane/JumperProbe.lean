import Backplane.PowerSequence

/-!
# The jumper probe

A closed grant jumper behind our own slot would let grants pass straight
through.  The probe first runs a power cycle, so that no grant is in flight,
and then samples the jumpers.
-/

namespace Backplane

variable {σ : Type} [Transport σ]

/-- Power-cycle the bus and sample the grant jumpers.  Closed jumpers are an
error or only a finding, as the caller decides. -/
def probeJumpers (family : Family) (refuseClosed : Bool) : Op σ GrantMask := do
  PowerSequence.powerCycle family
  let mask ← Transport.sampleGrants
  if mask.isClear then
    Transport.report .jumpersOpen
    return mask
  else if refuseClosed then
    mask.closedLines.forM fun line => Transport.report (.jumperClosed line)
    throw (.arbitrationFault mask)
  else
    Transport.report (.jumpersClosed mask)
    return mask

end Backplane
