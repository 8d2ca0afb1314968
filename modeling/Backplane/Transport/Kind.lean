/-!
# Kinds of transport

The two ways to reach a backplane.
-/

namespace Backplane

/-- How a backplane is reached. -/
inductive TransportKind where
  /-- Shared memory of the processor that drives the lines. -/
  | mailbox
  /-- A model in memory, without hardware. -/
  | software
deriving DecidableEq

namespace TransportKind

def text : TransportKind → String
  | mailbox => "Mailbox"
  | software => "Software (simulated bus)"

end TransportKind

end Backplane
