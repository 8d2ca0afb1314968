/-!
# Control signals

The power-fail and reset lines of the two bus families.  Which of them a
backplane has is decided by its family.
-/

namespace Backplane

/-- A control line that can be driven on request. -/
inductive Signal where
  /-- Mains power is failing. -/
  | aclo
  /-- The DC voltages are about to drop. -/
  | dclo
  /-- Bus reset. -/
  | init
  /-- Mains power is good. -/
  | bpok
  /-- The DC voltages are good. -/
  | bdcok
  /-- Bus reset. -/
  | binit
deriving DecidableEq

namespace Signal

/-- The name printed on the backplane. -/
def name : Signal → String
  | aclo => "ACLO"
  | dclo => "DCLO"
  | init => "INIT"
  | bpok => "BPOK"
  | bdcok => "BDCOK"
  | binit => "BINIT"

end Signal

end Backplane
