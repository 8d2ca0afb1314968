import Backplane.Address.Notation
import Backplane.Cycle
import Backplane.Family
import Backplane.Grant

/-!
# Bus errors

Each error is a cause with the values that belong to it; `BusError.message` is
the only place that words them.  All errors but a bus timeout are fatal: the
bus is wired or set up wrongly, and further cycles could do harm.
-/

namespace Backplane

/-- A parameter that the engine cannot work with. -/
inductive ConfigFault where
  | unreadable (name text : String)
  | slotOutOfRange (slot : Nat)
  | bandwidthOutOfRange (percent : Nat)
deriving DecidableEq

/-- A request that must not reach the bus. -/
inductive RequestFault where
  | wrongDirection (cycle : Cycle)
  | noWords (cycle : Cycle)
  | oddAddress (cycle : Cycle) (start : Nat)
  | badRange (first last : Nat)
  | rangeBeyondSpace (width : AddressWidth) (last : Nat)
  | bufferTooShort (words last : Nat)
  | badExerciseRange (first last : Nat)
  | exerciseBeyondSpace (width : AddressWidth) (last : Nat)
deriving DecidableEq

/-- Why an operation on the bus failed. -/
inductive BusError where
  /-- The family cannot carry that many address lines. -/
  | unsupportedWidth (family : Family) (bits : Nat)
  /-- An operation came before an address width was chosen. -/
  | widthNotConfigured (family : Family)
  /-- A parameter is out of range. -/
  | invalidConfig (fault : ConfigFault)
  /-- Grant jumpers are closed that have to be open. -/
  | arbitrationFault (closed : GrantMask)
  /-- No device answered at the address. -/
  | timeout (address : Nat)
  /-- The request is malformed. -/
  | invalidRequest (fault : RequestFault)
  /-- The channel to the bus itself failed. -/
  | transport (reason : String)
deriving DecidableEq

open Text

namespace ConfigFault

def message : ConfigFault → String
  | unreadable name text => s!"{name}={text} does not parse"
  | slotOutOfRange slot => s!"priority slot {slot} not in 1..31"
  | bandwidthOutOfRange percent => s!"DMA bandwidth {percent}% not in 1..100"

end ConfigFault

namespace RequestFault

def message : RequestFault → String
  | wrongDirection cycle =>
    s!"{cycle.mnemonic} with a buffer of the wrong direction"
  | noWords cycle => s!"{cycle.mnemonic} of zero words"
  | oddAddress cycle start => s!"{cycle.mnemonic} at odd address {octal start}"
  | badRange first last => s!"bad range {octal first}..{octal last}"
  | rangeBeyondSpace width last =>
    s!"range end {width.formatAddress last} " ++
      s!"beyond {width.bits}-bit address space"
  | bufferTooShort words last =>
    s!"buffer of {words} words does not cover {octal last}"
  | badExerciseRange first last =>
    s!"bad exerciser range {octal first}..{octal last}"
  | exerciseBeyondSpace width last =>
    s!"exerciser range end {octal last} beyond {width.bits}-bit address space"

end RequestFault

namespace BusError

/-- A list of widths in brackets. -/
private def widthsText (widths : List AddressWidth) : String :=
  "[" ++ ", ".intercalate (widths.map fun width => toString width.bits) ++ "]"

def message : BusError → String
  | unsupportedWidth family bits =>
    s!"{family.title}: unsupported address width {bits} " ++
      s!"(supported: {widthsText family.widths})"
  | widthNotConfigured family =>
    s!"{family.title}: address width not configured"
  | invalidConfig fault => s!"Invalid configuration: {fault.message}"
  | arbitrationFault closed =>
    s!"Arbitration fault: grant jumpers closed on {closed.text}"
  | timeout address => s!"Bus timeout at {octal address}"
  | invalidRequest fault => s!"Invalid request: {fault.message}"
  | transport reason => s!"Transport error: {reason}"

/-- The address of a timeout. -/
def faultAddress? : BusError → Option Nat
  | timeout address => some address
  | _ => none

/-- Only a timeout can be recovered from. -/
def isFatal : BusError → Bool
  | timeout _ => false
  | _ => true

theorem isFatal_eq_false_iff {error : BusError} :
    error.isFatal = false ↔ ∃ address, error = timeout address := by
  cases error <;> simp [isFatal]

end BusError

end Backplane
