import Backplane.Dma.Request
import Backplane.Exerciser.Report
import Backplane.Transport.Kind

/-!
# Journal events

What an operation reports while it runs.  An event is a value; its severity
and its wording are functions of it.
-/

namespace Backplane

open Text

/-- How much an event matters, the most serious first. -/
inductive Severity where
  | error
  | warn
  | info
  | debug
  | trace
deriving DecidableEq

/-- Something worth a line in the journal. -/
inductive Event where
  | memoryInstalled (bytes : Nat)
  | busOpened (family : Family) (kind : TransportKind)
  | widthChosen (family : Family) (width : AddressWidth)
  | powerLoss (family : Family)
  | powerReturn (family : Family)
  | powerEdge (step : PowerStep)
  | resetPulse (family : Family)
  | jumpersOpen
  | jumperClosed (line : GrantLine)
  | jumpersClosed (mask : GrantMask)
  | engineOpened (slot bandwidth : Nat) (kind : TransportKind)
  | blockIssued (cycle : Cycle) (start last slot : Nat)
  | blockMoved (cycle : Cycle) (start words : Nat) (success : Bool)
  | blockTimedOut (width : AddressWidth) (cycle : Cycle) (start address : Nat)
  | memorySized (width : AddressWidth) (firstInvalid : Nat)
  | exerciseStarted (width : AddressWidth) (range : AddressRange)
      (mode : Exerciser.Mode)
  | exerciseTimedOut (width : AddressWidth) (address : Nat)
  | exerciseEnded (report : Exerciser.Report)
  | passFailed (pass mismatches : Nat)
  | wordDiffers (width : AddressWidth) (mismatch : Exerciser.Mismatch)
  | wordAliased (width : AddressWidth) (found : UInt16) (address : Nat)
deriving DecidableEq

namespace Event

def severity : Event → Severity
  | jumperClosed _ | exerciseTimedOut .. | wordDiffers ..
      | wordAliased .. => .error
  | blockTimedOut .. | passFailed .. => .warn
  | busOpened .. | widthChosen .. | powerLoss _ | powerReturn _ | resetPulse _
  | jumpersOpen | jumpersClosed _ | memorySized .. | exerciseStarted ..
  | exerciseEnded _ => .info
  | memoryInstalled _ | powerEdge _ | engineOpened .. | blockIssued .. => .debug
  | blockMoved .. => .trace

/-- A data word in octal. -/
private def word (value : UInt16) : String :=
  octalWord value.toNat

def message : Event → String
  | memoryInstalled bytes =>
    s!"SoftwareTransport: {bytes / 2048} KW memory installed"
  | busOpened family kind => s!"{family.title} bus via {kind.text}"
  | widthChosen family width =>
    s!"{family.title}: {width.bits}-bit addressing, " ++
      s!"{width.wordCount} words, " ++
      s!"io page at {width.formatAddress width.ioPageStart}"
  | powerLoss family =>
    s!"{family.title}: power down, {Duration.text (totalWait family.powerDown)}"
  | powerReturn family =>
    s!"{family.title}: power up, {Duration.text (totalWait family.powerUp)}"
  | powerEdge step =>
    let level := if step.asserted then "asserted" else "negated"
    s!"{step.signal.name} {level}, wait {Duration.text step.wait}"
  | resetPulse family =>
    s!"{family.title}: {family.initSignal.name} pulse, " ++
      Duration.text family.initPulse
  | jumpersOpen => "Grant lines: all jumpers open"
  | jumperClosed line =>
    s!"{line.name} IN-OUT jumper closed: remove it or move the card"
  | jumpersClosed mask => s!"Grant lines: jumpers closed on {mask.text}"
  | engineOpened slot bandwidth kind =>
    s!"DMA engine: slot {slot}, bandwidth {bandwidth}%, via {kind.text}"
  | blockIssued cycle start last slot =>
    s!"DMA {cycle.mnemonic} {octal start}..{octal last}, slot {slot}"
  | blockMoved cycle start words success =>
    s!"{cycle.mnemonic} {octal start}+{words} words: success={success}"
  | blockTimedOut width cycle start address =>
    s!"{cycle.mnemonic} {width.formatAddress start}: " ++
      s!"bus timeout at {width.formatAddress address}"
  | memorySized width firstInvalid =>
    s!"Memory installed: {firstInvalid / 2048} KW, " ++
      s!"first invalid address {width.formatAddress firstInvalid}"
  | exerciseStarted width range mode =>
    s!"Exercising {width.formatAddress range.first}.." ++
      s!"{width.formatAddress range.last} with {mode.name}"
  | exerciseTimedOut width address =>
    s!"Bus timeout at {width.formatAddress address}"
  | exerciseEnded report =>
    s!"{report.passes} passes, {report.blocksWritten} blocks written, " ++
      s!"{report.blocksRead} blocks read, stopped: {report.stop.text}"
  | passFailed pass mismatches => s!"Pass {pass}: {mismatches} mismatches"
  | wordDiffers width mismatch =>
    s!"Mismatch at {width.formatAddress mismatch.address}: " ++
      s!"expected {word mismatch.expected}, found {word mismatch.found}, " ++
      s!"diff {word mismatch.diff}"
  | wordAliased width found address =>
    s!"  {word found} found at {width.formatAddress address} also"

end Event

end Backplane
