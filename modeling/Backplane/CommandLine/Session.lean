import Backplane.Bus
import Backplane.CommandLine.Arguments
import Backplane.Text.Seconds
import Backplane.Transport.Simulated

/-!
# Command-line sessions

One session opens a simulated bus and runs one command on it.  It ends with an
exit code and the texts of its two output streams: 0 for success, 2 for a bus
error that ends the command for good, and 1 for every other failure, among
them all failures to open the bus.
-/

namespace Backplane.CommandLine

open Text

/-- Why a session failed. -/
inductive Failure where
  | bus (error : BusError)
  | operand (error : ParseError)
  | widthRequired (family : Family)

namespace Failure

def message : Failure → String
  | bus error => error.message
  | operand error => error.message
  | widthRequired family => s!"--width is required for {family.title}"

/-- Whether the bus must not be used any further. -/
def isFatal : Failure → Bool
  | bus error => error.isFatal
  | _ => false

end Failure

/-- How a session ended. -/
inductive Ending where
  /-- The arguments do not follow the grammar. -/
  | usage
  | exited (code : Nat) (output errors : String)

/-- A command on an open bus. -/
abbrev Job := ExceptT Failure (Timed (Bus SimulatedBus))

/-- An operation of the bus as part of a command. -/
def onBus {α : Type} (operation : Op (Bus SimulatedBus) α) : Job α :=
  operation.adapt Failure.bus

/-- An operand of a command. -/
def operand {α : Type} (result : Except ParseError α) : Job α :=
  MonadExcept.ofExcept (result.mapError Failure.operand)

/-- More requests than any run from the command line can issue. -/
def unlimitedRequests : Nat := 1 <<< 62

/-- The requests that a run may issue before it is cancelled.  Only a timer
cancels runs from the command line, and `inTime` is how many requests come
before it goes off. -/
def allowance (inTime : Nat) (seconds? : Option Nat) : Nat :=
  if seconds?.isSome then inTime else unlimitedRequests

/-- Lines of text, each ended. -/
def unlines (lines : List String) : String :=
  String.join (lines.map (· ++ "\n"))

def sizeText (width : AddressWidth) (firstInvalid : Nat) : String :=
  if firstInvalid = 0 then
    "No memory installed"
  else
    s!"Memory: {firstInvalid / 2048} KW, " ++
      s!"last valid address {width.formatAddress (firstInvalid - 2)}"

/-- The lines on one word that read back wrong. -/
def mismatchLines (width : AddressWidth) (mismatch : Exerciser.Mismatch) :
    List String :=
  let word (value : UInt16) := octalWord value.toNat
  let line :=
    s!"  {width.formatAddress mismatch.address}  " ++
      s!"expected {word mismatch.expected}  " ++
      s!"found {word mismatch.found}  diff {word mismatch.diff}"
  line :: mismatch.aliases.map fun address =>
    s!"      also written at {width.formatAddress address}"

/-- The lines on why a run ended. -/
def stopLines (width : AddressWidth) (report : Exerciser.Report) :
    List String :=
  match report.stop with
  | .cancelled => ["Stopped       : cancelled"]
  | .timeout address =>
    [s!"Stopped       : bus timeout at {width.formatAddress address}"]
  | .mismatch =>
    s!"Stopped       : {report.mismatchCount} mismatches" ::
      report.mismatches.flatMap (mismatchLines width)

/-- The lines on a run. -/
def reportLines (width : AddressWidth) (report : Exerciser.Report)
    (stats : Dma.Stats) : List String :=
  [s!"Mode          : {report.mode.name}",
    s!"Passes        : {report.passes}",
    s!"Blocks written: {report.blocksWritten}",
    s!"Blocks read   : {report.blocksRead}",
    s!"DMA words     : {stats.words}  " ++
      s!"({secondsText stats.throttled} throttled)"] ++
    stopLines width report

/-- Run an exerciser on a new engine; the counters of the engine come along. -/
def exercise (entropy : UInt64) (range : AddressRange) (mode : Exerciser.Mode)
    (cancelAfter : Nat) :
    Op (Bus SimulatedBus) (Exerciser.Report × Dma.Stats) :=
  Bus.withEngine entropy do
    match ← Exerciser.run range mode cancelAfter with
    | .error fault => return .error fault
    | .ok report => return .ok (report, (← get).stats)

/-- Run a command; the result is its output. -/
def perform (entropy : UInt64) (inTime : Nat) : Command → Job String
  | .size => do
    let width ← onBus Bus.width
    let firstInvalid ← onBus (Bus.withEngine entropy Exerciser.probeSize)
    return unlines [sizeText width firstInvalid]
  | .exercise firstText lastText mode seconds? => do
    let width ← onBus Bus.width
    let first ← operand (width.readAddress firstText)
    let last ← operand (width.readAddress lastText)
    let (report, stats) ←
      onBus (exercise entropy ⟨first, last⟩ mode (allowance inTime seconds?))
    return unlines (reportLines width report stats)
  | .powerCycle => do
    onBus Bus.powerCycle
    return ""
  | .init => do
    onBus Bus.pulseInit
    return ""
  | .probeArbitration refuseClosed => do
    let mask ← onBus (Bus.probeJumpers refuseClosed)
    return unlines [s!"Closed grant jumpers: {mask.text}"]
  | .format addressText => do
    let width ← onBus Bus.width
    let address ← operand (width.readAddress addressText)
    return unlines [width.formatAddress address]

/-- Choose the width that was asked for, or rely on the wiring. -/
def chooseWidth (setup : Setup) : Job Unit :=
  match setup.bits?, setup.family.fixedWidth? with
  | some bits, _ => do
    let _ ← onBus (Bus.configure bits)
  | none, some _ => return
  | none, none => throw (.widthRequired setup.family)

/-- The bus of a setup, before its width is chosen. -/
def newBus (setup : Setup) (environment : String → Option String) :
    Except Failure (Bus SimulatedBus) :=
  let transport := SimulatedBus.install {} (setup.memory * 2048)
  let bus := do
    let config ← Dma.Config.ofEnvironment environment
    (Bus.new transport setup.family).withConfig config
  bus.mapError Failure.bus

/-- The end of a session that failed. -/
def failed (fatal : Bool) (failure : Failure) : Ending :=
  if fatal then
    .exited 2 "" s!"FATAL: {failure.message}\n"
  else
    .exited 1 "" s!"Error: {failure.message}\n"

/-- Run one session. -/
def session (setup : Setup) (command : Command)
    (environment : String → Option String) (entropy : UInt64) (inTime : Nat) :
    Except ClockOverflow Ending := do
  match newBus setup environment with
  | .error failure => return failed false failure
  | .ok bus =>
    match ← chooseWidth setup bus with
    | (.error failure, _) => return failed false failure
    | (.ok (), bus) =>
      match ← perform entropy inTime command bus with
      | (.error failure, _) => return failed failure.isFatal failure
      | (.ok output, _) => return .exited 0 output ""

/-- What the program prints for its version. -/
def versionText : String := "qbone 0.1.0\n"

/-- Run the program. -/
def run (arguments : List String) (environment : String → Option String)
    (entropy : UInt64) (inTime : Nat := unlimitedRequests) : Ending :=
  match Invocation.ofArguments? arguments with
  | none => .usage
  | some .version => .exited 0 versionText ""
  | some (.run setup command) =>
    match session setup command environment entropy inTime with
    | .ok ending => ending
    | .error overflow => .exited 101 "" (overflow.message ++ "\n")

end Backplane.CommandLine
