import Backplane.Error

/-!
# Block transfers

A request asks for one block of words at consecutive addresses.  The bus
answers with the words and an outcome: every word was acknowledged, or the
block ended at an address where no device answered.
-/

namespace Backplane.Dma

/-- The words of a transfer and which way they go. -/
inductive Buffer where
  /-- Words to write. -/
  | source (words : Array UInt16)
  /-- Words to fill. -/
  | sink (words : Array UInt16)

namespace Buffer

def words : Buffer → Array UInt16
  | source words | sink words => words

def isSink : Buffer → Bool
  | source _ => false
  | sink _ => true

def isEmpty (buffer : Buffer) : Bool :=
  buffer.words.isEmpty

end Buffer

/-- How a block ended. -/
inductive Outcome where
  | acknowledged
  /-- The first address that did not answer. -/
  | timedOut (address : Nat)
deriving DecidableEq

namespace Outcome

def success : Outcome → Bool
  | acknowledged => true
  | timedOut _ => false

/-- The address that did not answer; zero when every word was acknowledged. -/
def faultAddress : Outcome → Nat
  | acknowledged => 0
  | timedOut address => address

end Outcome

/-- One block, as handed to the bus. -/
structure Request where
  slot : Nat
  cycle : Cycle
  /-- Address of the first word. -/
  start : Nat
  /-- The words to write, or the words to be replaced by what is read. -/
  buffer : Buffer
  /-- Whether the caller waits for the completion. -/
  blocking : Bool

namespace Request

/-- Build a request, refusing a buffer of the wrong direction, an empty block
and an odd start. -/
def ofBuffer (slot : Nat) (cycle : Cycle) (start : Nat) (buffer : Buffer)
    (blocking : Bool) : Except BusError Request :=
  if buffer.isSink != cycle.isRead then
    .error (.invalidRequest (.wrongDirection cycle))
  else if buffer.isEmpty then
    .error (.invalidRequest (.noWords cycle))
  else if start % 2 != 0 then
    .error (.invalidRequest (.oddAddress cycle start))
  else
    .ok ⟨slot, cycle, start, buffer, blocking⟩

/-- The words of the buffer, whichever way they go. -/
def words (request : Request) : Array UInt16 :=
  request.buffer.words

def wordCount (request : Request) : Nat :=
  request.words.size

/-- Address of the last word. -/
def lastAddress (request : Request) : Nat :=
  request.start + 2 * (request.wordCount - 1)

end Request

/-- What comes back for a request: the words after the transfer, and how it
ended. -/
structure Reply where
  words : Array UInt16
  outcome : Outcome

/-- What the engine keeps of a request that was carried out. -/
structure Completion where
  cycle : Cycle
  start : Nat
  words : Nat
  outcome : Outcome
  /-- Time spent in the transfer. -/
  elapsed : Nat
deriving DecidableEq

/-- Counters over the lifetime of an engine. -/
structure Stats where
  transfers : Nat := 0
  words : Nat := 0
  timeouts : Nat := 0
  /-- Time spent idle to keep to the share of bus time. -/
  throttled : Nat := 0
deriving DecidableEq

namespace Stats

/-- Count a request that was carried out. -/
def count (stats : Stats) (completion : Completion) : Stats :=
  { stats with
    transfers := stats.transfers + 1
    words := stats.words + completion.words
    timeouts := stats.timeouts + if completion.outcome.success then 0 else 1 }

end Stats

end Backplane.Dma
