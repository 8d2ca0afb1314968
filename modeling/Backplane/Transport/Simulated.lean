import Backplane.Transport
import Backplane.Transport.Memory

/-!
# The simulated bus

A backplane in memory: a memory board, grant jumpers, and a clock that sleeps
and bus cycles advance.  It keeps a record of every request, of every edge on a
control line, and of the journal.
-/

namespace Backplane

/-- What keeps the time of a simulated bus. -/
inductive ClockMode where
  /-- Sleeps and bus cycles advance the clock at once. -/
  | simulated
  /-- The clock runs by itself, and simulated bus cycles take none of its
  time. -/
  | wall
deriving DecidableEq

/-- One request, as seen on the bus. -/
structure LoggedRequest where
  slot : Nat
  cycle : Cycle
  start : Nat
  words : Nat
  outcome : Dma.Outcome
deriving DecidableEq

/-- One edge on a control line. -/
structure LoggedEdge where
  time : Nat
  signal : Signal
  asserted : Bool
deriving DecidableEq

/-- The state of a simulated bus. -/
structure SimulatedBus where
  board : MemoryBoard := .empty
  /-- The jumpers reported as closed. -/
  closed : GrantMask := .clear
  clockMode : ClockMode := .simulated
  /-- The time shown by the clock. -/
  clock : Nat := 0
  /-- Time of one bus cycle. -/
  wordTime : Nat := Duration.micros 1
  requests : Array LoggedRequest := #[]
  edges : Array LoggedEdge := #[]
  journal : Array Event := #[]

namespace SimulatedBus

/-- Bus cycles that pass before a silent address is given up. -/
def timeoutCycles : Nat := 10

/-- Install memory from address zero on. -/
def install (bus : SimulatedBus) (bytes : Nat) : SimulatedBus :=
  { bus with
    board := bus.board.install bytes
    journal := bus.journal.push (.memoryInstalled bytes) }

/-- Let bus cycles take their time. -/
def advance (mode : ClockMode) (clock duration : Nat) :
    Except ClockOverflow Nat :=
  match mode with
  | .simulated => Duration.plus clock duration
  | .wall => .ok clock

/-- Move the words of a buffer: the board and the words afterwards, and how
many were acknowledged.  The direction of the buffer decides; the cycle only
tells byte writes from word writes. -/
def move (board : MemoryBoard) (cycle : Cycle) (start : Nat)
    (buffer : Dma.Buffer) : MemoryBoard × Array UInt16 × Nat :=
  match buffer with
  | .sink words =>
    let (words, done) := board.readBlock start words 0
    (board, words, done)
  | .source words =>
    let (board, done) := board.writeBlock cycle start words 0
    (board, words, done)

/-- Run a request.  A block that times out also takes the time after which the
silent address is given up. -/
def submit (request : Dma.Request) :
    Timed SimulatedBus Dma.Reply := fun bus => do
  let ⟨slot, cycle, start, buffer, _⟩ := request
  let ⟨board, closed, clockMode, clock, wordTime, requests, edges, journal⟩ :=
    bus
  let count := buffer.words.size
  let (board, words, done) := move board cycle start buffer
  let (outcome, cycles) :=
    if done = count then
      (Dma.Outcome.acknowledged, done)
    else
      (Dma.Outcome.timedOut (start + 2 * done), done + timeoutCycles)
  let time ← Duration.times wordTime cycles
  let clock ← advance clockMode clock time
  let journal := journal.push (.blockMoved cycle start count outcome.success)
  let requests := requests.push ⟨slot, cycle, start, count, outcome⟩
  return (⟨words, outcome⟩,
    ⟨board, closed, clockMode, clock, wordTime, requests, edges, journal⟩)

/-- Record an edge at the present time. -/
def setSignal (signal : Signal) (asserted : Bool) (bus : SimulatedBus) :
    SimulatedBus :=
  { bus with edges := bus.edges.push ⟨bus.clock, signal, asserted⟩ }

/-- Sleeping advances a clock of either mode. -/
def sleep (duration : Nat) : Timed SimulatedBus Unit := fun bus => do
  let clock ← Duration.plus bus.clock duration
  return ((), { bus with clock := clock })

def note (event : Event) (bus : SimulatedBus) : SimulatedBus :=
  { bus with journal := bus.journal.push event }

/-- Put a word into memory, without a bus cycle. -/
def poke (bus : SimulatedBus) (address : Nat) (value : UInt16) : SimulatedBus :=
  { bus with board := bus.board.poke address value }

instance : Transport SimulatedBus where
  kind := .software
  submit request := submit request
  setSignal signal asserted := modify (setSignal signal asserted)
  sampleGrants := do return (← get).closed
  now bus := bus.clock
  sleep := sleep
  note := note

end SimulatedBus

end Backplane
