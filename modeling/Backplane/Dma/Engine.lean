import Backplane.Address.Range
import Backplane.Dma.Config
import Backplane.Random.ChaCha
import Backplane.Transport

/-!
# The transfer engine

An engine submits blocks to the transport it holds, and leaves the bus idle
after each so that transfers take no more than their share of bus time.  On
top of single blocks it moves whole address ranges between the bus and a
buffer that is indexed by word number, in one block or in many of random
length.
-/

namespace Backplane.Dma

/-- An engine: its transport, its parameters, and what it has done so far. -/
structure Engine (σ γ : Type) where
  transport : σ
  width : AddressWidth
  config : Config
  generator : γ
  stats : Stats := {}
  /-- The completion of the last transfer that nobody waited for. -/
  pending? : Option Completion := none

namespace Engine

variable {σ γ : Type} [Transport σ] [RandomSource γ]

/-- An engine for a transport, with the generator of the configured seed, or
of `entropy` if there is none. -/
def new (transport : σ) (width : AddressWidth) (config : Config)
    (entropy : UInt64) : Except BusError (Engine σ ChaCha) := do
  config.validate
  let opened := Event.engineOpened config.slot config.bandwidth
    (Transport.kind σ)
  return {
    transport := Transport.note opened transport
    width := width
    config := config
    generator := ChaCha.ofSeed (config.seed?.getD entropy) }

/-- Run a step on the transport. -/
def timed {α : Type} (step : Timed σ α) :
    Timed (Engine σ γ) α := fun engine => do
  let ⟨transport, width, config, generator, stats, pending?⟩ := engine
  let (result, transport) ← step transport
  return (result, ⟨transport, width, config, generator, stats, pending?⟩)

/-- Draw from the generator. -/
def draw {α : Type} (step : γ → α × γ) : Timed (Engine σ γ) α := fun engine =>
  let ⟨transport, width, config, generator, stats, pending?⟩ := engine
  let (result, generator) := step generator
  return (result, ⟨transport, width, config, generator, stats, pending?⟩)

/-- Write an event to the journal. -/
def note (event : Event) : Timed (Engine σ γ) Unit :=
  timed (modify (Transport.note event))

/-- The time on the transport. -/
def now : Timed (Engine σ γ) Nat := do
  return Transport.now (← get).transport

/-- The idle time after a transfer: with it, the transfer has taken `percent`
percent of the time, rounded down to a whole nanosecond. -/
def idleTime (percent elapsed : Nat) : Except ClockOverflow Nat := do
  let scaled ← Duration.times elapsed 100
  return scaled / percent - elapsed

/-- Leave the bus idle after a transfer. -/
def throttle (elapsed : Nat) : Timed (Engine σ γ) Unit := do
  let percent := (← get).config.bandwidth
  if percent < 100 then
    let idle ← idleTime percent elapsed
    if idle ≠ 0 then
      timed (Transport.sleep idle)
      let throttled ← Duration.plus (← get).stats.throttled idle
      modify fun engine => { engine with
        stats := { engine.stats with throttled } }

/-- Carry out a request: submit it, count it, and leave the bus idle. -/
def carryOut (request : Request) :
    Timed (Engine σ γ) (Except BusError (Completion × Array UInt16)) := do
  let ⟨slot, cycle, start, buffer, blocking⟩ := request
  let count := buffer.words.size
  let before ← now
  match ← timed
    (Transport.submit ⟨slot, cycle, start, buffer, blocking⟩).run with
  | .error fault => return .error fault
  | .ok reply =>
    let elapsed := (← now) - before
    let completion : Completion := ⟨cycle, start, count, reply.outcome, elapsed⟩
    modify fun engine => { engine with stats := engine.stats.count completion }
    throttle elapsed
    return .ok (completion, reply.words)

/-- Submit one block.  A block that is not waited for leaves its completion to
be collected; a timeout is no error here. -/
def transfer (blocking : Bool) (cycle : Cycle) (start : Nat) (buffer : Buffer) :
    Timed (Engine σ γ)
    (Except BusError (Option Completion × Array UInt16)) := do
  let slot := (← get).config.slot
  match Request.ofBuffer slot cycle start buffer blocking with
  | .error fault => return .error fault
  | .ok request =>
    note (.blockIssued cycle start request.lastAddress slot)
    match ← carryOut request with
    | .error fault => return .error fault
    | .ok (completion, words) =>
      if blocking then
        return .ok (some completion, words)
      else
        modify fun engine => { engine with pending? := some completion }
        return .ok (none, words)

/-- Collect the completion of the last block that was not waited for. -/
def takeCompletion : Timed (Engine σ γ) (Option Completion) := do
  let pending? := (← get).pending?
  modify fun engine => { engine with pending? := none }
  return pending?

/-- Put words into a buffer from an index on. -/
def overwrite (buffer : Array UInt16) (first : Nat) (words : Array UInt16) :
    Array UInt16 :=
  words.size.fold (fun index bound buffer =>
    buffer.setIfInBounds (first + index) words[index])
    buffer

/-- Move `count` words of a buffer in one block that is waited for.  The buffer
comes back with what was read, also when the block timed out. -/
def moveBlock (cycle : Cycle) (buffer : Array UInt16) (address count : Nat) :
    Timed (Engine σ γ) (Array UInt16 × Except BusError Unit) := do
  let words := buffer.extract (address / 2) (address / 2 + count)
  match ← transfer true cycle address
    (if cycle.isRead then .sink words else .source words) with
  | .error fault => return (buffer, .error fault)
  | .ok (completion?, words) =>
    let buffer :=
      if cycle.isRead then overwrite buffer (address / 2) words else buffer
    match completion?.map Completion.outcome with
    | some (.timedOut fault) =>
      note (.blockTimedOut (← get).width cycle address fault)
      return (buffer, .error (.timeout fault))
    | _ => return (buffer, .ok ())

/-- Check a range against the address space and the length of a buffer. -/
def checkRange (width : AddressWidth) (range : AddressRange)
    (bufferWords : Nat) : Except BusError Unit :=
  if !range.isWellFormed then
    .error (.invalidRequest (.badRange range.first range.last))
  else if width.maxAddress < range.last then
    .error (.invalidRequest (.rangeBeyondSpace width range.last))
  else if bufferWords ≤ range.lastWord then
    .error (.invalidRequest (.bufferTooShort bufferWords range.last))
  else
    .ok ()

/-- Move a checked range in one block. -/
def moveRange (cycle : Cycle) (buffer : Array UInt16) (range : AddressRange) :
    Timed (Engine σ γ) (Array UInt16 × Except BusError Unit) := do
  match checkRange (← get).width range buffer.size with
  | .error fault => return (buffer, .error fault)
  | .ok () => moveBlock cycle buffer range.first range.wordCount

/-- Write a range from a buffer in one block. -/
def writeRange (buffer : Array UInt16) (range : AddressRange) :
    Timed (Engine σ γ) (Array UInt16 × Except BusError Unit) :=
  moveRange .dataOut buffer range

/-- Read a range into a buffer in one block. -/
def readRange (buffer : Array UInt16) (range : AddressRange) :
    Timed (Engine σ γ) (Array UInt16 × Except BusError Unit) :=
  moveRange .dataIn buffer range

/-- Move the last `remaining` words of a range in blocks of random length.  The
result tells how many blocks were issued, `blocks` before these included. -/
def moveBlocks (cycle : Cycle) (buffer : Array UInt16)
    (address remaining blocks : Nat) :
    Timed (Engine σ γ) (Array UInt16 × Except BusError Nat) := do
  if done : remaining = 0 then
    return (buffer, .ok blocks)
  else
    let ⟨count, positive⟩ ← draw (RandomSource.blockLength remaining)
    have : remaining - count < remaining :=
      Nat.sub_lt (Nat.pos_of_ne_zero done) positive
    match ← moveBlock cycle buffer address count with
    | (buffer, .error fault) => return (buffer, .error fault)
    | (buffer, .ok ()) =>
      moveBlocks cycle buffer (address + 2 * count)
        (remaining - count) (blocks + 1)
termination_by remaining
decreasing_by assumption

/-- Move a range in blocks of random length.  The blocks end with the first
that fails; otherwise the result is their number. -/
def accessRandom (cycle : Cycle) (buffer : Array UInt16)
    (range : AddressRange) :
    Timed (Engine σ γ) (Array UInt16 × Except BusError Nat) := do
  match checkRange (← get).width range buffer.size with
  | .error fault => return (buffer, .error fault)
  | .ok () => moveBlocks cycle buffer range.first range.wordCount 0

end Engine

end Backplane.Dma
