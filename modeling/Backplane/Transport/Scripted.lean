import Backplane.Transport.Simulated

/-!
# Scripted failures

A transport that passes everything on to a simulated bus, except where a
script interferes: a call can fail without reaching the bus, and a request
that was carried out can be tampered with afterwards.
-/

namespace Backplane

/-- What happens to one request. -/
structure Interference where
  /-- Fail with this reason and do nothing. -/
  failure? : Option String := none
  /-- Bits to flip in the words that were read, by index. -/
  flips : List (Nat × UInt16) := []
  /-- Report a timeout at this address. -/
  fault? : Option Nat := none
  /-- Words to put into memory, by address. -/
  pokes : List (Nat × UInt16) := []
  /-- Set the clock that callers see back by this time. -/
  rewind : Nat := 0

/-- What happens to each request, to each edge, and to samples of the grants. -/
structure Script where
  onSubmit : Nat → Interference := fun _ => {}
  onSignal : Nat → Option String := fun _ => none
  onSample : Option String := none

/-- A simulated bus under a script. -/
structure ScriptedBus where
  inner : SimulatedBus
  script : Script := {}
  /-- Requests so far, those that failed included. -/
  submits : Nat := 0
  /-- Edges so far, those that failed included. -/
  signals : Nat := 0
  /-- Time by which callers see the clock set back. -/
  skew : Nat := 0

namespace ScriptedBus

/-- Flip bits of the words that were read. -/
def flipWords (words : Array UInt16) (flips : List (Nat × UInt16)) :
    Array UInt16 :=
  flips.foldl (fun words flip => words.modify flip.1 (· ^^^ flip.2)) words

/-- Put words into the memory of a bus. -/
def pokeAll (bus : SimulatedBus) (pokes : List (Nat × UInt16)) : SimulatedBus :=
  pokes.foldl (fun bus poke => bus.poke poke.1 poke.2) bus

/-- Apply the part of an interference that changes the reply. -/
def tamper (interference : Interference) (isSink : Bool) (reply : Dma.Reply) :
    Dma.Reply :=
  let words := if isSink then flipWords reply.words interference.flips
    else reply.words
  match interference.fault? with
  | some address => ⟨words, .timedOut address⟩
  | none => ⟨words, reply.outcome⟩

def submit (request : Dma.Request) : Op ScriptedBus Dma.Reply := fun bus => do
  let ⟨inner, script, submits, signals, skew⟩ := bus
  let interference := script.onSubmit submits
  match interference.failure? with
  | some reason =>
    return (.error (.transport reason),
      ⟨inner, script, submits + 1, signals, skew⟩)
  | none =>
    let isSink := request.buffer.isSink
    let (reply, inner) ← SimulatedBus.submit request inner
    return (.ok (tamper interference isSink reply),
      ⟨pokeAll inner interference.pokes, script, submits + 1, signals,
        skew + interference.rewind⟩)

def setSignal (signal : Signal) (asserted : Bool) :
    Op ScriptedBus Unit := fun bus =>
  match bus.script.onSignal bus.signals with
  | some reason =>
    return (.error (.transport reason), { bus with signals := bus.signals + 1 })
  | none =>
    return (.ok (),
      { bus with
        inner := bus.inner.setSignal signal asserted
        signals := bus.signals + 1 })

def sampleGrants : Op ScriptedBus GrantMask := fun bus =>
  match bus.script.onSample with
  | some reason => return (.error (.transport reason), bus)
  | none => return (.ok bus.inner.closed, bus)

def sleep (duration : Nat) : Timed ScriptedBus Unit := fun bus => do
  let ⟨inner, script, submits, signals, skew⟩ := bus
  let ((), inner) ← SimulatedBus.sleep duration inner
  return ((), ⟨inner, script, submits, signals, skew⟩)

/-- The time that callers see. -/
def now (bus : ScriptedBus) : Nat :=
  bus.inner.clock - bus.skew

instance : Transport ScriptedBus where
  kind := .software
  submit := submit
  setSignal := setSignal
  sampleGrants := sampleGrants
  now := now
  sleep := sleep
  note event bus := { bus with inner := bus.inner.note event }

end ScriptedBus

end Backplane
