import Backplane.Dma.Engine
import Backplane.Exerciser.Pattern

/-!
# Memory exercisers

Test loops over bus memory on top of the transfer engine, and the sizing of
installed memory.  A run ends when it is cancelled, when a block times out, or
with the first pass that finds a difference.
-/

namespace Backplane.Exerciser

open Dma

variable {σ γ : Type} [Transport σ] [RandomSource γ]

/-- Size the installed memory by one read of everything below the io page: the
first address that did not answer, or the start of the io page. -/
def probeSize : Timed (Engine σ γ) (Except BusError Nat) := do
  let width := (← get).width
  let last := width.memoryEnd
  let buffer := Array.replicate (last / 2 + 1) 0
  match (← Engine.readRange buffer ⟨0, last⟩).2 with
  | .ok () => announce width (last + 2)
  | .error (.timeout address) => announce width address
  | .error fault => return .error fault
where
  announce (width : AddressWidth) (firstInvalid : Nat) :
      Timed (Engine σ γ) (Except BusError Nat) := do
    Engine.note (.memorySized width firstInvalid)
    return .ok firstInvalid

/-- Compare a pass.  Differences end the run: they go into the journal and, the
first of them with their aliases, into the report. -/
def compare (pattern readback : Array UInt16) (range : AddressRange)
    (report : Report) : Timed (Engine σ γ) Report := do
  let words := differences pattern readback range
  if words.isEmpty then
    return report
  else
    let width := (← get).width
    let mismatches :=
      (words.take diagnosedLimit).map (diagnose pattern readback range)
    mismatches.forM fun mismatch => do
      Engine.note (.wordDiffers width mismatch)
      mismatch.aliases.forM fun address =>
        Engine.note (.wordAliased width mismatch.found address)
    Engine.note (.passFailed report.passes words.length)
    return { report with
      stop := .mismatch
      mismatchCount := words.length
      mismatches := mismatches }

/-- Whether as many requests were issued as a run is allowed. -/
def isCancelled (requestLimit : Nat) : Timed (Engine σ γ) Bool := do
  return requestLimit ≤ (← get).stats.transfers

/-- The two buffers of a run: what was written and what is read back. -/
structure Buffers where
  pattern : Array UInt16
  readback : Array UInt16

/-- A blank buffer that reaches up to the last word of a range. -/
def blankBuffer (range : AddressRange) : Array UInt16 :=
  Array.replicate (range.lastWord + 1) 0

/-- A pass goes on from the buffers and the report of the pass before it.  It
comes back with an error when it was not completed. -/
abbrev Pass (σ γ : Type) :=
  Buffers → Report → Timed (Engine σ γ) (Buffers × Report × Option BusError)

/-- One pass over a range that holds the pattern: read and compare. -/
def addressPass (range : AddressRange) : Pass σ γ := fun buffers report => do
  let ⟨pattern, readback⟩ := buffers
  match ← Engine.readRange readback range with
  | (readback, .error fault) => return (⟨pattern, readback⟩, report, some fault)
  | (readback, .ok ()) =>
    let report ← compare pattern readback range
      { report with
        blocksRead := report.blocksRead + 1, passes := report.passes + 1 }
    return (⟨pattern, readback⟩, report, none)

/-- One pass with fresh random words: write, read and compare. -/
def randomPass (range : AddressRange) : Pass σ γ := fun buffers report => do
  let ⟨pattern, readback⟩ := buffers
  let pattern ← Engine.draw
      (randomWords range.wordCount range.firstWord pattern)
  match ← Engine.accessRandom .dataOut pattern range with
  | (pattern, .error fault) => return (⟨pattern, readback⟩, report, some fault)
  | (pattern, .ok written) =>
    let report :=
      { report with blocksWritten := report.blocksWritten + written }
    match ← Engine.accessRandom .dataIn readback range with
    | (readback, .error fault) =>
      return (⟨pattern, readback⟩, report, some fault)
    | (readback, .ok read) =>
      let report ← compare pattern readback range
        { report with
          blocksRead := report.blocksRead + read, passes := report.passes + 1 }
      return (⟨pattern, readback⟩, report, none)

/-- Passes until one is not completed or finds a difference, or the run is
cancelled, at most `budget` of them. -/
def repeatPass (requestLimit : Nat) (pass : Pass σ γ) :
    Nat → Buffers → Report → Timed (Engine σ γ) (Report × Option BusError)
  | 0, _, report => return (report, none)
  | budget + 1, buffers, report => do
    if ← isCancelled requestLimit then
      return (report, none)
    else
      match ← pass buffers report with
      | (buffers, report, none) =>
        if report.stop = .mismatch then
          return (report, none)
        else
          repeatPass requestLimit pass budget buffers report
      | (_, report, some fault) => return (report, some fault)

/-- The address exerciser: the pattern is written once and then read back in
every pass. -/
def addressRun (requestLimit budget : Nat) (range : AddressRange)
    (report : Report) : Timed (Engine σ γ) (Report × Option BusError) := do
  match ← Engine.writeRange (addressPattern (range.lastWord + 1)) range with
  | (_, .error fault) => return (report, some fault)
  | (pattern, .ok ()) =>
    repeatPass requestLimit (addressPass range) budget
      ⟨pattern, blankBuffer range⟩
      { report with blocksWritten := report.blocksWritten + 1 }

/-- The random exerciser. -/
def randomRun (requestLimit budget : Nat) (range : AddressRange)
    (report : Report) : Timed (Engine σ γ) (Report × Option BusError) :=
  repeatPass requestLimit (randomPass range) budget
    ⟨blankBuffer range, blankBuffer range⟩ report

/-- Check a range against the address space. -/
def checkRange (width : AddressWidth) (range : AddressRange) :
    Except BusError Unit :=
  if !range.isWellFormed then
    .error (.invalidRequest (.badExerciseRange range.first range.last))
  else if width.maxAddress < range.last then
    .error (.invalidRequest (.exerciseBeyondSpace width range.last))
  else
    .ok ()

/-- Exercise a range until a block times out, a pass finds a difference, or the
run is cancelled, which is seen between two passes.  The run counts as
cancelled once it has issued `cancelAfter` requests.  Every pass issues a
request, so there are never more passes than that. -/
def run (range : AddressRange) (mode : Mode) (cancelAfter : Nat) :
    Timed (Engine σ γ) (Except BusError Report) := do
  let width := (← get).width
  match checkRange width range with
  | .error fault => return .error fault
  | .ok () =>
    Engine.note (.exerciseStarted width range mode)
    let requestLimit := (← get).stats.transfers + cancelAfter
    let (report, fault?) ← match mode with
      | .addressPattern =>
        addressRun requestLimit cancelAfter range { mode := mode }
      | .randomPattern =>
        randomRun requestLimit cancelAfter range { mode := mode }
    match fault? with
    | none => finish report
    | some (.timeout address) =>
      Engine.note (.exerciseTimedOut width address)
      finish { report with stop := .timeout address }
    | some fault => return .error fault
where
  finish (report : Report) : Timed (Engine σ γ) (Except BusError Report) := do
    Engine.note (.exerciseEnded report)
    return .ok report

end Backplane.Exerciser
