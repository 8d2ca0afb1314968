import Backplane.Exerciser.Run
import Backplane.Proofs.Dma.BlockTrace

/-!
# Passes of an exerciser

What a pass does on an arbitrary transport, and what the sizing of memory does.
A comparison only writes to the journal and to the report; the transfers before
it decide whether a pass is completed at all.
-/

namespace Backplane

namespace Dma.Engine

variable {σ γ : Type} [Transport σ]

def notedAll (engine : Engine σ γ) (events : List Event) : Engine σ γ :=
  events.foldl noted engine

theorem notedAll_append (engine : Engine σ γ) (first rest : List Event) :
    engine.notedAll (first ++ rest) = (engine.notedAll first).notedAll rest :=
  List.foldl_append

/-- Events leave everything but the transport alone. -/
theorem notedAll_eq (engine : Engine σ γ) (events : List Event) :
    ∃ transport, engine.notedAll events =
      { engine with transport := transport } := by
  induction events generalizing engine with
  | nil => exact ⟨engine.transport, rfl⟩
  | cons event events induction =>
      obtain ⟨transport, rest⟩ := induction (engine.noted event)
      exact ⟨transport, rest⟩

@[simp] theorem notedAll_stats (engine : Engine σ γ) (events : List Event) :
    (engine.notedAll events).stats = engine.stats := by
  obtain ⟨transport, noted⟩ := engine.notedAll_eq events
  rw [noted]

@[simp] theorem notedAll_width (engine : Engine σ γ) (events : List Event) :
    (engine.notedAll events).width = engine.width := by
  obtain ⟨transport, noted⟩ := engine.notedAll_eq events
  rw [noted]

theorem forM_notedAll {α : Type} {step : α → Timed (Engine σ γ) PUnit}
    {events : α → List Event}
    (notes : ∀ item engine, step item engine =
      .ok ((), notedAll engine (events item)))
    (items : List α) (engine : Engine σ γ) :
    items.forM step engine =
      .ok ((), engine.notedAll (items.flatMap events)) := by
  induction items generalizing engine with
  | nil => rfl
  | cons item items induction =>
      change (step item >>= fun _ => items.forM step) engine = _
      rw [Timed.bind_of_ok (notes item engine), induction, List.flatMap_cons,
        notedAll_append]

end Dma.Engine

namespace Exerciser

open Dma

/-! ## Comparison -/

def diagnosed (pattern readback : Array UInt16) (range : AddressRange) :
    List Mismatch :=
  ((differences pattern readback range).take diagnosedLimit).map
    (diagnose pattern readback range)

/-- The report after a pass was compared. -/
def judged (pattern readback : Array UInt16) (range : AddressRange)
    (report : Report) : Report :=
  if differences pattern readback range = [] then
    report
  else
    { report with
      stop := .mismatch
      mismatchCount := (differences pattern readback range).length
      mismatches := diagnosed pattern readback range }

/-- The events about one word that differs. -/
def wordEvents (width : AddressWidth) (mismatch : Mismatch) : List Event :=
  .wordDiffers width mismatch ::
    mismatch.aliases.map (.wordAliased width mismatch.found)

/-- The events about the comparison of a pass. -/
def passEvents (width : AddressWidth) (pattern readback : Array UInt16)
    (range : AddressRange) (report : Report) : List Event :=
  if differences pattern readback range = [] then
    []
  else
    (diagnosed pattern readback range).flatMap (wordEvents width) ++
      [.passFailed report.passes (differences pattern readback range).length]

variable {σ γ : Type} [Transport σ]

theorem compare_apply (pattern readback : Array UInt16) (range : AddressRange)
    (report : Report) (engine : Engine σ γ) :
    compare pattern readback range report engine =
      .ok (judged pattern readback range report,
        engine.notedAll
          (passEvents engine.width pattern readback range report)) := by
  rw [compare]
  by_cases equal : differences pattern readback range = []
  · simp only [judged, passEvents, equal]
    rfl
  · have differ : (differences pattern readback range).isEmpty = false := by
      rw [List.isEmpty_eq_false_iff]
      exact equal
    have wordNotes (mismatch : Mismatch) (noting : Engine σ γ) :
        ((Engine.note (.wordDiffers engine.width mismatch) >>= fun _ =>
          mismatch.aliases.forM fun address =>
            Engine.note (.wordAliased engine.width mismatch.found address) :
          Timed (Engine σ γ) PUnit) noting) =
            .ok ((), noting.notedAll (wordEvents engine.width mismatch)) := by
      have aliasNotes (address : Nat) (noting : Engine σ γ) :
          Engine.note (.wordAliased engine.width mismatch.found address)
              noting =
            .ok ((), noting.notedAll
              [.wordAliased engine.width mismatch.found address]) :=
        rfl
      rw [Timed.bind_of_ok (Engine.note_apply _ noting), wordEvents,
        List.map_eq_flatMap]
      exact Engine.forM_notedAll aliasNotes mismatch.aliases _
    simp only [differ, judged, passEvents, if_neg equal]
    rw [if_neg (by decide), Timed.bind_of_ok (Timed.get_apply _),
      Timed.bind_of_ok (Engine.forM_notedAll wordNotes _ engine),
      Timed.bind_of_ok (Engine.note_apply _ _), Engine.notedAll_append]
    rfl

/-! ## Sizing -/

/-- The size that follows from the way the read of all memory ended. -/
def sizeFrom (width : AddressWidth) : Except BusError Unit → Except BusError Nat
  | .ok () => .ok (width.memoryEnd + 2)
  | .error (.timeout address) => .ok address
  | .error fault => .error fault

/-- Sizing follows from one read of everything below the io page. -/
theorem probeSize_of_readRange {engine middle : Engine σ γ}
    {moved : Array UInt16} {outcome : Except BusError Unit}
    (reading : Engine.readRange
      (Array.replicate (engine.width.memoryEnd / 2 + 1) 0)
      ⟨0, engine.width.memoryEnd⟩ engine = .ok ((moved, outcome), middle)) :
    ∃ events, probeSize engine =
      .ok (sizeFrom engine.width outcome, middle.notedAll events) := by
  have announced (size : Nat) : probeSize.announce engine.width size middle =
      .ok (.ok size, middle.notedAll [.memorySized engine.width size]) := rfl
  rw [probeSize, Timed.bind_of_ok (Timed.get_apply engine),
    Timed.bind_of_ok reading]
  cases outcome with
  | ok _ => exact ⟨_, announced _⟩
  | error fault =>
      cases fault with
      | timeout address => exact ⟨_, announced address⟩
      | _ => exact ⟨[], rfl⟩

theorem readRange_of_probeSize {engine stopped : Engine σ γ}
    {result : Except BusError Nat}
    (probed : probeSize engine = .ok (result, stopped)) :
    ∃ moved outcome middle events,
      Engine.readRange (Array.replicate (engine.width.memoryEnd / 2 + 1) 0)
          ⟨0, engine.width.memoryEnd⟩ engine = .ok ((moved, outcome), middle) ∧
        result = sizeFrom engine.width outcome ∧
        stopped = middle.notedAll events := by
  have ran := probed
  rw [probeSize, Timed.bind_of_ok (Timed.get_apply engine)] at ran
  obtain ⟨⟨moved, outcome⟩, middle, reading, _⟩ := Timed.bind_eq_ok.mp ran
  obtain ⟨events, sized⟩ := probeSize_of_readRange reading
  cases probed.symm.trans sized
  exact ⟨moved, outcome, middle, events, reading, rfl, rfl⟩

/-! ## The two kinds of passes -/

/-- A pass of the address exerciser. -/
inductive AddressPass (range : AddressRange) (engine : Engine σ γ)
    (buffers : Buffers) (report : Report) :
    Buffers → Report → Option BusError → Engine σ γ → Prop where
  | unread {readback : Array UInt16} {fault : BusError} {stopped : Engine σ γ}
      (reading : Engine.readRange buffers.readback range engine =
        .ok ((readback, .error fault), stopped)) :
      AddressPass range engine buffers report ⟨buffers.pattern, readback⟩ report
        (some fault) stopped
  | compared {readback : Array UInt16} {middle : Engine σ γ}
      (reading : Engine.readRange buffers.readback range engine =
        .ok ((readback, .ok ()), middle)) :
      AddressPass range engine buffers report ⟨buffers.pattern, readback⟩
        (judged buffers.pattern readback range
          { report with
            blocksRead := report.blocksRead + 1, passes := report.passes + 1 })
        none
        (middle.notedAll (passEvents middle.width buffers.pattern readback range
          { report with
            blocksRead := report.blocksRead + 1
            passes := report.passes + 1 }))

theorem addressPass_eq_ok {range : AddressRange} {engine stopped : Engine σ γ}
    {buffers after : Buffers} {report reached : Report}
    {fault? : Option BusError} :
    addressPass range buffers report engine =
      .ok ((after, reached, fault?), stopped) ↔
      AddressPass range engine buffers report after reached fault? stopped := by
  rw [addressPass, Timed.bind_eq_ok]
  constructor
  · intro ran
    obtain ⟨⟨readback, result⟩, middle, reading, rest⟩ := ran
    cases result with
    | error fault =>
        cases rest
        exact .unread reading
    | ok _ =>
        simp only at rest
        rw [Timed.bind_of_ok (compare_apply _ _ _ _ _)] at rest
        cases rest
        exact .compared reading
  · intro pass
    cases pass with
    | unread reading => exact ⟨_, _, reading, rfl⟩
    | compared reading =>
        refine ⟨_, _, reading, ?_⟩
        simp only
        rw [Timed.bind_of_ok (compare_apply _ _ _ _ _)]
        rfl

theorem AddressPass.transfers_lt {range : AddressRange}
    {engine stopped : Engine σ γ} {buffers after : Buffers}
    {report reached : Report}
    (pass : AddressPass range engine buffers report after reached
      none stopped) :
    engine.stats.transfers < stopped.stats.transfers := by
  cases pass with
  | compared reading =>
      have counted := Engine.moveRange_transfers reading
      rw [Engine.notedAll_stats]
      omega

variable [RandomSource γ]

def drawnWords (engine : Engine σ γ) (range : AddressRange)
    (buffer : Array UInt16) : Array UInt16 :=
  (randomWords range.wordCount range.firstWord buffer engine.generator).1

def afterDraw (engine : Engine σ γ) (range : AddressRange)
    (buffer : Array UInt16) : Engine σ γ :=
  { engine with
    generator :=
      (randomWords range.wordCount range.firstWord buffer engine.generator).2 }

/-- A pass of the random exerciser. -/
inductive RandomPass (range : AddressRange) (engine : Engine σ γ)
    (buffers : Buffers) (report : Report) :
    Buffers → Report → Option BusError → Engine σ γ → Prop where
  | unwritten {pattern : Array UInt16} {fault : BusError} {stopped : Engine σ γ}
      (writing : Engine.accessRandom .dataOut
        (drawnWords engine range buffers.pattern)
        range (afterDraw engine range buffers.pattern) =
          .ok ((pattern, .error fault), stopped)) :
      RandomPass range engine buffers report ⟨pattern, buffers.readback⟩ report
        (some fault) stopped
  | unread {pattern readback : Array UInt16} {written : Nat} {fault : BusError}
      {middle stopped : Engine σ γ}
      (writing : Engine.accessRandom .dataOut
        (drawnWords engine range buffers.pattern)
        range (afterDraw engine range buffers.pattern) =
          .ok ((pattern, .ok written), middle))
      (reading : Engine.accessRandom .dataIn buffers.readback range middle =
        .ok ((readback, .error fault), stopped)) :
      RandomPass range engine buffers report ⟨pattern, readback⟩
        { report with blocksWritten := report.blocksWritten + written }
        (some fault) stopped
  | compared {pattern readback : Array UInt16} {written read : Nat}
      {middle last : Engine σ γ}
      (writing : Engine.accessRandom .dataOut
        (drawnWords engine range buffers.pattern)
        range (afterDraw engine range buffers.pattern) =
          .ok ((pattern, .ok written), middle))
      (reading : Engine.accessRandom .dataIn buffers.readback range middle =
        .ok ((readback, .ok read), last)) :
      RandomPass range engine buffers report ⟨pattern, readback⟩
        (judged pattern readback range
          { report with
            blocksWritten := report.blocksWritten + written
            blocksRead := report.blocksRead + read
            passes := report.passes + 1 })
        none
        (last.notedAll (passEvents last.width pattern readback range
          { report with
            blocksWritten := report.blocksWritten + written
            blocksRead := report.blocksRead + read
            passes := report.passes + 1 }))

theorem randomPass_eq_ok {range : AddressRange} {engine stopped : Engine σ γ}
    {buffers after : Buffers} {report reached : Report}
    {fault? : Option BusError} :
    randomPass range buffers report engine =
      .ok ((after, reached, fault?), stopped) ↔
      RandomPass range engine buffers report after reached fault? stopped := by
  rw [randomPass]
  simp only
  rw [Timed.bind_of_ok (Engine.draw_apply _ engine), Timed.bind_eq_ok]
  constructor
  · intro ran
    obtain ⟨⟨pattern, writeResult⟩, middle, writing, rest⟩ := ran
    cases writeResult with
    | error fault =>
        cases rest
        exact .unwritten writing
    | ok written =>
        obtain ⟨⟨readback, readResult⟩, last, reading, rest⟩ :=
          Timed.bind_eq_ok.mp rest
        cases readResult with
        | error fault =>
            cases rest
            exact .unread writing reading
        | ok read =>
            simp only at rest
            rw [Timed.bind_of_ok (compare_apply _ _ _ _ _)] at rest
            cases rest
            exact .compared writing reading
  · intro pass
    cases pass with
    | unwritten writing => exact ⟨_, _, writing, rfl⟩
    | unread writing reading =>
        exact ⟨_, _, writing, Timed.bind_eq_ok.mpr ⟨_, _, reading, rfl⟩⟩
    | compared writing reading =>
        refine ⟨_, _, writing, Timed.bind_eq_ok.mpr ⟨_, _, reading, ?_⟩⟩
        simp only
        rw [Timed.bind_of_ok (compare_apply _ _ _ _ _)]
        rfl

theorem RandomPass.transfers_lt {range : AddressRange}
    {engine stopped : Engine σ γ} {buffers after : Buffers}
    {report reached : Report}
    (pass : RandomPass range engine buffers report after reached none stopped) :
    engine.stats.transfers < stopped.stats.transfers := by
  cases pass with
  | @compared pattern readback written read middle last writing reading =>
      obtain ⟨someWritten, countedWrites⟩ :=
        Engine.accessRandom_transfers writing
      obtain ⟨someRead, countedReads⟩ := Engine.accessRandom_transfers reading
      have before : (afterDraw engine range buffers.pattern).stats =
          engine.stats := rfl
      rw [before] at countedWrites
      rw [Engine.notedAll_stats]
      omega

end Exerciser

end Backplane
