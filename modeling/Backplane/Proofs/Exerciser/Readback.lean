import Backplane.Proofs.Dma.Transfer
import Backplane.Proofs.Exerciser.RunTrace
import Backplane.Proofs.Memory.Aliasing

/-!
# Passes over installed memory

Where every word of a range is installed, a pass on a simulated bus is always
completed, in either mode.  It reads back what the range shows of the pattern,
and leaves engine and buffers ready for the next pass.
-/

namespace Backplane

open MemoryBoard

namespace Dma.Engine

variable {γ : Type}

theorem notedAll_simulated (engine : Engine SimulatedBus γ)
    (events : List Event) :
    ∃ journal, engine.notedAll events = engine.withJournal journal := by
  induction events generalizing engine with
  | nil => exact ⟨engine.transport.journal, rfl⟩
  | cons event events induction =>
      obtain ⟨journal, rest⟩ := induction (engine.noted event)
      exact ⟨journal, rest⟩

@[simp] theorem notedAll_board (engine : Engine SimulatedBus γ)
    (events : List Event) :
    (engine.notedAll events).transport.board = engine.transport.board := by
  obtain ⟨journal, noted⟩ := engine.notedAll_simulated events
  rw [noted]
  rfl

section Installed

variable {cycle : Cycle} {engine stopped : Engine SimulatedBus γ}
  {range : AddressRange} {buffer moved : Array UInt16} {elapsed : Nat}
  {result : Except BusError Unit}

theorem TransferEffect.completed
    (effect : TransferEffect cycle engine buffer range.firstWord
      range.wordCount elapsed moved result stopped)
    (installed : engine.transport.board.Installed range) : result = .ok () := by
  rw [effect.result]
  exact toResult_eq_ok.mpr
    (blockOutcome_eq_acknowledged_iff.mpr installed.answered)

/-- Writing a pattern to installed memory lets it show the pattern. -/
theorem TransferEffect.written
    (effect : TransferEffect .dataOut engine buffer range.firstWord
      range.wordCount elapsed moved result stopped)
    (installed : engine.transport.board.Installed range) :
    moved = buffer ∧ stopped.transport.board.Shows range buffer := by
  constructor
  · exact effect.moved
  · rw [effect.board, installed.answered]
    exact shows_acceptWords buffer installed

/-- Reading installed memory delivers what it shows. -/
theorem TransferEffect.read {pattern : Array UInt16}
    (effect : TransferEffect .dataIn engine buffer range.firstWord
      range.wordCount elapsed moved result stopped)
    (installed : engine.transport.board.Installed range)
    (covered : range.firstWord + range.wordCount ≤ buffer.size)
    (shows : engine.transport.board.Shows range pattern) :
    stopped.transport.board = engine.transport.board ∧
      ∀ word ∈ range.words,
        moved.getD word 0 = engine.transport.board.shown range
          pattern word := by
  refine ⟨effect.board, ?_⟩
  intro word inside
  have ends := List.mem_range'_1.mp inside
  have delivered : moved = engine.transport.board.deliverWords 0 buffer
      range.firstWord range.wordCount := by
    rw [effect.moved, installed.answered]
    rfl
  rw [delivered, getD_deliverWords _ _ _ (by omega) ends, Nat.zero_add]
  exact shows word inside

theorem accessRandom_installed [RandomSource γ] {result : Except BusError Nat}
    (accepted : checkRange engine.width range buffer.size = .ok ())
    (installed : engine.transport.board.Installed range)
    (ran : accessRandom cycle buffer range engine =
      .ok ((moved, result), stopped)) :
    ∃ blocks elapsed, result = .ok blocks ∧
      TransferEffect cycle engine buffer range.firstWord range.wordCount
        elapsed moved (.ok ()) stopped := by
  obtain ⟨issued, outcome, blocks, effect⟩ :=
    accessRandom_transferEffect accepted ran
  have completed := effect.completed installed
  subst completed
  exact ⟨_, _, blocks, effect⟩

end Installed

end Dma.Engine

namespace Exerciser

open Dma

variable {γ : Type}

/-- Between two passes of any run: the engine accepts the range, and both
buffers reach up to its last word. -/
structure Prepared (range : AddressRange) (engine : Engine SimulatedBus γ)
    (buffers : Buffers) : Prop where
  accepted : checkRange engine.width range = .ok ()
  pattern : buffers.pattern.size = range.lastWord + 1
  readback : buffers.readback.size = range.lastWord + 1

/-- Between two passes over a range of a board. -/
structure Ready (board : MemoryBoard) (range : AddressRange)
    (engine : Engine SimulatedBus γ) (buffers : Buffers) : Prop extends
    Prepared range engine buffers where
  wiring : SameWiring engine.transport.board board

/-- Between two passes of the address exerciser. -/
structure HoldsAddresses (board : MemoryBoard) (range : AddressRange)
    (engine : Engine SimulatedBus γ) (buffers : Buffers) : Prop extends
    Ready board range engine buffers where
  addresses : buffers.pattern = addressPattern (range.lastWord + 1)
  shows : engine.transport.board.Shows range buffers.pattern

/-- The effect of a pass over installed memory. -/
structure PassEffect (board : MemoryBoard) (range : AddressRange)
    (report : Report) (after : Buffers) (reached : Report)
    (fault? : Option BusError) : Prop where
  completed : fault? = none
  shown : ∀ word ∈ range.words,
    after.readback.getD word 0 = board.shown range after.pattern word
  reached : ∃ blocksWritten blocksRead,
    reached = judged after.pattern after.readback range
      { report with
        blocksWritten := blocksWritten
        blocksRead := blocksRead
        passes := report.passes + 1 }

/-- A pass that has its effect whenever it starts in a state of a kind, and ends
in a state of that kind. -/
def Keeps (board : MemoryBoard) (range : AddressRange)
    (pass : Pass SimulatedBus γ)
    (Between : Engine SimulatedBus γ → Buffers → Prop) : Prop :=
  ∀ ⦃engine stopped buffers report after reached fault?⦄,
    Between engine buffers →
    pass buffers report engine = .ok ((after, reached, fault?), stopped) →
      Between stopped after ∧ PassEffect board range report after reached fault?

section Passes

variable {board : MemoryBoard} {range : AddressRange}

theorem size_randomWords [RandomSource γ] (count index : Nat)
    (buffer : Array UInt16) (source : γ) :
    (randomWords count index buffer source).1.size = buffer.size := by
  induction count generalizing index buffer source with
  | zero => rfl
  | succ count induction =>
      simp only [randomWords]
      rw [induction, Array.size_setIfInBounds]

namespace Prepared

variable {engine middle : Engine SimulatedBus γ} {buffers after : Buffers}

theorem blank (accepted : checkRange engine.width range = .ok ()) :
    Prepared range engine ⟨blankBuffer range, blankBuffer range⟩ :=
  ⟨accepted, size_blankBuffer range, size_blankBuffer range⟩

theorem written {pattern : Array UInt16} {elapsed : Nat}
    {result : Except BusError Unit}
    (accepted : checkRange engine.width range = .ok ())
    (effect : Engine.TransferEffect .dataOut engine
      (addressPattern (range.lastWord + 1))
      range.firstWord range.wordCount elapsed pattern result middle) :
    Prepared range middle ⟨pattern, blankBuffer range⟩ where
  accepted := by
    rw [effect.settings.width]
    exact accepted
  pattern := effect.size_moved.trans (size_addressPattern _)
  readback := size_blankBuffer range

theorem acceptsPattern (prepared : Prepared range engine buffers) :
    Engine.checkRange engine.width range buffers.pattern.size = .ok () :=
  engine_checkRange prepared.accepted prepared.pattern

theorem acceptsReadback (prepared : Prepared range engine buffers) :
    Engine.checkRange engine.width range buffers.readback.size = .ok () :=
  engine_checkRange prepared.accepted prepared.readback

theorem drawn [RandomSource γ] (prepared : Prepared range engine buffers) :
    Prepared range (afterDraw engine range buffers.pattern)
      ⟨drawnWords engine range buffers.pattern, buffers.readback⟩ where
  accepted := prepared.accepted
  pattern := (size_randomWords _ _ _ _).trans prepared.pattern
  readback := prepared.readback

theorem noted (prepared : Prepared range engine buffers)
    (settings : Engine.SameSettings engine middle) (events : List Event)
    (pattern : after.pattern.size = buffers.pattern.size)
    (readback : after.readback.size = buffers.readback.size) :
    Prepared range (middle.notedAll events) after where
  accepted := by
    rw [Engine.notedAll_width, settings.width]
    exact prepared.accepted
  pattern := pattern.trans prepared.pattern
  readback := readback.trans prepared.readback

end Prepared

theorem addressPass_keeps (installed : board.Installed range) :
    Keeps board range (addressPass range : Pass SimulatedBus γ)
      (HoldsAddresses board range) := by
  intro engine stopped buffers report after reached fault? holds ran
  have present := holds.wiring.installed installed
  have accepted := holds.acceptsReadback
  have covered := (Engine.acceptedWords accepted).covered
  cases addressPass_eq_ok.mp ran with
  | unread reading =>
      obtain ⟨elapsed, effect⟩ :=
        Engine.moveRange_transferEffect accepted reading
      cases effect.completed present
  | compared reading =>
      obtain ⟨elapsed, effect⟩ :=
        Engine.moveRange_transferEffect accepted reading
      obtain ⟨sameBoard, shown⟩ := effect.read present covered holds.shows
      refine ⟨⟨⟨holds.noted effect.settings _ rfl effect.size_moved, ?_⟩,
        holds.addresses, ?_⟩, rfl, ?_, _, _, rfl⟩
      · rw [Engine.notedAll_board]
        exact effect.sameWiring.trans holds.wiring
      · rw [Engine.notedAll_board, sameBoard]
        exact holds.shows
      · intro word inside
        rw [shown word inside, holds.wiring.shown]

theorem randomPass_keeps [RandomSource γ] (installed : board.Installed range) :
    Keeps board range (randomPass range : Pass SimulatedBus γ)
      (Ready board range) := by
  intro engine stopped buffers report after reached fault? ready ran
  have drawn := ready.drawn
  have present :
      (afterDraw engine range buffers.pattern).transport.board.Installed
      range :=
    ready.wiring.installed installed
  have covered := (Engine.acceptedWords ready.acceptsReadback).covered
  cases randomPass_eq_ok.mp ran with
  | unwritten writing =>
      obtain ⟨_, _, impossible, _⟩ :=
        Engine.accessRandom_installed drawn.acceptsPattern present writing
      cases impossible
  | unread writing reading =>
      obtain ⟨_, _, _, written⟩ :=
        Engine.accessRandom_installed drawn.acceptsPattern present writing
      obtain ⟨_, _, impossible, _⟩ := Engine.accessRandom_installed
        (written.settings.width ▸ drawn.acceptsReadback)
        (written.sameWiring.installed present) reading
      cases impossible
  | compared writing reading =>
      obtain ⟨_, _, _, writeEffect⟩ :=
        Engine.accessRandom_installed drawn.acceptsPattern present writing
      have middlePresent := writeEffect.sameWiring.installed present
      have middleWiring : SameWiring _ board :=
        writeEffect.sameWiring.trans ready.wiring
      obtain ⟨_, _, _, readEffect⟩ := Engine.accessRandom_installed
        (writeEffect.settings.width ▸ drawn.acceptsReadback)
        middlePresent reading
      obtain ⟨samePattern, shows⟩ := writeEffect.written present
      obtain ⟨_, shown⟩ := readEffect.read middlePresent covered shows
      subst samePattern
      refine ⟨⟨drawn.noted (writeEffect.settings.trans readEffect.settings)
        _ rfl readEffect.size_moved, ?_⟩, rfl, ?_, _, _, rfl⟩
      · rw [Engine.notedAll_board]
        exact readEffect.sameWiring.trans middleWiring
      · intro word inside
        rw [shown word inside, middleWiring.shown]

end Passes

end Exerciser

end Backplane
