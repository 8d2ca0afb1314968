import Backplane.Proofs.Dma.Spending
import Backplane.Proofs.Exerciser.Readback

/-!
# Runs that return

Only the clock can keep an operation on a simulated bus from its result.  A run
returns whenever the clock lasts for the accesses it may make: a simulated clock
has to afford their bus cycles, and a wall clock, which bus cycles do not
advance, lasts for any number of them.
-/

namespace Backplane

open MemoryBoard

namespace Dma.Engine

variable {γ : Type}

theorem Spends.notedAll (engine : Engine SimulatedBus γ) (events : List Event) :
    Spends engine 0 (engine.notedAll events) := by
  obtain ⟨journal, noted⟩ := engine.notedAll_simulated events
  have settings : SameSettings engine (engine.withJournal journal) :=
    ⟨rfl, rfl, rfl, rfl, rfl, rfl, rfl⟩
  rw [noted]
  exact .of_same settings rfl rfl 0

/-- An engine on a bus with a wall clock, where no block takes too long to tell
its time. -/
structure WallClocked (engine : Engine SimulatedBus γ) : Prop where
  wall : engine.transport.clockMode = .wall
  bounded : engine.transport.wordTime *
    (RandomSource.wordRange + SimulatedBus.timeoutCycles) < Duration.limit

instance (engine : Engine SimulatedBus γ) : Decidable engine.WallClocked :=
  decidable_of_iff (engine.transport.clockMode = .wall ∧
    engine.transport.wordTime *
    (RandomSource.wordRange + SimulatedBus.timeoutCycles) < Duration.limit)
    ⟨fun both => ⟨both.1, both.2⟩,
      fun clocked => ⟨clocked.wall, clocked.bounded⟩⟩

theorem WallClocked.of_sameSettings {before after : Engine SimulatedBus γ}
    (clocked : before.WallClocked) (same : SameSettings before after) :
    after.WallClocked where
  wall := same.clockMode.trans clocked.wall
  bounded := by
    rw [same.wordTime]
    exact clocked.bounded

theorem WallClocked.affords {engine : Engine SimulatedBus γ}
    (clocked : engine.WallClocked) {cycles : Nat}
    (bounded : cycles ≤ RandomSource.wordRange + SimulatedBus.timeoutCycles) :
    engine.Affords cycles := by
  have noTime : engine.transport.elapsedFor cycles = 0 := by
    simp only [SimulatedBus.elapsedFor, clocked.wall]
  have noIdle : engine.idleFor cycles = 0 := by
    rw [idleFor, noTime, idleAfter]
    split
    · rw [Nat.zero_mul, Nat.zero_div]
    · rfl
  refine ⟨⟨?_, ?_⟩, ?_, ?_⟩
  · exact Nat.lt_of_le_of_lt (Nat.mul_le_mul_left _ bounded) clocked.bounded
  · intro simulated
    rw [clocked.wall] at simulated
    cases simulated
  · intro _
    rw [noTime]
    decide
  · intro busy
    exact absurd noIdle busy

/-- Bus cycles that suffice for an access of a range. -/
def accessCycles (range : AddressRange) : Nat :=
  range.wordCount + SimulatedBus.timeoutCycles

theorem blockCycles_le_accessCycles (board : MemoryBoard) (start : Nat)
    (range : AddressRange) :
    board.blockCycles start range.wordCount ≤ accessCycles range := by
  have answered := board.answered_le start range.wordCount
  rw [blockCycles, accessCycles]
  split <;> omega

section Range

variable {cycle : Cycle} {engine : Engine SimulatedBus γ} {range : AddressRange}
  {buffer : Array UInt16}

theorem Affords.exists_moveRange (affords : engine.Affords (accessCycles range))
    (accepted : checkRange engine.width range buffer.size = .ok ()) :
    ∃ moved result stopped,
      moveRange cycle buffer range engine = .ok ((moved, result), stopped) := by
  obtain ⟨start, positive, covered, _⟩ := acceptedWords accepted
  obtain ⟨reply, moved, result, stopped, step⟩ :=
    exists_blockStep engine cycle positive covered
      (affords.mono (blockCycles_le_accessCycles _ _ range))
  rw [← start] at step
  exact ⟨moved, result, stopped, (moveRange_eq_ok accepted).mpr ⟨reply, step⟩⟩

theorem Affords.exists_accessRandom [RandomSource γ]
    (affords : engine.Affords (accessCycles range))
    (accepted : checkRange engine.width range buffer.size = .ok ()) :
    ∃ moved result stopped,
      accessRandom cycle buffer range engine =
        .ok ((moved, result), stopped) := by
  obtain ⟨start, _, covered, bounded⟩ := acceptedWords accepted
  obtain ⟨issued, moved, outcome, stopped, trace⟩ :
      ∃ issued moved outcome stopped, BlockTrace cycle engine buffer
        (2 * range.firstWord) range.wordCount issued moved outcome stopped :=
    exists_blockTrace covered bounded
      (affords.mono (blockCycles_le_accessCycles _ _ range))
  rw [← start] at trace
  exact ⟨moved, _, stopped, (accessRandom_eq_ok accepted).mpr
    ⟨issued, outcome, trace, rfl⟩⟩

theorem moveRange_spends_access {moved : Array UInt16}
    {result : Except BusError Unit} {stopped : Engine SimulatedBus γ}
    (accepted : checkRange engine.width range buffer.size = .ok ())
    (ran : moveRange cycle buffer range engine =
      .ok ((moved, result), stopped)) :
    Spends engine (accessCycles range) stopped :=
  (moveRange_spends accepted ran).mono (blockCycles_le_accessCycles _ _ range)

theorem accessRandom_spends_access [RandomSource γ] {moved : Array UInt16}
    {result : Except BusError Nat} {stopped : Engine SimulatedBus γ}
    (accepted : checkRange engine.width range buffer.size = .ok ())
    (ran : accessRandom cycle buffer range engine =
      .ok ((moved, result), stopped)) :
    Spends engine (accessCycles range) stopped :=
  (accessRandom_spends accepted ran).mono
    (blockCycles_le_accessCycles _ _ range)

end Range

end Dma.Engine

namespace Exerciser

open Dma Dma.Engine

variable {γ : Type} {range : AddressRange}

/-! ## The clock as a reserve -/

/-- A measure of how many accesses of a range the clock of an engine lasts
for. -/
structure Reserve (range : AddressRange)
    (Lasts : Nat → Engine SimulatedBus γ → Prop) : Prop where
  affords : ∀ {accesses engine}, Lasts (accesses + 1) engine →
    engine.Affords (accessCycles range)
  rest : ∀ {accesses engine stopped} used, Lasts (accesses + used) engine →
    Spends engine (used * accessCycles range) stopped → Lasts accesses stopped

/-- A clock lasts for the accesses whose bus cycles it affords at once. -/
theorem affords_reserve (range : AddressRange) :
    Reserve range fun accesses (engine : Engine SimulatedBus γ) =>
      engine.Affords (accesses * accessCycles range) where
  affords := by
    intro accesses engine lasts
    rw [Nat.succ_mul] at lasts
    exact lasts.mono (Nat.le_add_left _ _)
  rest := by
    intro accesses engine stopped used lasts spends
    rw [Nat.add_mul, Nat.add_comm] at lasts
    exact lasts.tail spends

/-- A wall clock lasts for any number of accesses. -/
theorem wallClocked_reserve
    (bounded : range.wordCount ≤ RandomSource.wordRange) :
    Reserve range fun _ (engine : Engine SimulatedBus γ) =>
      engine.WallClocked where
  affords := fun clocked => clocked.affords (Nat.add_le_add_right bounded _)
  rest := fun _ clocked spends => clocked.of_sameSettings spends.settings

namespace Reserve

variable {Lasts : Nat → Engine SimulatedBus γ → Prop} {accesses : Nat}
  {engine stopped : Engine SimulatedBus γ}

theorem spent (reserve : Reserve range Lasts)
    (lasts : Lasts (accesses + 1) engine)
    (spends : Spends engine (accessCycles range) stopped) :
    Lasts accesses stopped := by
  rw [← Nat.one_mul (accessCycles range)] at spends
  exact reserve.rest 1 lasts spends

theorem kept (reserve : Reserve range Lasts) (lasts : Lasts accesses engine)
    (spends : Spends engine 0 stopped) : Lasts accesses stopped := by
  rw [← Nat.zero_mul (accessCycles range)] at spends
  exact reserve.rest 0 lasts spends

theorem mono (reserve : Reserve range Lasts) {fewer : Nat}
    (lasts : Lasts accesses engine) (within : fewer ≤ accesses) :
    Lasts fewer engine := by
  obtain ⟨unused, rfl⟩ := Nat.exists_eq_add_of_le within
  exact reserve.rest unused lasts (.of_same (.refl engine) rfl rfl _)

end Reserve

/-! ## Passes that return -/

/-- Between two passes of a run that returns. -/
structure Returning (range : AddressRange)
    (Lasts : Nat → Engine SimulatedBus γ → Prop) (accesses : Nat)
    (engine : Engine SimulatedBus γ) (buffers : Buffers) : Prop extends
      Prepared range engine buffers where
  lasts : Lasts accesses engine

/-- A pass that returns from every state of a kind that is left some passes, and
to one that is left a pass less when it is completed. -/
def Returns (pass : Pass SimulatedBus γ)
    (Between : Nat → Engine SimulatedBus γ → Buffers → Prop) : Prop :=
  ∀ ⦃passes engine buffers⦄ report, Between (passes + 1) engine buffers →
    ∃ after reached fault? stopped,
      pass buffers report engine = .ok ((after, reached, fault?), stopped) ∧
        (fault? = none → Between passes stopped after)

section Passes

variable {Lasts : Nat → Engine SimulatedBus γ → Prop}

theorem addressPass_returns (reserve : Reserve range Lasts) :
    Returns (addressPass range : Pass SimulatedBus γ)
      (Returning range Lasts) := by
  intro passes engine buffers report returning
  have accepted := returning.acceptsReadback
  obtain ⟨readback, result, middle, reading⟩ :
      ∃ readback result middle, Engine.readRange buffers.readback range engine =
        .ok ((readback, result), middle) :=
    (reserve.affords returning.lasts).exists_moveRange accepted
  obtain ⟨_, effect⟩ := Engine.moveRange_transferEffect accepted reading
  have left := reserve.spent returning.lasts
    (moveRange_spends_access accepted reading)
  cases result with
  | error fault =>
      exact ⟨_, _, _, _, addressPass_eq_ok.mpr (.unread reading),
        fun impossible => nomatch impossible⟩
  | ok _ =>
      refine ⟨_, _, _, _, addressPass_eq_ok.mpr (.compared reading), ?_⟩
      intro _
      exact ⟨returning.noted effect.settings _ rfl effect.size_moved,
        reserve.kept left (.notedAll _ _)⟩

theorem randomPass_returns [RandomSource γ] (reserve : Reserve range Lasts) :
    Returns (randomPass range : Pass SimulatedBus γ)
      fun passes => Returning range Lasts (2 * passes) := by
  intro passes engine buffers report returning
  have drawn := returning.drawn
  have drew : SameSettings engine (afterDraw engine range buffers.pattern) :=
    ⟨rfl, rfl, rfl, rfl, rfl, rfl, rfl⟩
  have drawnLasts : Lasts (2 * passes + 1 + 1)
      (afterDraw engine range buffers.pattern) :=
    reserve.kept returning.lasts (.of_same drew rfl rfl 0)
  obtain ⟨pattern, written, middle, writing⟩ :
      ∃ pattern written middle,
        Engine.accessRandom .dataOut
          (drawnWords engine range buffers.pattern) range
          (afterDraw engine range buffers.pattern) =
            .ok ((pattern, written), middle) :=
    (reserve.affords drawnLasts).exists_accessRandom drawn.acceptsPattern
  obtain ⟨_, _, _, writeEffect⟩ :=
    Engine.accessRandom_transferEffect drawn.acceptsPattern writing
  have middleLasts :=
    reserve.spent drawnLasts
      (accessRandom_spends_access drawn.acceptsPattern writing)
  cases written with
  | error fault =>
      exact ⟨_, _, _, _, randomPass_eq_ok.mpr (.unwritten writing),
        fun impossible => nomatch impossible⟩
  | ok written =>
      have accepted : Engine.checkRange middle.width range
          buffers.readback.size = .ok () :=
        writeEffect.settings.width ▸ drawn.acceptsReadback
      obtain ⟨readback, read, last, reading⟩ :
          ∃ readback read last, Engine.accessRandom .dataIn buffers.readback
          range middle = .ok ((readback, read), last) :=
        (reserve.affords middleLasts).exists_accessRandom accepted
      obtain ⟨_, _, _, readEffect⟩ :=
        Engine.accessRandom_transferEffect accepted reading
      have left := reserve.spent middleLasts
        (accessRandom_spends_access accepted reading)
      cases read with
      | error fault =>
          exact ⟨_, _, _, _, randomPass_eq_ok.mpr (.unread writing reading),
            fun impossible => nomatch impossible⟩
      | ok read =>
          refine ⟨_, _, _, _, randomPass_eq_ok.mpr
            (.compared writing reading), ?_⟩
          intro _
          exact ⟨drawn.noted (writeEffect.settings.trans readEffect.settings) _
            writeEffect.size_moved readEffect.size_moved,
            reserve.kept left (.notedAll _ _)⟩

end Passes

theorem exists_repeatPass {pass : Pass SimulatedBus γ}
    {Between : Nat → Engine SimulatedBus γ → Buffers → Prop}
    (returns : Returns pass Between) (requestLimit : Nat) {budget : Nat}
    {engine : Engine SimulatedBus γ} {buffers : Buffers}
    (between : Between budget engine buffers) (report : Report) :
    ∃ last fault? stopped, repeatPass requestLimit pass budget buffers
      report engine = .ok ((last, fault?), stopped) := by
  induction budget generalizing engine buffers report with
  | zero => exact ⟨report, none, engine, rfl⟩
  | succ budget induction =>
      rw [repeatPass_succ]
      by_cases enough : requestLimit ≤ engine.stats.transfers
      · exact ⟨report, none, engine, if_pos enough⟩
      · obtain ⟨after, reached, fault?, middle, ran, kept⟩ :=
          returns report between
        rw [if_neg enough, Timed.bind_of_ok ran]
        cases fault? with
        | some fault => exact ⟨_, _, _, rfl⟩
        | none =>
            by_cases found : reached.stop = .mismatch
            · exact ⟨reached, none, middle, by simp only [found, if_true]; rfl⟩
            · simp only [found, if_false]
              exact induction (kept rfl) reached

/-! ## Runs -/

section Runs

variable [RandomSource γ] {engine : Engine SimulatedBus γ}
  {Lasts : Nat → Engine SimulatedBus γ → Prop} {cancelAfter : Nat}

theorem Reserve.exists_runTrace (reserve : Reserve range Lasts)
    (lasts : Lasts (2 * cancelAfter + 1) engine)
    (accepted : checkRange engine.width range = .ok ()) (mode : Mode) :
    ∃ passes report fault? stopped,
      RunTrace range cancelAfter engine mode passes report fault? stopped := by
  cases mode with
  | addressPattern =>
      have writable :=
        engine_checkRange accepted (size_addressPattern (range.lastWord + 1))
      have fewer : Lasts (cancelAfter + 1) engine :=
        reserve.mono lasts (by omega)
      obtain ⟨pattern, result, written, writing⟩ :
          ∃ pattern result written,
            Engine.writeRange (addressPattern (range.lastWord + 1))
              range engine = .ok ((pattern, result), written) :=
        (reserve.affords fewer).exists_moveRange writable
      cases result with
      | error fault => exact ⟨_, _, _, _, .unwritten writing⟩
      | ok _ =>
          obtain ⟨_, effect⟩ := Engine.moveRange_transferEffect writable writing
          have returning : Returning range Lasts cancelAfter written
              ⟨pattern, blankBuffer range⟩ :=
            ⟨.written accepted effect,
              reserve.spent fewer (moveRange_spends_access writable writing)⟩
          have issued := Engine.moveRange_transfers writing
          obtain ⟨last, fault?, stopped, ran⟩ := exists_repeatPass
            (addressPass_returns reserve)
            (engine.stats.transfers + cancelAfter) returning
            { mode := .addressPattern, blocksWritten := 1 }
          obtain ⟨passes, trace⟩ :=
            exists_passTrace (addressPass_progresses range) (by omega) ran
          exact ⟨_, _, _, _, .address writing trace⟩
  | randomPattern =>
      have returning : Returning range Lasts (2 * cancelAfter) engine
          ⟨blankBuffer range, blankBuffer range⟩ :=
        ⟨.blank accepted, reserve.mono lasts (Nat.le_succ _)⟩
      obtain ⟨last, fault?, stopped, ran⟩ := exists_repeatPass
        (randomPass_returns reserve)
        (engine.stats.transfers + cancelAfter) returning
        { mode := .randomPattern }
      obtain ⟨passes, trace⟩ :=
        exists_passTrace (randomPass_progresses range) (Nat.le_refl _) ran
      exact ⟨_, _, _, _, .random trace⟩

/-- An accepted run returns if the clock lasts for the accesses of every pass
that it may make. -/
theorem Reserve.exists_run (reserve : Reserve range Lasts)
    (lasts : Lasts (2 * cancelAfter + 1) engine)
    (accepted : checkRange engine.width range = .ok ()) (mode : Mode) :
    ∃ result stopped,
      run range mode cancelAfter engine = .ok (result, stopped) := by
  have started := reserve.kept lasts
    (.notedAll engine [.exerciseStarted engine.width range mode])
  obtain ⟨passes, report, fault?, last, trace⟩ :=
    reserve.exists_runTrace started accepted mode
  exact ⟨_, _, (run_eq_ok accepted).mpr
    ⟨report, fault?, last, ⟨passes, trace⟩, rfl, rfl⟩⟩

omit cancelAfter in
/-- With a wall clock every accepted run returns. -/
theorem exists_run (clocked : engine.WallClocked)
    (accepted : checkRange engine.width range = .ok ()) (mode : Mode)
    (cancelAfter : Nat) :
    ∃ result stopped,
      run range mode cancelAfter engine = .ok (result, stopped) := by
  have writable :=
    engine_checkRange accepted (size_addressPattern (range.lastWord + 1))
  have bounded := Nat.le_of_lt (acceptedWords writable).bounded
  exact (wallClocked_reserve bounded).exists_run clocked accepted mode

end Runs

end Exerciser

end Backplane
