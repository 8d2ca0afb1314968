import Backplane.Proofs.Exerciser.Sizing

/-!
# The end of installed memory

Sizing tells where installed memory ends: at the least word address below the io
page that selects no cell, or at the io page.  A shorted address line may leave
gaps behind that address, which sizing does not see.  It takes one request,
which changes no memory.
-/

namespace Backplane

open Dma MemoryBoard

namespace MemoryBoard

/-- The least word address below the io page that selects no installed cell, or
the start of the io page if every one does. -/
inductive EndsAt (board : MemoryBoard) (width : AddressWidth) : Nat → Prop where
  | silent {address : Nat} (inside : address ≤ width.memoryEnd)
      (even : address % 2 = 0) (missing : board.select? address = none)
      (before : ∀ earlier < address, earlier % 2 = 0 →
        board.select? earlier ≠ none) :
      EndsAt board width address
  | filled
      (installed : ∀ address ≤ width.memoryEnd, address % 2 = 0 →
        board.select? address ≠ none) :
      EndsAt board width width.ioPageStart

section End

variable {board : MemoryBoard} {width : AddressWidth} {address : Nat}

theorem select?_ne_none_of_lt_installedSize
    (below : address < board.installedSize width) (even : address % 2 = 0) :
    board.select? address ≠ none := by
  obtain ⟨word, rfl⟩ : ∃ word, address = 2 * word := ⟨address / 2, by omega⟩
  exact Option.isSome_iff_ne_none.mp (answers_of_lt_installedSize below)

theorem endsAt_installedSize (board : MemoryBoard) (width : AddressWidth) :
    board.EndsAt width (board.installedSize width) := by
  have page := width.memoryEnd_add_two
  have pageEven := width.ioPageStart_mod_two
  have bound : board.installedSize width ≤ width.ioPageStart := installedSize_le
  have sizeEven : board.installedSize width % 2 = 0 := Nat.mul_mod_right _ _
  by_cases full : board.installedSize width = width.ioPageStart
  · rw [full]
    refine .filled fun address inside even => ?_
    have below : address < board.installedSize width := by omega
    exact select?_ne_none_of_lt_installedSize below even
  · have silence := silent_at_installedSize (Nat.lt_of_le_of_ne bound full)
    refine .silent (by omega) sizeEven ?_ fun earlier before even => ?_
    · exact Option.not_isSome_iff_eq_none.mp (Bool.eq_false_iff.mp silence)
    · exact select?_ne_none_of_lt_installedSize before even

/-- Where no address line is shorted, a cell is selected by its own two
addresses. -/
theorem select?_ne_none_iff (line : board.stuckLine? = none) :
    board.select? address ≠ none ↔ address / 2 < board.cells.size := by
  simp only [select?, driven, line]
  split <;> simp_all

theorem EndsAt.eq_min (ending : board.EndsAt width address)
    (line : board.stuckLine? = none) :
    address = min (2 * board.cells.size) width.ioPageStart := by
  have page := width.memoryEnd_add_two
  have pageEven := width.ioPageStart_mod_two
  cases ending with
  | silent inside even missing before =>
      have behind : ¬ address / 2 < board.cells.size := fun installed =>
        (select?_ne_none_iff line).mpr installed missing
      -- The word before the silent one bounds the cells from the other side.
      have reached : address = 0 ∨ (address - 2) / 2 < board.cells.size := by
        rcases Nat.eq_zero_or_pos address with start | positive
        · exact .inl start
        · exact .inr ((select?_ne_none_iff line).mp
            (before _ (by omega) (by omega)))
      omega
  | filled installed =>
      have last := (select?_ne_none_iff line).mp
        (installed width.memoryEnd (Nat.le_refl _) (by omega))
      omega

end End

end MemoryBoard

namespace Exerciser

variable {γ : Type} {engine : Engine SimulatedBus γ}

/-- The read of all memory, if the clock affords it. -/
theorem exists_sizingBlock
    (affords : engine.Affords
      (engine.transport.board.blockCycles 0 (engine.width.ioPageStart / 2))) :
    ∃ reply moved outcome middle,
      Engine.readRange (probeBuffer engine.width)
        (probedRange engine.width) engine = .ok ((moved, outcome), middle) ∧
      Engine.BlockEffect .dataIn engine (probeBuffer engine.width) 0
        (engine.width.ioPageStart / 2) reply moved outcome middle := by
  have positive : 0 < engine.width.ioPageStart / 2 := by
    cases engine.width <;> decide
  have covered : 0 + engine.width.ioPageStart / 2 ≤
      (probeBuffer engine.width).size := by
    rw [size_probeBuffer]
    exact Nat.le_of_eq (Nat.zero_add _)
  obtain ⟨reply, moved, outcome, middle, step⟩ :=
    Engine.exists_blockStep engine .dataIn positive covered affords
  refine ⟨reply, moved, outcome, middle, ?_, step.simulated positive covered⟩
  apply (Engine.moveRange_eq_ok (checkRange_probedRange engine.width)).mpr
  rw [wordCount_probedRange]
  exact ⟨reply, step⟩

/-- Sizing returns where installed memory ends.  It takes one read of everything
below the io page, and leaves memory as it was. -/
theorem probeSize_finds_end
    (affords : engine.Affords
      (engine.transport.board.blockCycles 0 (engine.width.ioPageStart / 2))) :
    ∃ size sized outcome, probeSize engine = .ok (.ok size, sized) ∧
      engine.transport.board.EndsAt engine.width size ∧
      (engine.transport.board.stuckLine? = none →
        ∀ bytes, engine.transport.board.cells.size = bytes / 2 →
          size = min (bytes / 2 * 2) engine.width.ioPageStart) ∧
      sized.transport.board = engine.transport.board ∧
      sized.transport.requests = engine.transport.requests.push
        ⟨engine.config.slot, .dataIn, 0,
          engine.width.memoryEnd / 2 + 1, outcome⟩ ∧
      outcome =
        if size = engine.width.ioPageStart then .acknowledged
        else .timedOut size := by
  obtain ⟨reply, moved, result, middle, reading, effect⟩ :=
    exists_sizingBlock affords
  obtain ⟨events, probed⟩ := probeSize_of_readRange reading
  obtain ⟨journal, noted⟩ := middle.notedAll_simulated events
  obtain ⟨blockJournal, stopped⟩ := effect.stopped
  have ending := endsAt_installedSize engine.transport.board engine.width
  have page := engine.width.memoryEnd_add_two
  have pageEven := engine.width.ioPageStart_mod_two
  have words : engine.width.ioPageStart / 2 =
      engine.width.memoryEnd / 2 + 1 := by omega
  rw [effect.result, sizeFrom_blockOutcome, noted, stopped] at probed
  refine ⟨_, _, engine.transport.board.blockOutcome 0
    (engine.width.ioPageStart / 2), probed, ending, ?_, rfl, ?_, ?_⟩
  · intro line bytes size
    rw [ending.eq_min line, size, Nat.mul_comm]
  · rw [← words]
    rfl
  · rw [blockOutcome, installedSize, Nat.zero_add]
    by_cases full : engine.transport.board.answered 0
      (engine.width.ioPageStart / 2) = engine.width.ioPageStart / 2
    · rw [if_pos full, if_pos (by omega)]
    · rw [if_neg full, if_neg (by omega)]

/-- An engine on seven bytes of memory. -/
def sevenByteEngine : Engine SimulatedBus Tape where
  transport := { board := MemoryBoard.empty.install 7 }
  width := .bits18
  config := {}
  generator := .repeating #[0]

/-- The odd byte is no memory. -/
theorem probeSize_of_seven_bytes :
    sevenByteEngine.Affords (sevenByteEngine.transport.board.blockCycles 0
        (sevenByteEngine.width.ioPageStart / 2)) ∧
      ∃ sized, probeSize sevenByteEngine = .ok (.ok 6, sized) ∧
        sized.transport.requests =
          #[⟨31, .dataIn, 0, 126976, .timedOut 6⟩] := by
  have affords : sevenByteEngine.Affords
      (sevenByteEngine.transport.board.blockCycles 0
        (sevenByteEngine.width.ioPageStart / 2)) := by decide
  obtain ⟨size, sized, outcome, probed, _, plain, _, requests, told⟩ :=
    probeSize_finds_end affords
  have six : size = 6 := (plain rfl 7 (by decide)).trans (by decide)
  subst six
  subst told
  have below : (6 : Nat) ≠ sevenByteEngine.width.ioPageStart := by decide
  rw [if_neg below] at requests
  exact ⟨affords, sized, probed, requests⟩

end Exerciser

end Backplane
