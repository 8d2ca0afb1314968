import Backplane.Proofs.Exerciser.FaultPicture
import Backplane.Proofs.Memory.Healthy

/-!
# Sizing and exercising

Sizing reads everything below the io page in one block and returns the first
address that did not answer.  An exerciser meets the same address: below it no
run times out, and a run over a range that holds it times out right there,
before its first pass.
-/

namespace Backplane

open Dma MemoryBoard

namespace MemoryBoard

/-- The first silent address below the io page, or the start of the io page. -/
def installedSize (board : MemoryBoard) (width : AddressWidth) : Nat :=
  2 * board.answered 0 (width.ioPageStart / 2)

section Size

variable {board : MemoryBoard} {width : AddressWidth}

theorem installedSize_le : board.installedSize width ≤ width.ioPageStart := by
  have bound := board.answered_le 0 (width.ioPageStart / 2)
  rw [installedSize]
  omega

theorem answers_of_lt_installedSize {word : Nat}
    (below : 2 * word < board.installedSize width) :
    board.answers (2 * word) = true := by
  rw [installedSize] at below
  have before : word < board.answered 0 (width.ioPageStart / 2) := by omega
  rw [← Nat.zero_add (2 * word)]
  exact answers_of_lt_answered before

theorem silent_at_installedSize
    (short : board.installedSize width < width.ioPageStart) :
    board.answers (board.installedSize width) = false := by
  have even := width.ioPageStart_mod_two
  rw [installedSize] at short ⊢
  rw [← Nat.zero_add (2 * _)]
  apply silent_at_answered
  omega

end Size

/-- A block ends at its first silent word. -/
theorem blockOutcome_of_silent {board : MemoryBoard} {start count index : Nat}
    (within : index < count)
    (before : ∀ earlier < index, board.answers (start + 2 * earlier) = true)
    (silent : board.answers (start + 2 * index) = false) :
    board.blockOutcome start count = .timedOut (start + 2 * index) := by
  have full := answered_eq_self_iff.mpr before
  have ending : board.answered start count = index := by
    obtain ⟨rest, rfl⟩ : ∃ rest, count = index + (rest + 1) :=
      ⟨count - index - 1, by omega⟩
    rw [answered_add_of_full full, answered, silent]
    rfl
  apply blockOutcome_eq_timedOut_iff.mpr
  rw [ending]
  exact ⟨by omega, rfl⟩

end MemoryBoard

namespace Exerciser

variable {γ : Type}

/-! ## Sizing -/

def probedRange (width : AddressWidth) : AddressRange :=
  ⟨0, width.memoryEnd⟩

def probeBuffer (width : AddressWidth) : Array UInt16 :=
  Array.replicate (width.memoryEnd / 2 + 1) 0

theorem firstWord_probedRange (width : AddressWidth) :
    (probedRange width).firstWord = 0 :=
  Nat.zero_div 2

theorem wordCount_probedRange (width : AddressWidth) :
    (probedRange width).wordCount = width.ioPageStart / 2 := by
  cases width <;> decide

theorem size_probeBuffer (width : AddressWidth) :
    (probeBuffer width).size = width.ioPageStart / 2 := by
  rw [probeBuffer, Array.size_replicate]
  cases width <;> decide

theorem checkRange_probedRange (width : AddressWidth) :
    Engine.checkRange width (probedRange width) (probeBuffer width).size =
      .ok () := by
  rw [size_probeBuffer]
  apply Engine.checkRange_eq_ok.mpr
  cases width <;> decide

/-- Sizing tells the first silent address from the way its read ended. -/
theorem sizeFrom_blockOutcome (board : MemoryBoard) (width : AddressWidth) :
    sizeFrom width (board.blockOutcome 0 (width.ioPageStart / 2)).toResult =
      .ok (board.installedSize width) := by
  have page := width.memoryEnd_add_two
  have pageEven := width.ioPageStart_mod_two
  have behind : width.memoryEnd + 2 = 2 * (width.ioPageStart / 2) := by omega
  rw [installedSize]
  cases ending : board.blockOutcome 0 (width.ioPageStart / 2) with
  | acknowledged =>
      rw [blockOutcome_eq_acknowledged_iff.mp ending, ← behind]
      rfl
  | timedOut address =>
      have silent := (blockOutcome_eq_timedOut_iff.mp ending).2
      rw [Nat.zero_add] at silent
      rw [silent]
      rfl

/-- Sizing returns the first silent address and changes nothing on the board. -/
theorem probeSize_eq_ok {engine sized : Engine SimulatedBus γ}
    {result : Except BusError Nat}
    (probed : probeSize engine = .ok (result, sized)) :
    result = .ok (engine.transport.board.installedSize engine.width) ∧
      sized.width = engine.width ∧
      sized.transport.board = engine.transport.board := by
  obtain ⟨moved, outcome, middle, events, reading, rfl, rfl⟩ :=
    readRange_of_probeSize probed
  obtain ⟨elapsed, effect⟩ :=
    Engine.moveRange_transferEffect
      (checkRange_probedRange engine.width) reading
  have ending := effect.result
  rw [wordCount_probedRange, firstWord_probedRange] at ending
  refine ⟨?_, ?_, ?_⟩
  · rw [ending]
    exact sizeFrom_blockOutcome _ _
  · rw [Engine.notedAll_width]
    exact effect.settings.width
  · rw [Engine.notedAll_board]
    exact effect.board

theorem exists_probeSize {engine : Engine SimulatedBus γ}
    (affords : engine.Affords
      (Engine.accessCycles (probedRange engine.width))) :
    ∃ result sized, probeSize engine = .ok (result, sized) := by
  obtain ⟨moved, outcome, middle, reading⟩ :
      ∃ moved outcome middle, Engine.readRange (probeBuffer engine.width)
        (probedRange engine.width) engine = .ok ((moved, outcome), middle) :=
    affords.exists_moveRange (checkRange_probedRange engine.width)
  obtain ⟨events, probed⟩ := probeSize_of_readRange reading
  exact ⟨_, _, probed⟩

/-! ## A range that holds the first silent address -/

/-- A silent address in a range, with every address of the range before it
answered. -/
structure FirstSilent (board : MemoryBoard) (range : AddressRange)
    (word : Nat) : Prop where
  inside : word ∈ range.words
  before : ∀ earlier ∈ range.words, earlier < word →
    board.answers (2 * earlier) = true
  silent : board.answers (2 * word) = false

section Silent

variable {range : AddressRange} {word : Nat}

/-- A range that ends behind healthy memory has a first silent address. -/
theorem exists_firstSilent {board : MemoryBoard} (healthy : board.Healthy)
    (wellFormed : range.isWellFormed = true)
    (behind : board.cells.size ≤ range.lastWord) :
    ∃ word, FirstSilent board range word := by
  have ordered := (AddressRange.isWellFormed_iff.mp wellFormed).2.2
  have words : range.firstWord ≤ range.lastWord := Nat.div_le_div_right ordered
  refine ⟨max range.firstWord board.cells.size, ?_, ?_, ?_⟩
  · rw [AddressRange.mem_words wellFormed]
    omega
  · intro earlier inside before
    have starts := ((AddressRange.mem_words wellFormed).mp inside).1
    exact healthy.answers_iff.mpr (by omega)
  · rw [← Bool.not_eq_true, healthy.answers_iff]
    omega

theorem FirstSilent.of_sameWiring {left right : MemoryBoard}
    (first : FirstSilent right range word) (same : SameWiring left right) :
    FirstSilent left range word where
  inside := first.inside
  before := fun earlier inside earlierBefore =>
    (same.answers _).trans (first.before earlier inside earlierBefore)
  silent := (same.answers _).trans first.silent

theorem FirstSilent.blockOutcome {board : MemoryBoard}
    (first : FirstSilent board range word) :
    board.blockOutcome (2 * range.firstWord) range.wordCount =
      .timedOut (2 * word) := by
  have ends := List.mem_range'_1.mp first.inside
  obtain ⟨index, rfl⟩ : ∃ index, word = range.firstWord + index :=
    ⟨word - range.firstWord, by omega⟩
  rw [Nat.mul_add]
  apply blockOutcome_of_silent (by omega)
  · intro earlier earlierBefore
    rw [← Nat.mul_add]
    exact first.before _ (List.mem_range'_1.mpr (by omega)) (by omega)
  · rw [← Nat.mul_add]
    exact first.silent

theorem FirstSilent.timeout {cycle : Cycle}
    {engine stopped : Engine SimulatedBus γ} {buffer moved : Array UInt16}
    {elapsed : Nat} {result : Except BusError Unit}
    (first : FirstSilent engine.transport.board range word)
    (effect : Engine.TransferEffect cycle engine buffer range.firstWord
      range.wordCount elapsed moved result stopped) :
    result = .error (.timeout (2 * word)) := by
  rw [effect.result, first.blockOutcome]
  rfl

variable {board : MemoryBoard} {engine stopped : Engine SimulatedBus γ}
  {mode : Mode} {cancelAfter : Nat}

theorem FirstSilent.accessRandom [RandomSource γ] {cycle : Cycle}
    {buffer moved : Array UInt16} {result : Except BusError Nat}
    (first : FirstSilent engine.transport.board range word)
    (accepted : Engine.checkRange engine.width range buffer.size = .ok ())
    (ran : Engine.accessRandom cycle buffer range engine =
      .ok ((moved, result), stopped)) :
    result = .error (.timeout (2 * word)) := by
  obtain ⟨issued, outcome, rfl, effect⟩ :=
    Engine.accessRandom_transferEffect accepted ran
  rw [first.timeout effect]
  rfl

/-- A random pass does not come to its comparison. -/
theorem FirstSilent.randomPass [RandomSource γ] {buffers after : Buffers}
    {report reached : Report} {fault? : Option BusError}
    (first : FirstSilent board range word)
    (ready : Ready board range engine buffers)
    (pass : RandomPass range engine buffers report after reached
      fault? stopped) :
    fault? = some (.timeout (2 * word)) ∧ reached = report := by
  have accepted := ready.drawn.acceptsPattern
  have missing :
      FirstSilent (afterDraw engine range buffers.pattern).transport.board
      range word :=
    first.of_sameWiring ready.wiring
  cases pass with
  | unwritten writing =>
      have timeout := missing.accessRandom accepted writing
      cases timeout
      exact ⟨rfl, rfl⟩
  | unread writing reading =>
      have impossible := missing.accessRandom accepted writing
      cases impossible
  | compared writing reading =>
      have impossible := missing.accessRandom accepted writing
      cases impossible

theorem FirstSilent.exists_runTrace [RandomSource γ]
    (first : FirstSilent engine.transport.board range word)
    (affords : engine.Affords (Engine.accessCycles range))
    (accepted : checkRange engine.width range = .ok ())
    (uncancelled : mode = .randomPattern → 0 < cancelAfter) :
    ∃ report fault? last, RunTrace range cancelAfter engine mode [] report
      fault? last := by
  cases mode with
  | addressPattern =>
      have writable :=
        engine_checkRange accepted (size_addressPattern (range.lastWord + 1))
      obtain ⟨pattern, result, last, writing⟩ :
          ∃ pattern result last, Engine.writeRange
          (addressPattern (range.lastWord + 1))
            range engine = .ok ((pattern, result), last) :=
        affords.exists_moveRange writable
      obtain ⟨_, effect⟩ := Engine.moveRange_transferEffect writable writing
      cases first.timeout effect
      exact ⟨_, _, _, .unwritten writing⟩
  | randomPattern =>
      have drawn := (Prepared.blank accepted).drawn
      have drawnAffords : (afterDraw engine range (blankBuffer range)).Affords
          (Engine.accessCycles range) := affords
      have missing : FirstSilent
          (afterDraw engine range (blankBuffer range)).transport.board
          range word := first
      obtain ⟨pattern, result, last, writing⟩ :
          ∃ pattern result last, Engine.accessRandom .dataOut
            (drawnWords engine range (blankBuffer range)) range
              (afterDraw engine range (blankBuffer range)) =
              .ok ((pattern, result), last) :=
        drawnAffords.exists_accessRandom drawn.acceptsPattern
      cases missing.accessRandom drawn.acceptsPattern writing
      have fewer : engine.stats.transfers <
          engine.stats.transfers + cancelAfter :=
        Nat.lt_add_of_pos_right (uncancelled rfl)
      exact ⟨_, _, _, .random
        (.broken fewer (randomPass_eq_ok.mpr (.unwritten writing)))⟩

/-- A run over the range returns if the clock affords its only access. -/
theorem FirstSilent.exists_run [RandomSource γ]
    (first : FirstSilent engine.transport.board range word)
    (affords : engine.Affords (Engine.accessCycles range))
    (accepted : checkRange engine.width range = .ok ())
    (uncancelled : mode = .randomPattern → 0 < cancelAfter) :
    ∃ result last, run range mode cancelAfter engine = .ok (result, last) := by
  have missing : FirstSilent
      (engine.noted (.exerciseStarted engine.width range mode)).transport.board
      range word :=
    first
  obtain ⟨report, fault?, last, trace⟩ :=
    missing.exists_runTrace affords accepted uncancelled
  exact ⟨_, _, (run_eq_ok accepted).mpr
    ⟨report, fault?, last, ⟨[], trace⟩, rfl, rfl⟩⟩

/-- A run over the range times out before its first pass. -/
theorem FirstSilent.runTrace [RandomSource γ] {passes : List Buffers}
    {report : Report} {fault? : Option BusError}
    (first : FirstSilent engine.transport.board range word)
    (accepted : checkRange engine.width range = .ok ())
    (uncancelled : mode = .randomPattern → 0 < cancelAfter)
    (trace : RunTrace range cancelAfter engine mode passes report
      fault? stopped) :
    fault? = some (.timeout (2 * word)) ∧ report = { mode := mode } := by
  have writable :=
    engine_checkRange accepted (size_addressPattern (range.lastWord + 1))
  cases trace with
  | unwritten writing =>
      obtain ⟨elapsed, effect⟩ :=
        Engine.moveRange_transferEffect writable writing
      cases first.timeout effect
      exact ⟨rfl, rfl⟩
  | address writing trace =>
      obtain ⟨elapsed, effect⟩ :=
        Engine.moveRange_transferEffect writable writing
      cases first.timeout effect
  | random trace =>
      have ready : Ready engine.transport.board range engine
          ⟨blankBuffer range, blankBuffer range⟩ :=
        ⟨.blank accepted, .refl _⟩
      have allowed := uncancelled rfl
      cases trace with
      | cancelled enough => omega
      | broken fewer ran =>
          obtain ⟨timeout, reached⟩ :=
            first.randomPass ready (randomPass_eq_ok.mp ran)
          exact ⟨timeout, reached⟩
      | differs fewer ran found =>
          obtain ⟨impossible, _⟩ :=
            first.randomPass ready (randomPass_eq_ok.mp ran)
          cases impossible
      | next fewer ran equal rest =>
          obtain ⟨impossible, _⟩ :=
            first.randomPass ready (randomPass_eq_ok.mp ran)
          cases impossible

end Silent

/-! ## Runs after sizing -/

section Sized

variable {board : MemoryBoard} {width : AddressWidth}

theorem checkRange_installedSize (found : 0 < board.installedSize width) :
    checkRange width ⟨0, board.installedSize width - 2⟩ = .ok () := by
  have bound : board.installedSize width ≤ width.ioPageStart := installedSize_le
  have inSpace : width.ioPageStart ≤ width.maxAddress := by
    cases width <;> decide
  have even : board.installedSize width % 2 = 0 := Nat.mul_mod_right _ _
  apply checkRange_eq_ok.mpr
  refine ⟨AddressRange.isWellFormed_iff.mpr ⟨rfl, ?_, Nat.zero_le _⟩, ?_⟩
  · change (board.installedSize width - 2) % 2 = 0
    omega
  · exact Nat.le_trans (Nat.sub_le _ _) (Nat.le_trans bound inSpace)

theorem installed_installedSize (found : 0 < board.installedSize width) :
    board.Installed ⟨0, board.installedSize width - 2⟩ := by
  intro word inside
  have wellFormed := (checkRange_eq_ok.mp (checkRange_installedSize found)).1
  have ends := ((AddressRange.mem_words wellFormed).mp inside).2
  have last := AddressRange.last_eq_two_mul wellFormed
  simp only at last
  have below : 2 * word < board.installedSize width := by omega
  exact answers_of_lt_installedSize below

/-- Any range that holds the address returned by sizing meets silence there
first. -/
theorem firstSilent_installedSize {range : AddressRange}
    (short : board.installedSize width < width.ioPageStart)
    (wellFormed : range.isWellFormed = true)
    (starts : range.first ≤ board.installedSize width)
    (reaches : board.installedSize width ≤ range.last) :
    ∃ word, board.installedSize width = 2 * word ∧
    FirstSilent board range word := by
  obtain ⟨word, size⟩ : ∃ word, board.installedSize width = 2 * word := ⟨_, rfl⟩
  have first := AddressRange.first_eq_two_mul wellFormed
  have last := AddressRange.last_eq_two_mul wellFormed
  have silent := silent_at_installedSize short
  rw [size] at silent
  refine ⟨word, size, (AddressRange.mem_words wellFormed).mpr ⟨?_, ?_⟩,
    ?_, silent⟩
  · omega
  · omega
  · intro earlier _ before
    have below : 2 * earlier < board.installedSize width := by omega
    exact answers_of_lt_installedSize below

end Sized

/-- Below the address that sizing returned no run times out.  Over a range that
holds it, every run times out right there, before its first pass. -/
theorem runs_agree_with_probeSize [RandomSource γ]
    {engine sized : Engine SimulatedBus γ} {result : Except BusError Nat}
    (probed : probeSize engine = .ok (result, sized)) :
    ∃ size, result = .ok size ∧
      ∀ later : Engine SimulatedBus γ, later.width = sized.width →
        SameWiring later.transport.board sized.transport.board →
        ∀ mode cancelAfter,
          (0 < size → ∀ outcome stopped,
            run ⟨0, size - 2⟩ mode cancelAfter later = .ok (outcome, stopped) →
            ∃ report, outcome = .ok report ∧
              ∀ address, report.stop ≠ .timeout address) ∧
          (size < sized.width.ioPageStart → ∀ range outcome stopped,
            checkRange later.width range = .ok () →
            range.first ≤ size → size ≤ range.last →
            (mode = .randomPattern → 0 < cancelAfter) →
            run range mode cancelAfter later = .ok (outcome, stopped) →
            ∃ report, outcome = .ok report ∧ report.stop = .timeout size ∧
              report.passes = 0 ∧ report.blocksRead = 0 ∧
              report.mismatchCount = 0) := by
  obtain ⟨size, sameWidth, sameBoard⟩ := probeSize_eq_ok probed
  refine ⟨_, size, ?_⟩
  intro later laterWidth laterWiring mode cancelAfter
  rw [sameWidth] at laterWidth
  rw [sameBoard] at laterWiring
  constructor
  · intro found outcome stopped ran
    obtain ⟨report, passes, _, completed, _, picture, _⟩ := run_picture
      (by rw [laterWidth]; exact checkRange_installedSize found)
      (laterWiring.installed (installed_installedSize found)) ran
    refine ⟨report, completed, ?_⟩
    intro address timeout
    cases picture.verdict with
    | clean equal unjudged => cases unjudged.stop.symm.trans timeout
    | faulty equal differ stop => cases stop.symm.trans timeout
  · intro short range outcome stopped accepted starts reaches uncancelled ran
    rw [sameWidth] at short
    obtain ⟨word, sizeEquality, first⟩ := firstSilent_installedSize short
      (checkRange_eq_ok.mp accepted).1 starts reaches
    obtain ⟨report, fault?, last, ⟨passes, trace⟩, concluding, _⟩ :=
      (run_eq_ok accepted).mp ran
    have missing : FirstSilent
        (later.noted (.exerciseStarted later.width range mode)).transport.board
        range word :=
      first.of_sameWiring laterWiring
    obtain ⟨timeout, fresh⟩ := missing.runTrace accepted uncancelled trace
    subst timeout
    subst fresh
    rw [sizeEquality]
    exact ⟨_, concluding, rfl, rfl, rfl, rfl⟩

/-- Behind the shorted line four cells answer up to address 8. -/
theorem run_times_out_at_probed_size :
    ∃ sized, probeSize shortedEngine = .ok (.ok 8, sized) ∧
      ∃ report stopped, run ⟨4, 12⟩ .randomPattern 1 shortedEngine =
        .ok (.ok report, stopped) ∧ report.stop = .timeout 8 := by
  have clocked : shortedEngine.WallClocked := by decide
  have accepted : checkRange .bits16 ⟨4, 12⟩ = .ok () :=
    checkRange_eq_ok.mpr (by decide)
  have size : shortedEngine.transport.board.installedSize
      shortedEngine.width = 8 := by
    decide
  obtain ⟨result, sized, probed⟩ :=
    exists_probeSize (clocked.affords (by decide))
  obtain ⟨sizing, sameWidth, sameBoard⟩ := probeSize_eq_ok probed
  obtain ⟨found, returned, agree⟩ := runs_agree_with_probeSize probed
  have eight : found = 8 := by
    rw [sizing, size] at returned
    exact (Except.ok.inj returned).symm
  subst eight
  subst returned
  obtain ⟨outcome, stopped, ran⟩ := exists_run clocked accepted .randomPattern 1
  obtain ⟨report, rfl, stop, _⟩ := (agree shortedEngine sameWidth.symm
    (sameBoard ▸ .refl _) .randomPattern 1).2 (by rw [sameWidth]; decide)
    ⟨4, 12⟩ outcome stopped accepted (by decide) (by decide) (by decide) ran
  exact ⟨sized, probed, report, stopped, ran, stop⟩

end Exerciser

end Backplane
