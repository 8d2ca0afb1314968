import Backplane.Proofs.Exerciser.Completion
import Backplane.Proofs.Exerciser.ExactReport

/-!
# The fault picture of a run

Over installed memory the faults of a board decide a run.  Every pass reads at
each word what the last writer of its cell wrote, with the bits that are stuck
at the word's own address, and the run ends with the first pass in which this
differs somewhere from the pattern.
-/

namespace Backplane.Exerciser

open Dma MemoryBoard

variable {γ : Type}

/-- How the completed passes over a range of a board decide a report. -/
inductive Verdict (board : MemoryBoard) (range : AddressRange) :
    List Buffers → Report → Prop where
  | clean {passes : List Buffers} {report : Report}
      (equal : ∀ buffers ∈ passes, board.faultyWords range buffers.pattern = [])
      (unjudged : Unjudged report) :
      Verdict board range passes report
  | faulty {before : List Buffers} {failing : Buffers} {report : Report}
      (equal : ∀ buffers ∈ before, board.faultyWords range buffers.pattern = [])
      (differ : board.faultyWords range failing.pattern ≠ [])
      (stop : report.stop = .mismatch)
      (mismatchCount :
        report.mismatchCount = (board.faultyWords range failing.pattern).length)
      (mismatches :
        report.mismatches = diagnosed failing.pattern failing.readback range) :
      Verdict board range (before ++ [failing]) report

/-- What a row of completed passes read back, and where it leaves the report. -/
structure FaultPicture (board : MemoryBoard) (range : AddressRange)
    (started : Nat) (passes : List Buffers) (report : Report) : Prop where
  counted : report.passes = started + passes.length
  shown : ∀ buffers ∈ passes, ∀ word ∈ range.words,
    buffers.readback.getD word 0 = board.shown range buffers.pattern word
  verdict : Verdict board range passes report

/-- A comparison finds the faulty words of the board. -/
theorem differences_eq_faultyWords {board : MemoryBoard} {range : AddressRange}
    {pattern readback : Array UInt16}
    (shown : ∀ word ∈ range.words,
      readback.getD word 0 = board.shown range pattern word) :
    differences pattern readback range = board.faultyWords range pattern := by
  apply List.filter_congr
  intro word inside
  rw [shown word inside]

/-! ## A row of passes -/

section Row

variable {board : MemoryBoard} {range : AddressRange} {started : Nat}
  {passes : List Buffers} {report last : Report} {fault? : Option BusError}

/-- Where every pass reads what the board shows, its faults decide the
report. -/
theorem Judgement.picture
    (judgement : Judgement range started passes last fault?)
    (shown : ∀ buffers ∈ passes, ∀ word ∈ range.words,
      buffers.readback.getD word 0 = board.shown range buffers.pattern word) :
    FaultPicture board range started passes last where
  counted := judgement.counted
  shown := shown
  verdict := by
    have faulty (buffers : Buffers) (member : buffers ∈ passes) :=
      differences_eq_faultyWords (shown buffers member)
    by_cases found : last.stop = .mismatch
    · cases judgement.decided with
      | unread faultless => exact absurd found faultless.unfailed
      | @last before failing _ equal tells =>
          have here : failing ∈ before ++ [failing] :=
            List.mem_append_right _ List.mem_cons_self
          have differ := tells.stop.mp found
          have count := tells.mismatchCount
          rw [faulty failing here] at differ count
          refine .faulty (fun earlier member => ?_) differ found count
            tells.mismatches
          rw [← faulty earlier (List.mem_append_left _ member)]
          exact equal earlier member
    · refine .clean (fun buffers member => ?_) (judgement.unjudged found)
      rw [← faulty buffers member]
      exact judgement.decided.equal found buffers member

theorem Keeps.reports {pass : Pass SimulatedBus γ}
    {Between : Engine SimulatedBus γ → Buffers → Prop}
    (keeps : Keeps board range pass Between) : Reports range pass Between := by
  intro engine stopped buffers report after reached fault? between ran
  obtain ⟨kept, effect⟩ := keeps between ran
  cases effect.completed
  obtain ⟨blocksWritten, blocksRead, rfl⟩ := effect.reached
  exact ⟨kept, .compared⟩

/-- Passes that keep what holds between them are all completed, and make a
fault picture. -/
theorem PassTrace.picture {requestLimit : Nat} {pass : Pass SimulatedBus γ}
    {Between : Engine SimulatedBus γ → Buffers → Prop}
    (keeps : Keeps board range pass Between)
    {engine stopped : Engine SimulatedBus γ} {buffers : Buffers}
    (trace : PassTrace requestLimit pass engine buffers report passes last
      fault? stopped)
    (between : Between engine buffers) (unjudged : Unjudged report) :
    fault? = none ∧ FaultPicture board range report.passes passes last ∧
      ∀ after ∈ passes, ∃ reached, Between reached after := by
  have ran := trace.ran keeps.reports between
  refine ⟨?_, (trace.judgement keeps.reports between unjudged).picture ?_, ?_⟩
  · apply trace.unbroken keeps.reports between
    intro engine stopped buffers report after reached fault? between performed
    exact (keeps between performed).2.completed
  · intro after member
    obtain ⟨_, _, _, _, _, between, performed⟩ := ran after member
    exact (keeps between performed).2.shown
  · intro after member
    obtain ⟨_, _, _, _, reached, between, performed⟩ := ran after member
    exact ⟨reached, (keeps between performed).1⟩

end Row

/-! ## A run -/

variable {range : AddressRange} {mode : Mode} {cancelAfter : Nat}
  {engine stopped : Engine SimulatedBus γ}

theorem holdsAddresses_of_written {pattern : Array UInt16}
    (accepted : checkRange engine.width range = .ok ())
    (installed : engine.transport.board.Installed range)
    (writing : Engine.writeRange (addressPattern (range.lastWord + 1))
      range engine = .ok ((pattern, .ok ()), stopped)) :
    HoldsAddresses engine.transport.board range stopped
      ⟨pattern, blankBuffer range⟩ := by
  obtain ⟨elapsed, effect⟩ := Engine.moveRange_transferEffect
    (engine_checkRange accepted (size_addressPattern _)) writing
  obtain ⟨same, shows⟩ := effect.written installed
  have prepared := Prepared.written accepted effect
  subst same
  exact ⟨⟨prepared, effect.sameWiring⟩, rfl, shows⟩

variable [RandomSource γ]

theorem RunTrace.picture {passes : List Buffers} {report : Report}
    {fault? : Option BusError}
    (trace : RunTrace range cancelAfter engine mode passes report
      fault? stopped)
    (accepted : checkRange engine.width range = .ok ())
    (installed : engine.transport.board.Installed range) :
    fault? = none ∧ FaultPicture engine.transport.board range 0 passes report ∧
      (mode = .addressPattern → ∀ buffers ∈ passes,
        buffers.pattern = addressPattern (range.lastWord + 1)) := by
  cases trace with
  | unwritten writing =>
      obtain ⟨elapsed, effect⟩ := Engine.moveRange_transferEffect
        (engine_checkRange accepted (size_addressPattern _)) writing
      cases effect.completed installed
  | address writing trace =>
      obtain ⟨completed, picture, held⟩ :=
        trace.picture (addressPass_keeps installed)
        (holdsAddresses_of_written accepted installed writing) ⟨rfl, rfl, rfl⟩
      refine ⟨completed, picture, ?_⟩
      intro _ buffers member
      obtain ⟨reached, holds⟩ := held buffers member
      exact holds.addresses
  | random trace =>
      have ready : Ready engine.transport.board range engine
          ⟨blankBuffer range, blankBuffer range⟩ :=
        ⟨.blank accepted, .refl _⟩
      obtain ⟨completed, picture, _⟩ :=
        trace.picture (randomPass_keeps installed) ready ⟨rfl, rfl, rfl⟩
      exact ⟨completed, picture, fun impossible => nomatch impossible⟩

/-- A run over installed memory returns the report of its fault picture. -/
theorem run_picture {result : Except BusError Report}
    (accepted : checkRange engine.width range = .ok ())
    (installed : engine.transport.board.Installed range)
    (ran : run range mode cancelAfter engine = .ok (result, stopped)) :
    ∃ report passes last,
      result = .ok report ∧
      RunTrace range cancelAfter
        (engine.noted (.exerciseStarted engine.width range mode))
        mode passes report none last ∧
      FaultPicture engine.transport.board range 0 passes report ∧
      (mode = .addressPattern → ∀ buffers ∈ passes,
        buffers.pattern = addressPattern (range.lastWord + 1)) := by
  obtain ⟨report, fault?, last, ⟨passes, trace⟩, outcome, _⟩ :=
    (run_eq_ok accepted).mp ran
  obtain ⟨completed, picture, addresses⟩ := trace.picture accepted installed
  subst completed
  exact ⟨report, passes, last, outcome, trace, picture, addresses⟩

/-- Every completed pass reads at each word what the last writer of its cell
wrote, with the bits that are stuck at the word.  The run stops with the first
pass in which this differs from the pattern, and counts the words where it
does. -/
theorem run_stops_at_first_faulty_pass {result : Except BusError Report}
    (accepted : checkRange engine.width range = .ok ())
    (installed : engine.transport.board.Installed range)
    (ran : run range mode cancelAfter engine = .ok (result, stopped)) :
    ∃ report passes last,
      result = .ok report ∧
      RunTrace range cancelAfter
        (engine.noted (.exerciseStarted engine.width range mode))
        mode passes report none last ∧
      report.passes = passes.length ∧
      (mode = .addressPattern → ∀ buffers ∈ passes,
        buffers.pattern = addressPattern (range.lastWord + 1)) ∧
      (∀ buffers ∈ passes, ∀ word ∈ range.words, ∃ writer,
        engine.transport.board.IsLastWriter range word writer ∧
        buffers.readback.getD word 0 =
          buffers.pattern.getD writer 0 |||
            engine.transport.board.stuckBits.getD word 0) ∧
      ((report.stop = .cancelled ∧ report.mismatchCount = 0 ∧
          ∀ buffers ∈ passes, ∀ word ∈ range.words,
            ¬ engine.transport.board.IsFaulty range buffers.pattern word) ∨
        (report.stop = .mismatch ∧ ∃ before failing faulty,
          passes = before ++ [failing] ∧
          (∀ buffers ∈ before, ∀ word ∈ range.words,
            ¬ engine.transport.board.IsFaulty range buffers.pattern word) ∧
          faulty ≠ [] ∧ faulty.Nodup ∧
          (∀ word, word ∈ faulty ↔
            word ∈ range.words ∧
              engine.transport.board.IsFaulty range failing.pattern word) ∧
          report.mismatchCount = faulty.length)) := by
  obtain ⟨report, passes, last, outcome, trace, picture, addresses⟩ :=
    run_picture accepted installed ran
  refine ⟨report, passes, last, outcome, trace, ?_, addresses, ?_, ?_⟩
  · rw [picture.counted, Nat.zero_add]
  · intro buffers member word inside
    have found := picture.shown buffers member word inside
    rw [shown, stuckAt_word] at found
    exact ⟨_, isLastWriter_lastWriter inside, found⟩
  · cases picture.verdict with
    | clean equal unjudged =>
        refine .inl ⟨unjudged.stop, unjudged.mismatchCount,
          fun buffers member => ?_⟩
        exact faultyWords_eq_nil_iff.mp (equal buffers member)
    | @faulty before failing _ equal differ stop count described =>
        refine .inr ⟨stop, before, failing, _, rfl,
          fun buffers member => ?_, differ,
          nodup_faultyWords _ _ _, fun word => mem_faultyWords, count⟩
        exact faultyWords_eq_nil_iff.mp (equal buffers member)

/-- An engine on four words behind a shorted address line. -/
def shortedEngine : Engine SimulatedBus Tape where
  transport :=
    { board := { MemoryBoard.empty with
      cells := #[0, 0, 0, 0], stuckLine? := some 1 }
      clockMode := .wall }
  width := .bits16
  config := {}
  generator := .repeating #[0x80000000, 0x12345678, 0xffffffff]

theorem installed_shortedEngine :
    shortedEngine.transport.board.Installed ⟨0, 6⟩ := by
  rw [Installed]
  decide

/-- The same words with stuck bits: bit 4 of the first word, bit 15 of the
second, and bit 0 of the last. -/
def faultyEngine : Engine SimulatedBus Tape :=
  { shortedEngine with
    transport :=
      { shortedEngine.transport with
        board :=
          { shortedEngine.transport.board with
            stuckBits := Std.HashMap.insert
              (Std.HashMap.insert (Std.HashMap.insert ∅ 0 0x0010) 1 0x8000)
              3 0x0001 } } }

theorem stuckBits_faultyEngine (word : Nat) :
    faultyEngine.transport.board.stuckBits.getD word 0 =
      if word = 3 then 0x0001
      else if word = 1 then 0x8000
      else if word = 0 then 0x0010
      else 0 := by
  simp only [faultyEngine, Std.HashMap.getD_insert,
    Std.HashMap.getD_empty, beq_iff_eq, @eq_comm Nat word]

/-- The words of the range whose cells are written last are the odd ones. -/
theorem isLastWriter_faultyEngine {word : Nat} (inside : word < 4) :
    faultyEngine.transport.board.IsLastWriter ⟨0, 6⟩ word (word ||| 1) := by
  have cases : word = 0 ∨ word = 1 ∨ word = 2 ∨ word = 3 := by omega
  rcases cases with rfl | rfl | rfl | rfl <;>
    exact ⟨by decide, by decide, by decide⟩

/-- The line hides the lower word of each of the two pairs, and a stuck bit
spoils the second word.  The bit stuck at the last word is set in the pattern
there. -/
theorem run_stops_at_three_faulty_words :
    checkRange .bits16 ⟨0, 6⟩ = .ok () ∧
      faultyEngine.transport.board.Installed ⟨0, 6⟩ ∧
      ∃ report failing last stopped,
        run ⟨0, 6⟩ .addressPattern 3 faultyEngine = .ok (.ok report, stopped) ∧
        RunTrace ⟨0, 6⟩ 3
          (faultyEngine.noted (.exerciseStarted .bits16 ⟨0, 6⟩ .addressPattern))
          .addressPattern [failing] report none last ∧
        failing.readback.getD 0 0 = 0x0011 ∧
        failing.readback.getD 1 0 = 0x8001 ∧
        failing.readback.getD 2 0 = 0x0003 ∧
        failing.readback.getD 3 0 = 0x0003 ∧
        report.stop = .mismatch ∧ report.mismatchCount = 3 := by
  have accepted : checkRange .bits16 ⟨0, 6⟩ = .ok () :=
    checkRange_eq_ok.mpr (by decide)
  have installed : faultyEngine.transport.board.Installed ⟨0, 6⟩ := by
    rw [Installed]
    decide
  have faultyAt {word : Nat} (inside : word < 4) :
      faultyEngine.transport.board.IsFaulty ⟨0, 6⟩ (addressPattern 4) word ↔
      word ≠ 3 := by
    rw [(isLastWriter_faultyEngine inside).isFaulty_iff, stuckBits_faultyEngine]
    decide +revert
  obtain ⟨result, stopped, ran⟩ :=
    exists_run (by decide : faultyEngine.WallClocked) accepted .addressPattern 3
  obtain ⟨report, passes, last, rfl, trace, _, addresses, found, verdict⟩ :=
    run_stops_at_first_faulty_pass accepted installed ran
  have spoiled {buffers : Buffers} (member : buffers ∈ passes) :
      faultyEngine.transport.board.IsFaulty ⟨0, 6⟩ buffers.pattern 0 := by
    rw [addresses rfl buffers member]
    exact (faultyAt (by decide)).mpr (by decide)
  rcases verdict with ⟨_, _, clean⟩
    | ⟨stop, before, failing, faulty, rfl, clean, _, nodup, members, count⟩
  · obtain ⟨first, member⟩ :=
      List.exists_mem_of_ne_nil passes (trace.passes_ne_nil (by decide))
    exact absurd (spoiled member) (clean first member 0 (by decide))
  · have alone : before = [] :=
      List.eq_nil_iff_forall_not_mem.mpr fun earlier member =>
        clean earlier member 0 (by decide)
          (spoiled (List.mem_append_left _ member))
    subst alone
    have member : failing ∈ [] ++ [failing] :=
      List.mem_append_right _ List.mem_cons_self
    have pattern := addresses rfl failing member
    have same : faulty.Perm [0, 1, 2] := by
      refine (List.perm_ext_iff_of_nodup nodup (by decide)).mpr fun word => ?_
      rw [members word, pattern]
      constructor
      · rintro ⟨inside, spoils⟩
        have bound : word < 4 := (List.mem_range'_1.mp inside).2
        have notLast := (faultyAt bound).mp spoils
        have cases : word = 0 ∨ word = 1 ∨ word = 2 := by omega
        rcases cases with rfl | rfl | rfl <;> decide
      · intro member
        have bound : word < 3 := List.mem_range.mp member
        exact ⟨List.mem_range'_1.mpr
          ⟨Nat.zero_le word, Nat.lt_succ_of_lt bound⟩,
          (faultyAt (Nat.lt_succ_of_lt bound)).mpr (Nat.ne_of_lt bound)⟩
    have reads {word : Nat} (inside : word < 4) :
        failing.readback.getD word 0 =
        (addressPattern 4).getD (word ||| 1) 0 |||
          faultyEngine.transport.board.stuckBits.getD word 0 := by
      obtain ⟨writer, isLast, value⟩ := found failing member word
        (List.mem_range'_1.mpr ⟨Nat.zero_le word, inside⟩)
      rw [value, pattern, isLast.unique (isLastWriter_faultyEngine inside)]
      rfl
    refine ⟨accepted, installed, report, failing, last, stopped, ran, trace,
      ?_, ?_, ?_, ?_, stop, count.trans same.length_eq⟩
    all_goals
      rw [reads (by decide), stuckBits_faultyEngine]
      decide

end Backplane.Exerciser
