import Backplane.Proofs.Dma.Tiling
import Backplane.Proofs.Exerciser.BlockCounters
import Backplane.Proofs.Exerciser.FaultPicture
import Backplane.Proofs.Memory.Healthy

/-!
# Runs that are cancelled

On a board without faults that covers the range, a run ends only by being
cancelled.  Its requests are an opening and a row for each pass, and the run
ends at the first boundary between two passes with enough requests behind it.
-/

namespace Backplane

namespace Dma

open Exerciser

theorem Tiles.allAcknowledged {slot first count : Nat} {cycle : Cycle}
    {blocks : List LoggedRequest}
    (tiles : Tiles slot cycle first count blocks) :
    AllAcknowledged cycle blocks := by
  induction tiles with
  | nil => exact List.forall_mem_nil _
  | cons _ _ induction => exact List.forall_mem_cons.mpr ⟨⟨rfl, rfl⟩, induction⟩

theorem Engine.Recorded.notedAll {γ : Type}
    {engine stopped : Engine SimulatedBus γ} {added : List LoggedRequest}
    (recorded : Recorded engine added stopped) (events : List Event) :
    Recorded engine added (stopped.notedAll events) := by
  obtain ⟨journal, noted⟩ := stopped.notedAll_simulated events
  rw [noted]
  exact ⟨recorded.requests, recorded.transfers, recorded.width, recorded.slot⟩

end Dma

namespace Exerciser

open Dma Engine MemoryBoard

/-! ## The requests of a run -/

/-- The requests of a completed pass. -/
inductive PassRow (slot : Nat) (range : AddressRange) :
    Mode → List LoggedRequest → Prop where
  | address :
      PassRow slot range .addressPattern
        [acknowledgedBlock slot .dataIn range.firstWord range.wordCount]
  | random {writes reads : List LoggedRequest}
      (written : Tiles slot .dataOut range.firstWord range.wordCount writes)
      (read : Tiles slot .dataIn range.firstWord range.wordCount reads) :
      PassRow slot range .randomPattern (writes ++ reads)

/-- The requests before the first pass. -/
def opening (slot : Nat) (range : AddressRange) : Mode → List LoggedRequest
  | .addressPattern =>
    [acknowledgedBlock slot .dataOut range.firstWord range.wordCount]
  | .randomPattern => []

/-- The requests of a run that ends at the first boundary between two passes
with `cancelAfter` requests behind it. -/
structure CancelledAt (slot : Nat) (range : AddressRange) (mode : Mode)
    (cancelAfter : Nat) (rows : List (List LoggedRequest))
    (record : List LoggedRequest) : Prop where
  parts : record = opening slot range mode ++ rows.flatten
  passes : ∀ row ∈ rows, PassRow slot range mode row
  enough : cancelAfter ≤ record.length
  fewer : ∀ n < rows.length,
    (opening slot range mode ++ (rows.take n).flatten).length < cancelAfter

variable {γ : Type}

/-- Passes of a mode whose requests make a row of that mode. -/
def Records (mode : Mode) (range : AddressRange) (pass : Pass SimulatedBus γ) :
    Prop :=
  ∀ ⦃engine stopped buffers report after reached⦄,
    Prepared range engine buffers →
    pass buffers report engine = .ok ((after, reached, none), stopped) →
      ∃ row, PassRow engine.config.slot range mode row ∧
      Recorded engine row stopped

theorem addressPass_records (range : AddressRange) :
    Records .addressPattern range
      (addressPass range : Pass SimulatedBus γ) := by
  intro engine stopped buffers report after reached prepared ran
  cases addressPass_eq_ok.mp ran with
  | compared reading =>
      exact ⟨_, .address,
        (moveRange_recorded prepared.acceptsReadback reading).notedAll _⟩

theorem randomPass_records [RandomSource γ] (range : AddressRange) :
    Records .randomPattern range (randomPass range : Pass SimulatedBus γ) := by
  intro engine stopped buffers report after reached prepared ran
  have drawn := prepared.drawn
  cases randomPass_eq_ok.mp ran with
  | compared writing reading =>
      obtain ⟨writes, wrote, written, _⟩ :=
        accessRandom_tiles drawn.acceptsPattern writing
      obtain ⟨reads, readBack, read, _⟩ :=
        accessRandom_tiles (wrote.width ▸ drawn.acceptsReadback) reading
      rw [wrote.slot] at read
      exact ⟨_, .random written read, (wrote.drawn.append readBack).notedAll _⟩

/-! ## Boundaries between passes -/

/-- Rows of requests that end at the first boundary with enough requests. -/
structure Paced (requestLimit : Nat) (engine : Engine SimulatedBus γ)
    (rows : List (List LoggedRequest)) (stopped : Engine SimulatedBus γ) :
    Prop where
  recorded : Recorded engine rows.flatten stopped
  enough : requestLimit ≤ stopped.stats.transfers
  fewer : ∀ n < rows.length,
    engine.stats.transfers + (rows.take n).flatten.length < requestLimit

/-- A pass that starts with too few requests moves the boundaries on by its
row. -/
theorem Paced.cons {requestLimit : Nat}
    {engine middle stopped : Engine SimulatedBus γ} {row : List LoggedRequest}
    {rows : List (List LoggedRequest)}
    (fewer : engine.stats.transfers < requestLimit)
    (recorded : Recorded engine row middle)
    (paced : Paced requestLimit middle rows stopped) :
    Paced requestLimit engine (row :: rows) stopped where
  recorded := recorded.append paced.recorded
  enough := paced.enough
  fewer n before := by
    cases n with
    | zero => exact fewer
    | succ n =>
        have later := paced.fewer n (Nat.lt_of_succ_lt_succ before)
        rw [recorded.transfers] at later
        rw [List.take_succ_cons, List.flatten_cons, List.length_append]
        omega

theorem PassTrace.paced {requestLimit : Nat} {mode : Mode}
    {range : AddressRange} {pass : Pass SimulatedBus γ}
    {engine stopped : Engine SimulatedBus γ} {buffers : Buffers}
    {report last : Report} {passes : List Buffers} {fault? : Option BusError}
    (records : Records mode range pass) (tallies : Tallies mode range pass)
    (trace : PassTrace requestLimit pass engine buffers report passes last
      fault? stopped)
    (prepared : Prepared range engine buffers) (completed : fault? = none)
    (cancelled : last.stop ≠ .mismatch) :
    ∃ rows, Paced requestLimit engine rows stopped ∧
      (∀ row ∈ rows, PassRow engine.config.slot range mode row) ∧
      rows.length = passes.length := by
  induction trace with
  | cancelled enough =>
      exact ⟨[], ⟨.nothing _, enough, fun _ impossible => nomatch impossible⟩,
        List.forall_mem_nil _, rfl⟩
  | broken => cases completed
  | differs _ _ found => exact absurd found cancelled
  | next fewer ran equal rest induction =>
      obtain ⟨row, passRow, recorded⟩ := records prepared ran
      -- A pass that found nothing leaves an engine and buffers that allow for
      -- the next one.
      have ready := (tallies prepared ran).2 rfl
      obtain ⟨rows, paced, passRows, length⟩ :=
        induction ready completed cancelled
      rw [recorded.slot] at passRows
      exact ⟨row :: rows, paced.cons fewer recorded,
        List.forall_mem_cons.mpr ⟨passRow, passRows⟩, congrArg Nat.succ length⟩

/-- Passes that are paced behind the opening make a run that is cancelled. -/
theorem Paced.cancelledAt {slot cancelAfter : Nat} {range : AddressRange}
    {mode : Mode} {engine middle stopped : Engine SimulatedBus γ}
    {rows : List (List LoggedRequest)}
    (opened : Recorded engine (opening slot range mode) middle)
    (paced : Paced (engine.stats.transfers + cancelAfter) middle rows stopped)
    (passRows : ∀ row ∈ rows, PassRow slot range mode row) :
    Recorded engine (opening slot range mode ++ rows.flatten) stopped ∧
      CancelledAt slot range mode cancelAfter rows
        (opening slot range mode ++ rows.flatten) := by
  have recorded := opened.append paced.recorded
  refine ⟨recorded, rfl, passRows, ?_, ?_⟩
  · have enough := paced.enough
    rw [recorded.transfers] at enough
    exact Nat.le_of_add_le_add_left enough
  · intro n before
    have fewer := paced.fewer n before
    rw [opened.transfers, Nat.add_assoc, ← List.length_append] at fewer
    exact Nat.lt_of_add_lt_add_left fewer

theorem RunTrace.cancelledAt [RandomSource γ] {range : AddressRange}
    {cancelAfter : Nat} {engine stopped : Engine SimulatedBus γ} {mode : Mode}
    {passes : List Buffers} {report : Report}
    (trace : RunTrace range cancelAfter engine mode passes report none stopped)
    (accepted : checkRange engine.width range = .ok ())
    (cancelled : report.stop ≠ .mismatch) :
    ∃ rows record, Recorded engine record stopped ∧
      CancelledAt engine.config.slot range mode cancelAfter rows record ∧
      rows.length = passes.length := by
  cases trace with
  | address writing trace =>
      have writable :=
        engine_checkRange accepted (size_addressPattern (range.lastWord + 1))
      obtain ⟨_, effect⟩ := moveRange_transferEffect writable writing
      have opened := moveRange_recorded writable writing
      obtain ⟨rows, paced, passRows, length⟩ :=
        trace.paced (addressPass_records range)
          (addressPass_tallies range) (.written accepted effect) rfl cancelled
      rw [opened.slot] at passRows
      obtain ⟨recorded, ended⟩ := paced.cancelledAt opened passRows
      exact ⟨rows, _, recorded, ended, length⟩
  | random trace =>
      obtain ⟨rows, paced, passRows, length⟩ :=
        trace.paced (randomPass_records range)
          (randomPass_tallies range) (.blank accepted) rfl cancelled
      obtain ⟨recorded, ended⟩ := paced.cancelledAt (.nothing engine) passRows
      exact ⟨rows, _, recorded, ended, length⟩

/-! ## The counters of a cancelled run -/

theorem PassRow.acknowledged {slot : Nat} {range : AddressRange} {mode : Mode}
    {row : List LoggedRequest} (passRow : PassRow slot range mode row) :
    ∀ request ∈ row, (request.cycle = .dataOut ∨ request.cycle = .dataIn) ∧
      request.outcome = .acknowledged := by
  intro request member
  cases passRow with
  | address =>
      obtain rfl := List.mem_singleton.mp member
      exact ⟨.inr rfl, rfl⟩
  | random written read =>
      rcases List.mem_append.mp member with inWrites | inReads
      · obtain ⟨cycle, outcome⟩ := written.allAcknowledged request inWrites
        exact ⟨.inl cycle, outcome⟩
      · obtain ⟨cycle, outcome⟩ := read.allAcknowledged request inReads
        exact ⟨.inr cycle, outcome⟩

/-- Writes and reads together are all blocks, if there are no others. -/
theorem blocksOf_add_blocksOf {requests : List LoggedRequest}
    (all : ∀ request ∈ requests,
      (request.cycle = .dataOut ∨ request.cycle = .dataIn) ∧
      request.outcome = .acknowledged) :
    blocksOf .dataOut requests + blocksOf .dataIn requests =
      requests.length := by
  induction requests with
  | nil => rfl
  | cons request requests induction =>
      obtain ⟨⟨direction, success⟩, others⟩ := List.forall_mem_cons.mp all
      have alone : AllAcknowledged request.cycle [request] := by
        intro only member
        obtain rfl := List.mem_singleton.mp member
        exact ⟨rfl, success⟩
      have one : blocksOf .dataOut [request] + blocksOf .dataIn
          [request] = 1 := by
        rw [alone.blocksOf, alone.blocksOf]
        rcases direction with out | into
        · rw [out]
          rfl
        · rw [into]
          rfl
      have counted := induction others
      rw [← List.singleton_append, blocksOf_append, blocksOf_append,
        List.length_append, List.length_singleton]
      omega

theorem length_flatten_of_single {rows : List (List LoggedRequest)}
    (single : ∀ row ∈ rows, row.length = 1) :
    rows.flatten.length = rows.length := by
  induction rows with
  | nil => rfl
  | cons row rows induction =>
      obtain ⟨one, others⟩ := List.forall_mem_cons.mp single
      rw [List.flatten_cons, List.length_append, one, induction others,
        List.length_cons]
      omega

namespace CancelledAt

variable {slot cancelAfter : Nat} {range : AddressRange} {mode : Mode}
  {rows : List (List LoggedRequest)} {record : List LoggedRequest}

theorem blocks
    (cancelled : CancelledAt slot range mode cancelAfter rows record) :
    blocksOf .dataOut record + blocksOf .dataIn record = record.length := by
  refine blocksOf_add_blocksOf fun request member => ?_
  rw [cancelled.parts] at member
  rcases List.mem_append.mp member with opened | inRows
  · cases mode with
    | addressPattern =>
        obtain rfl := List.mem_singleton.mp opened
        exact ⟨.inl rfl, rfl⟩
    | randomPattern => cases opened
  · obtain ⟨row, inPasses, inRow⟩ := List.mem_flatten.mp inRows
    exact (cancelled.passes row inPasses).acknowledged request inRow

/-- Each pass of the address exerciser is one request. -/
theorem length_take
    (cancelled : CancelledAt slot range .addressPattern cancelAfter rows record)
    {n : Nat} (within : n ≤ rows.length) :
    (rows.take n).flatten.length = n := by
  have single : ∀ row ∈ rows.take n, row.length = 1 := by
    intro row taken
    cases cancelled.passes row (List.mem_of_mem_take taken) with
    | address => rfl
  rw [length_flatten_of_single single, List.length_take_of_le within]

/-- The pattern is written with one request, and read with one in every pass. -/
theorem address
    (cancelled : CancelledAt slot range .addressPattern cancelAfter
      rows record) :
    blocksOf .dataOut record = 1 ∧ blocksOf .dataIn record = rows.length ∧
      rows.length = max cancelAfter 1 - 1 := by
  have reads : AllAcknowledged .dataIn rows.flatten := by
    intro request member
    obtain ⟨row, inPasses, inRow⟩ := List.mem_flatten.mp member
    cases cancelled.passes row inPasses with
    | address =>
        obtain rfl := List.mem_singleton.mp inRow
        exact ⟨rfl, rfl⟩
  have written : blocksOf .dataOut record = 1 := by
    rw [cancelled.parts, blocksOf_append, reads.blocksOf]
    rfl
  have opened : (opening slot range .addressPattern).length = 1 := rfl
  have passes := cancelled.length_take (Nat.le_refl _)
  rw [List.take_length] at passes
  have total : record.length = 1 + rows.length := by
    rw [cancelled.parts, List.length_append, opened, passes]
  have blocks := cancelled.blocks
  have enough := cancelled.enough
  refine ⟨written, by omega, ?_⟩
  -- The boundary before the last pass had too few requests; without a pass
  -- there is none.
  cases length : rows.length with
  | zero => omega
  | succ n =>
      have before : n < rows.length := by omega
      have fewer := cancelled.fewer n before
      rw [List.length_append, opened,
        cancelled.length_take (Nat.le_of_lt before)] at fewer
      omega

/-- Without a request there is no pass, and with one to issue there is. -/
theorem random
    (cancelled : CancelledAt slot range .randomPattern cancelAfter
      rows record) :
    (cancelAfter = 0 → record = [] ∧ rows = []) ∧
    (0 < cancelAfter → rows ≠ []) := by
  constructor
  · rintro rfl
    have none : rows = [] := by
      cases rows with
      | nil => rfl
      | cons row rows =>
          exact absurd (cancelled.fewer 0 (Nat.succ_pos _)) (Nat.not_lt_zero _)
    exact ⟨cancelled.parts.trans (by rw [none]; rfl), none⟩
  · rintro positive rfl
    have enough := cancelled.enough
    rw [cancelled.parts] at enough
    exact absurd enough (Nat.not_le.mpr positive)

end CancelledAt

/-! ## The report of a cancelled run -/

/-- A run that did not fail has counted every block in its record. -/
theorem RunTrace.counted [RandomSource γ] {range : AddressRange}
    {cancelAfter : Nat} {engine stopped : Engine SimulatedBus γ} {mode : Mode}
    {passes : List Buffers} {report : Report} {record : List LoggedRequest}
    (trace : RunTrace range cancelAfter engine mode passes report none stopped)
    (accepted : checkRange engine.width range = .ok ())
    (recorded : Recorded engine record stopped) :
    report.blocksWritten = blocksOf .dataOut record ∧
      report.blocksRead = blocksOf .dataIn record := by
  obtain ⟨counted, cut, address?, tally, ending, leftOut⟩ :=
    trace.tallied accepted
  cases address? with
  | some address => cases ending
  | none =>
      cases leftOut
      have same : counted = record := by
        have requests := tally.requests.symm.trans recorded.requests
        rw [List.append_nil] at requests
        exact List.append_cancel_left requests
      rw [← same]
      exact ⟨tally.written.trans (Nat.zero_add _),
        tally.read.trans (Nat.zero_add _)⟩

/-- On a board without faults a completed row of passes has found nothing. -/
theorem FaultPicture.unjudged {board : MemoryBoard} {range : AddressRange}
    {started : Nat} {passes : List Buffers} {report : Report}
    (picture : FaultPicture board range started passes report)
    (faultless : ∀ pattern, board.faultyWords range pattern = []) :
    Unjudged report := by
  cases picture.verdict with
  | clean _ unjudged => exact unjudged
  | faulty _ differ => exact absurd (faultless _) differ

variable [RandomSource γ] {engine : Engine SimulatedBus γ}
  {range : AddressRange}

/-- A run over faultless memory raises no alarm and ends as soon as it may.  It
returns, unless the clock overflows, with a report that found nothing and was
cancelled; its requests end at the first boundary between two passes with
`cancelAfter` requests behind it, and all of them are in the counters. -/
theorem run_cancelled (mode : Mode) (cancelAfter : Nat)
    (accepted : checkRange engine.width range = .ok ())
    (healthy : engine.transport.board.Healthy)
    (covered : range.lastWord < engine.transport.board.cells.size) :
    (∃ overflow, run range mode cancelAfter engine = .error overflow) ∨
    ∃ report stopped rows record,
      run range mode cancelAfter engine = .ok (.ok report, stopped) ∧
      report.stop = .cancelled ∧ report.mismatchCount = 0 ∧
      report.mismatches = [] ∧
      stopped.transport.requests.toList =
        engine.transport.requests.toList ++ record ∧
      CancelledAt engine.config.slot range mode cancelAfter rows record ∧
      report.passes = rows.length ∧
      report.blocksWritten + report.blocksRead = record.length ∧
      (mode = .addressPattern → report.blocksWritten = 1 ∧
        report.blocksRead = report.passes ∧
        report.passes = max cancelAfter 1 - 1) ∧
      (mode = .randomPattern →
        (cancelAfter = 0 → record = [] ∧ report.passes = 0) ∧
        (0 < cancelAfter → 0 < report.passes)) := by
  cases ran : run range mode cancelAfter engine with
  | error overflow => exact .inl ⟨overflow, rfl⟩
  | ok reached =>
      right
      obtain ⟨result, stopped⟩ := reached
      have installed :=
        healthy.installed (checkRange_eq_ok.mp accepted).1 covered
      obtain ⟨report, fault?, last, ⟨passes, trace⟩, rfl, rfl⟩ :=
        (run_eq_ok accepted).mp ran
      obtain ⟨rfl, picture, _⟩ := trace.picture accepted installed
      have unjudged := picture.unjudged (healthy.faultyWords_eq_nil installed)
      have clean : report.stop ≠ .mismatch := by
        rw [unjudged.stop]
        decide
      obtain ⟨rows, record, recorded, cancelled, length⟩ :=
        trace.cancelledAt accepted clean
      obtain ⟨written, read⟩ := trace.counted accepted recorded
      have passesCounted : report.passes = rows.length := by
        rw [picture.counted, Nat.zero_add, length]
      refine ⟨report, _, rows, record, rfl, unjudged.stop,
        unjudged.mismatchCount, unjudged.mismatches,
        (recorded.notedAll _).requests, cancelled, passesCounted,
        ?_, ?_, ?_⟩
      · rw [written, read, cancelled.blocks]
      · rintro rfl
        obtain ⟨one, reads, count⟩ := cancelled.address
        rw [written, read, passesCounted]
        exact ⟨one, reads, count⟩
      · rintro rfl
        obtain ⟨nothing, something⟩ := cancelled.random
        rw [passesCounted, List.length_eq_zero_iff, List.length_pos_iff]
        exact ⟨nothing, something⟩

/-- Two words without faults, under a wall clock. -/
def faultlessEngine : Engine SimulatedBus Tape :=
  { twoWordEngine with
    transport := { twoWordEngine.transport with clockMode := .wall } }

/-- A token that is raised with the fifth request ends the address exerciser
after four passes, and the random exerciser at the end of a pass. -/
theorem run_cancelled_by_fifth_request :
    checkRange .bits16 ⟨0, 2⟩ = .ok () ∧
      faultlessEngine.transport.board.Healthy ∧
      AddressRange.lastWord ⟨0, 2⟩ <
        faultlessEngine.transport.board.cells.size ∧
      (∃ report stopped,
        run ⟨0, 2⟩ .addressPattern 5 faultlessEngine =
          .ok (.ok report, stopped) ∧
        report.stop = .cancelled ∧ report.mismatchCount = 0 ∧
        report.blocksWritten = 1 ∧ report.blocksRead = 4 ∧ report.passes = 4) ∧
      ∃ report stopped,
        run ⟨0, 2⟩ .randomPattern 5 faultlessEngine =
          .ok (.ok report, stopped) ∧
        report.stop = .cancelled ∧ report.mismatchCount = 0 ∧
        0 < report.passes ∧
        report.blocksWritten + report.blocksRead =
          stopped.transport.requests.size := by
  have accepted : checkRange faultlessEngine.width ⟨0, 2⟩ = .ok () :=
    checkRange_eq_ok.mpr (by decide)
  have healthy : faultlessEngine.transport.board.Healthy :=
    ⟨rfl, fun _ => Std.HashMap.getD_empty⟩
  have covered : AddressRange.lastWord ⟨0, 2⟩ <
      faultlessEngine.transport.board.cells.size := by decide
  have clocked : faultlessEngine.WallClocked := by decide
  refine ⟨accepted, healthy, covered, ?_, ?_⟩
  · obtain ⟨result, last, ran⟩ := exists_run clocked accepted .addressPattern 5
    rcases run_cancelled .addressPattern 5 accepted healthy
      covered with ⟨_, overflowed⟩ |
      ⟨report, stopped, _, _, cancelled, stop, count, _, _, _, _, _, address, _⟩
    · cases overflowed.symm.trans ran
    · obtain ⟨written, read, passes⟩ := address rfl
      exact ⟨report, stopped, cancelled, stop, count, written,
        read.trans passes, passes⟩
  · obtain ⟨result, last, ran⟩ := exists_run clocked accepted .randomPattern 5
    rcases run_cancelled .randomPattern 5 accepted healthy covered with
      ⟨_, overflowed⟩ |
      ⟨report, stopped, _, record, cancelled, stop, count, _, requests, _, _,
        blocks, _, random⟩
    · cases overflowed.symm.trans ran
    · have all : stopped.transport.requests.toList = record := requests
      refine ⟨report, stopped, cancelled, stop, count,
        (random rfl).2 (by decide), ?_⟩
      rw [blocks, ← all, Array.length_toList]

end Exerciser

end Backplane
