import Backplane.Proofs.Dma.Ledger
import Backplane.Proofs.Exerciser.Readback

/-!
# The block counters of a report

The counters of a report are compared with the record of the bus.  They count
the acknowledged blocks of every transfer that was completed.  A transfer that
times out is left out of them as a whole, also the blocks before the silent
one, which the bus has acknowledged.
-/

namespace Backplane

namespace Exerciser

open Dma Engine

/-- The acknowledged blocks of a cycle. -/
def blocksOf (cycle : Cycle) (requests : List LoggedRequest) : Nat :=
  requests.countP fun request => request.cycle = cycle ∧
    request.outcome = .acknowledged

theorem blocksOf_append (cycle : Cycle) (first rest : List LoggedRequest) :
    blocksOf cycle (first ++ rest) =
      blocksOf cycle first + blocksOf cycle rest :=
  List.countP_append

def AllAcknowledged (cycle : Cycle) (requests : List LoggedRequest) : Prop :=
  ∀ request ∈ requests, request.cycle = cycle ∧ request.outcome = .acknowledged

theorem AllAcknowledged.blocksOf {cycle : Cycle} {requests : List LoggedRequest}
    (all : AllAcknowledged cycle requests) (other : Cycle) :
    Exerciser.blocksOf other requests =
      if other = cycle then requests.length else 0 := by
  split
  · rename_i same
    subst same
    exact List.countP_eq_length.mpr fun request member =>
      decide_eq_true (all request member)
  · rename_i different
    refine List.countP_eq_zero.mpr fun request member counted => different ?_
    exact (of_decide_eq_true counted).1.symm.trans (all request member).1

/-- Blocks without a gap from an address on, the last of which timed out.  All
before it are acknowledged. -/
inductive BrokenRow (cycle : Cycle) (silent : Nat) :
    Nat → List LoggedRequest → Prop where
  | last {block : LoggedRequest} (sameCycle : block.cycle = cycle)
      (inhabited : 0 < block.words)
      (outcome : block.outcome = .timedOut silent) :
      BrokenRow cycle silent block.start [block]
  | next {block : LoggedRequest} {rest : List LoggedRequest}
      (sameCycle : block.cycle = cycle) (inhabited : 0 < block.words)
      (outcome : block.outcome = .acknowledged)
      (behind : BrokenRow cycle silent (block.start + 2 * block.words) rest) :
      BrokenRow cycle silent block.start (block :: rest)

namespace BrokenRow

variable {cycle : Cycle} {silent start : Nat} {blocks : List LoggedRequest}

theorem blocksOf_eq (row : BrokenRow cycle silent start blocks)
    (other : Cycle) :
    blocksOf other blocks + 1 = if other = cycle then blocks.length else 1 := by
  induction row with
  | last sameCycle inhabited outcome => simp [blocksOf, outcome]
  | @next block rest sameCycle inhabited outcome behind induction =>
      have acknowledged : AllAcknowledged cycle [block] :=
        List.forall_mem_singleton.mpr ⟨sameCycle, outcome⟩
      have counted := blocksOf_append other [block] rest
      rw [List.singleton_append, acknowledged.blocksOf] at counted
      rw [counted, Nat.add_assoc, induction]
      split
      · exact Nat.add_comm 1 rest.length
      · rfl

/-- A row starts with its first block, and every other block starts behind
that. -/
theorem exists_cons (row : BrokenRow cycle silent start blocks) :
    ∃ block rest, blocks = block :: rest ∧ block.start = start ∧
      ∀ later ∈ rest, start < later.start := by
  induction row with
  | last => exact ⟨_, [], rfl, rfl, List.forall_mem_nil _⟩
  | next sameCycle inhabited outcome behind induction =>
      obtain ⟨second, others, rfl, starts, later⟩ := induction
      refine ⟨_, _, rfl, rfl, List.forall_mem_cons.mpr
        ⟨by omega, fun block member => ?_⟩⟩
      have further := later block member
      omega

theorem eq_nil_of_append {otherCycle : Cycle} {otherSilent : Nat}
    {first inner : List LoggedRequest}
    (row : BrokenRow cycle silent start (first ++ inner))
    (innerRow : BrokenRow otherCycle otherSilent start inner) : first = [] := by
  cases first with
  | nil => rfl
  | cons head first =>
      obtain ⟨block, _, rfl, starts, _⟩ := innerRow.exists_cons
      obtain ⟨_, _, whole, _, later⟩ := row.exists_cons
      cases whole
      have behind := later block (List.mem_append_right _ List.mem_cons_self)
      omega

end BrokenRow

/-- The blocks of the access to a range that timed out at an address: all of
them, from the start of the range on. -/
inductive LeftOut (mode : Mode) (range : AddressRange) :
    Option Nat → List LoggedRequest → Prop where
  | nothing : LeftOut mode range none []
  | timedOut {cycle : Cycle} {blocks : List LoggedRequest} {address : Nat}
      (direction : cycle = .dataOut ∨ cycle = .dataIn)
      (row : BrokenRow cycle address range.first blocks)
      (alone : mode = .addressPattern → blocks.length = 1) :
      LeftOut mode range (some address) blocks

end Exerciser

namespace Dma

open Exerciser

theorem Row.allAcknowledged {cycle : Cycle} {start : Nat}
    {completions : List Completion} (row : Row cycle start completions (.ok ()))
    (slot : Nat) :
    AllAcknowledged cycle (completions.map (Completion.logged slot)) := by
  generalize completed : Except.ok () = result at row
  induction row with
  | nil => exact List.forall_mem_nil _
  | timedOut => cases completed
  | next sameCycle inhabited success behind induction =>
      exact List.forall_mem_cons.mpr ⟨⟨sameCycle, success⟩, induction completed⟩

theorem Row.broken {cycle : Cycle} {start : Nat} {completions : List Completion}
    {fault : BusError} (row : Row cycle start completions (.error fault))
    (slot : Nat) :
    ∃ address, fault = .timeout address ∧
      BrokenRow cycle address start
        (completions.map (Completion.logged slot)) := by
  generalize failed : Except.error fault = result at row
  induction row with
  | nil => cases failed
  | @timedOut last address sameCycle inhabited silent =>
      cases failed
      exact ⟨address, rfl, @BrokenRow.last cycle address
        (last.logged slot) sameCycle inhabited silent⟩
  | @next block rest result sameCycle inhabited success behind induction =>
      obtain ⟨address, timeout, row⟩ := induction failed
      exact ⟨address, timeout, @BrokenRow.next cycle address
        (block.logged slot) _ sameCycle inhabited success row⟩

theorem Row.leftOut {cycle : Cycle} {range : AddressRange}
    {completions : List Completion} {fault : BusError}
    (row : Row cycle range.first completions (.error fault)) (slot : Nat)
    (mode : Mode) (direction : cycle = .dataOut ∨ cycle = .dataIn)
    (alone : mode = .addressPattern → completions.length = 1) :
    ∃ address, fault = .timeout address ∧
      LeftOut mode range (some address)
        (completions.map (Completion.logged slot)) := by
  obtain ⟨address, timeout, broken⟩ := row.broken slot
  exact ⟨address, timeout, .timedOut direction broken fun addresses =>
    (List.length_map _).trans (alone addresses)⟩

end Dma

namespace Exerciser

open Dma Engine

variable {γ : Type}

/-- The blocks recorded between two reports: those that went into the counters,
and those that were left out. -/
structure Tally (engine : Engine SimulatedBus γ)
    (counted cut : List LoggedRequest) (stopped : Engine SimulatedBus γ)
    (report reached : Report) : Prop where
  requests : stopped.transport.requests.toList =
    engine.transport.requests.toList ++ (counted ++ cut)
  written : reached.blocksWritten =
    report.blocksWritten + blocksOf .dataOut counted
  read : reached.blocksRead = report.blocksRead + blocksOf .dataIn counted
  stop : reached.stop = report.stop ∨ reached.stop = .mismatch

namespace Tally

variable {engine middle stopped : Engine SimulatedBus γ}
  {report reached last : Report} {first rest cut : List LoggedRequest}
  {completions : List Completion}

theorem append (head : Tally engine first [] middle report reached)
    (tail : Tally middle rest cut stopped reached last) :
    Tally engine (first ++ rest) cut stopped report last where
  requests := by
    rw [tail.requests, head.requests, List.append_nil, List.append_assoc,
      List.append_assoc]
  written := by rw [tail.written, head.written, blocksOf_append, Nat.add_assoc]
  read := by rw [tail.read, head.read, blocksOf_append, Nat.add_assoc]
  stop := by
    rcases tail.stop with same | differs
    · rw [same]
      exact head.stop
    · exact .inr differs

/-- A comparison leaves the counters and the record alone. -/
theorem judged (tally : Tally engine first [] stopped report reached)
    (pattern readback : Array UInt16) (range : AddressRange)
    (events : List Event) :
    Tally engine first [] (stopped.notedAll events) report
      (Exerciser.judged pattern readback range reached) := by
  obtain ⟨journal, noted⟩ := stopped.notedAll_simulated events
  rw [noted]
  unfold Exerciser.judged
  split
  · exact ⟨tally.requests, tally.written, tally.read, tally.stop⟩
  · exact ⟨tally.requests, tally.written, tally.read, .inr rfl⟩

theorem of_row {cycle : Cycle} {start : Nat}
    (ledger : Ledger engine completions stopped)
    (row : Row cycle start completions (.ok ()))
    (written : reached.blocksWritten =
      report.blocksWritten + if .dataOut = cycle then completions.length else 0)
    (read : reached.blocksRead =
      report.blocksRead + if .dataIn = cycle then completions.length else 0)
    (stop : reached.stop = report.stop) :
    Tally engine (completions.map (Completion.logged engine.config.slot))
      [] stopped report reached := by
  have all := row.allAcknowledged engine.config.slot
  refine ⟨by rw [ledger.requests, List.append_nil], ?_, ?_, .inl stop⟩
  · rw [written, all.blocksOf, List.length_map]
  · rw [read, all.blocksOf, List.length_map]

theorem of_cut (ledger : Ledger engine completions stopped) (report : Report) :
    Tally engine [] (completions.map (Completion.logged engine.config.slot))
      stopped report report :=
  ⟨ledger.requests, rfl, rfl, .inl rfl⟩

theorem nothing (engine : Engine SimulatedBus γ) (report : Report) :
    Tally engine [] [] engine report report :=
  ⟨(List.append_nil _).symm, rfl, rfl, .inl rfl⟩

end Tally

/-- A pass, or a row of passes, whose report tells of everything but the
transfer that timed out. -/
def Tallied (mode : Mode) (range : AddressRange)
    (engine stopped : Engine SimulatedBus γ) (report reached : Report)
    (fault? : Option BusError) : Prop :=
  ∃ counted cut address?, Tally engine counted cut stopped report reached ∧
    fault? = address?.map .timeout ∧ LeftOut mode range address? cut

theorem Tally.tallied {mode : Mode} {range : AddressRange}
    {engine stopped : Engine SimulatedBus γ} {report reached : Report}
    {counted : List LoggedRequest}
    (tally : Tally engine counted [] stopped report reached) :
    Tallied mode range engine stopped report reached none :=
  ⟨counted, [], none, tally, rfl, .nothing⟩

theorem Tallied.after {mode : Mode} {range : AddressRange}
    {engine middle stopped : Engine SimulatedBus γ}
    {report reached last : Report} {fault? : Option BusError}
    (tallied : Tallied mode range engine middle report reached none)
    (rest : Tallied mode range middle stopped reached last fault?) :
    Tallied mode range engine stopped report last fault? := by
  obtain ⟨first, cut, address?, head, completed, leftOut⟩ := tallied
  obtain ⟨second, lastCut, lastAddress?, tail, ending, lastOut⟩ := rest
  cases address? with
  | some address => cases completed
  | none =>
      cases leftOut
      exact ⟨first ++ second, lastCut, lastAddress?, head.append tail,
        ending, lastOut⟩

/-- Passes of a mode that keep to their reports. -/
def Tallies (mode : Mode) (range : AddressRange) (pass : Pass SimulatedBus γ) :
    Prop :=
  ∀ ⦃engine stopped buffers report after reached fault?⦄,
    Prepared range engine buffers →
    pass buffers report engine = .ok ((after, reached, fault?), stopped) →
      Tallied mode range engine stopped report reached fault? ∧
        (fault? = none → Prepared range stopped after)

theorem addressPass_tallies (range : AddressRange) :
    Tallies .addressPattern range
      (addressPass range : Pass SimulatedBus γ) := by
  intro engine stopped buffers report after reached fault? prepared ran
  have accepted := prepared.acceptsReadback
  cases addressPass_eq_ok.mp ran with
  | unread reading =>
      obtain ⟨completions, ledger, row, length⟩ :=
        moveRange_ledger accepted reading
      obtain ⟨address, rfl, leftOut⟩ :=
        row.leftOut engine.config.slot .addressPattern
          (.inr rfl) fun _ => length
      exact ⟨⟨[], _, some address, .of_cut ledger report, rfl, leftOut⟩,
        fun completed => nomatch completed⟩
  | compared reading =>
      obtain ⟨completions, ledger, row, length⟩ :=
        moveRange_ledger accepted reading
      obtain ⟨elapsed, effect⟩ := moveRange_transferEffect accepted reading
      have tally : Tally engine _ [] _ report { report with
          blocksRead := report.blocksRead + 1
          passes := report.passes + 1 } :=
            .of_row ledger row rfl (by rw [length]; rfl) rfl
      exact ⟨(tally.judged _ _ _ _).tallied,
        fun _ => prepared.noted effect.settings _ rfl effect.size_moved⟩

variable [RandomSource γ]

theorem randomPass_tallies (range : AddressRange) :
    Tallies .randomPattern range (randomPass range : Pass SimulatedBus γ) := by
  intro engine stopped buffers report after reached fault? prepared ran
  have drawn := prepared.drawn
  cases randomPass_eq_ok.mp ran with
  | unwritten writing =>
      obtain ⟨completions, ledger, row⟩ :=
        accessRandom_ledger_of_error drawn.acceptsPattern writing
      obtain ⟨address, rfl, leftOut⟩ :=
        row.leftOut engine.config.slot .randomPattern
          (.inl rfl) fun addresses => nomatch addresses
      exact ⟨⟨[], _, some address, .of_cut ledger.drawn report, rfl, leftOut⟩,
        fun completed => nomatch completed⟩
  | @unread pattern readback written fault middle stopped writing reading =>
      obtain ⟨writes, writeLedger, writeRow, rfl⟩ :=
        accessRandom_ledger_of_ok drawn.acceptsPattern writing
      obtain ⟨reads, readLedger, readRow⟩ := accessRandom_ledger_of_error
        (writeLedger.width ▸ drawn.acceptsReadback) reading
      obtain ⟨address, rfl, leftOut⟩ :=
        readRow.leftOut middle.config.slot .randomPattern
          (.inr rfl) fun addresses => nomatch addresses
      -- The pattern is in the report already, only the readback is left out.
      have wrote : Tally engine _ [] middle report
          { report with
            blocksWritten := report.blocksWritten + writes.length } :=
        .of_row writeLedger.drawn writeRow rfl rfl rfl
      exact ⟨⟨_, _, some address, wrote.append (.of_cut readLedger _),
        rfl, leftOut⟩, fun completed => nomatch completed⟩
  | @compared pattern readback written read middle last writing reading =>
      obtain ⟨writes, writeLedger, writeRow, rfl⟩ :=
        accessRandom_ledger_of_ok drawn.acceptsPattern writing
      obtain ⟨reads, readLedger, readRow, rfl⟩ := accessRandom_ledger_of_ok
        (writeLedger.width ▸ drawn.acceptsReadback) reading
      obtain ⟨_, _, _, writeEffect⟩ :=
        accessRandom_transferEffect drawn.acceptsPattern writing
      obtain ⟨_, _, _, readEffect⟩ := accessRandom_transferEffect
        (writeLedger.width ▸ drawn.acceptsReadback) reading
      have wrote : Tally engine _ [] middle report
          { report with
            blocksWritten := report.blocksWritten + writes.length } :=
        .of_row writeLedger.drawn writeRow rfl rfl rfl
      have read : Tally middle _ [] last
          { report with blocksWritten := report.blocksWritten + writes.length }
          { report with
            blocksWritten := report.blocksWritten + writes.length
            blocksRead := report.blocksRead + reads.length
            passes := report.passes + 1 } :=
              .of_row readLedger readRow rfl rfl rfl
      exact ⟨((wrote.append read).judged _ _ _ _).tallied, fun _ =>
        drawn.noted (writeEffect.settings.trans readEffect.settings) _
          writeEffect.size_moved readEffect.size_moved⟩

omit [RandomSource γ] in
theorem PassTrace.tallied {requestLimit : Nat} {mode : Mode}
    {range : AddressRange} {pass : Pass SimulatedBus γ}
    {engine stopped : Engine SimulatedBus γ} {buffers : Buffers}
    {report reached : Report} {passes : List Buffers} {fault? : Option BusError}
    (tallies : Tallies mode range pass)
    (trace : PassTrace requestLimit pass engine buffers report passes reached
      fault? stopped)
    (prepared : Prepared range engine buffers) :
    Tallied mode range engine stopped report reached fault? := by
  induction trace with
  | cancelled enough => exact (Tally.nothing _ _).tallied
  | broken fewer ran => exact (tallies prepared ran).1
  | differs fewer ran found => exact (tallies prepared ran).1
  | next fewer ran equal rest induction =>
      obtain ⟨tallied, next⟩ := tallies prepared ran
      exact tallied.after (induction (next rfl))

theorem RunTrace.tallied {range : AddressRange} {cancelAfter : Nat}
    {engine stopped : Engine SimulatedBus γ} {mode : Mode}
    {passes : List Buffers} {report : Report} {fault? : Option BusError}
    (trace : RunTrace range cancelAfter engine mode passes report
      fault? stopped)
    (accepted : checkRange engine.width range = .ok ()) :
    Tallied mode range engine stopped { mode := mode } report fault? := by
  have writable :=
    engine_checkRange accepted (size_addressPattern (range.lastWord + 1))
  cases trace with
  | unwritten writing =>
      obtain ⟨completions, ledger, row, length⟩ :=
        moveRange_ledger writable writing
      obtain ⟨address, rfl, leftOut⟩ :=
        row.leftOut engine.config.slot .addressPattern
          (.inl rfl) fun _ => length
      exact ⟨[], _, some address, .of_cut ledger _, rfl, leftOut⟩
  | address writing trace =>
      obtain ⟨completions, ledger, row, length⟩ :=
        moveRange_ledger writable writing
      obtain ⟨elapsed, effect⟩ := moveRange_transferEffect writable writing
      have wrote : Tally engine _ [] _ { mode := .addressPattern }
          { mode := .addressPattern, blocksWritten := 1 } :=
        .of_row ledger row (by rw [length]; rfl) rfl rfl
      exact wrote.tallied.after
        (trace.tallied (addressPass_tallies range) (.written accepted effect))
  | random trace =>
      exact trace.tallied (randomPass_tallies range) (.blank accepted)

/-- An accepted run that returns comes back with a report: it meets no fault but
a timeout. -/
theorem exists_report_of_run {range : AddressRange} {mode : Mode}
    {cancelAfter : Nat} {engine stopped : Engine SimulatedBus γ}
    {result : Except BusError Report}
    (accepted : checkRange engine.width range = .ok ())
    (ran : run range mode cancelAfter engine = .ok (result, stopped)) :
    ∃ report, result = .ok report := by
  obtain ⟨report, fault?, _, ⟨_, trace⟩, rfl, _⟩ := (run_eq_ok accepted).mp ran
  obtain ⟨_, _, address?, _, rfl, _⟩ := trace.tallied accepted
  cases address? with
  | none => exact ⟨_, rfl⟩
  | some address => exact ⟨_, rfl⟩

/-! ## The report of a run -/

/-- The address at which a run timed out, if that was the end of it. -/
def StopReason.timeout? : StopReason → Option Nat
  | .timeout address => some address
  | _ => none

theorem LeftOut.none_acknowledged_iff {mode : Mode} {range : AddressRange}
    {address? : Option Nat} {cut : List LoggedRequest}
    (leftOut : LeftOut mode range address? cut) :
    blocksOf .dataOut cut = 0 ∧ blocksOf .dataIn cut = 0 ↔ cut.length ≤ 1 := by
  cases leftOut with
  | nothing => simp [blocksOf]
  | timedOut direction row alone =>
      have written := row.blocksOf_eq .dataOut
      have read := row.blocksOf_eq .dataIn
      rcases direction with rfl | rfl
      · rw [if_pos rfl] at written
        rw [if_neg nofun] at read
        omega
      · rw [if_neg nofun] at written
        rw [if_pos rfl] at read
        omega

/-- A record has one part only that was left out. -/
theorem LeftOut.unique {mode : Mode} {range : AddressRange}
    {address? : Option Nat}
    {counted cut otherCounted otherCut : List LoggedRequest}
    (leftOut : LeftOut mode range address? cut)
    (otherLeftOut : LeftOut mode range address? otherCut)
    (same : counted ++ cut = otherCounted ++ otherCut) :
    counted = otherCounted ∧ cut = otherCut := by
  cases leftOut with
  | nothing =>
      cases otherLeftOut
      rw [List.append_nil, List.append_nil] at same
      exact ⟨same, rfl⟩
  | timedOut _ row _ =>
      cases otherLeftOut with
      | timedOut _ otherRow _ =>
          -- Both rows start with the range, so neither goes further back than
          -- the other.
          obtain ⟨between, rfl, rfl⟩ | ⟨between, rfl, rfl⟩ :=
            List.append_eq_append_iff.mp same
          · cases row.eq_nil_of_append otherRow
            exact ⟨(List.append_nil _).symm, rfl⟩
          · cases otherRow.eq_nil_of_append row
            exact ⟨List.append_nil _, rfl⟩

/-- The counters of a report tell of every acknowledged block of the run, except
for those of an access that timed out, of which there is only one in the record:
they are complete unless that access had more than one block. -/
theorem run_block_counters {range : AddressRange} {mode : Mode}
    {cancelAfter : Nat} {engine stopped : Engine SimulatedBus γ}
    {report : Report}
    (ran : run range mode cancelAfter engine = .ok (.ok report, stopped)) :
    ∃ counted cut,
      stopped.transport.requests.toList =
        engine.transport.requests.toList ++ (counted ++ cut) ∧
      report.blocksWritten = blocksOf .dataOut counted ∧
      report.blocksRead = blocksOf .dataIn counted ∧
      LeftOut mode range report.stop.timeout? cut ∧
      (∀ otherCounted otherCut, counted ++ cut = otherCounted ++ otherCut →
        LeftOut mode range report.stop.timeout? otherCut →
          counted = otherCounted ∧ cut = otherCut) ∧
      (report.blocksWritten = blocksOf .dataOut (counted ++ cut) ∧
          report.blocksRead = blocksOf .dataIn (counted ++ cut) ↔
        cut.length ≤ 1) := by
  have accepted := checkRange_of_run ran
  obtain ⟨reached, fault?, last, ⟨passes, trace⟩, concluding, rfl⟩ :=
    (run_eq_ok accepted).mp ran
  obtain ⟨counted, cut, address?, tally, rfl, leftOut⟩ := trace.tallied accepted
  obtain ⟨journal, noted⟩ := last.notedAll_simulated
    (endEvents engine.width reached (address?.map .timeout))
  obtain ⟨written, read, stop⟩ : report.blocksWritten = reached.blocksWritten ∧
      report.blocksRead = reached.blocksRead ∧
      report.stop.timeout? = address? := by
    cases address? with
    | none =>
        cases concluding
        refine ⟨rfl, rfl, ?_⟩
        rcases tally.stop with same | differs
        · rw [same]
          rfl
        · rw [differs]
          rfl
    | some address =>
        cases concluding
        exact ⟨rfl, rfl, rfl⟩
  rw [written, read, stop, noted, tally.written, tally.read]
  refine ⟨counted, cut, tally.requests, Nat.zero_add _, Nat.zero_add _, leftOut,
    fun _ _ same otherLeftOut => leftOut.unique otherLeftOut same, ?_⟩
  rw [blocksOf_append, blocksOf_append, ← leftOut.none_acknowledged_iff]
  simp only [Nat.zero_add]
  omega

/-- An engine on a bus with two words that draws blocks of one word. -/
def twoWordEngine : Engine SimulatedBus Tape where
  transport := { board := { MemoryBoard.empty with cells := #[0, 0] } }
  width := .bits16
  config := { bandwidth := 100 }
  generator := .repeating #[0]

/-- Two acknowledged blocks and a silent one. -/
def threeBlocks : List LoggedRequest :=
  [⟨31, .dataOut, 0, 1, .acknowledged⟩, ⟨31, .dataOut, 2, 1, .acknowledged⟩,
    ⟨31, .dataOut, 4, 1, .timedOut 4⟩]

theorem leftOut_threeBlocks : LeftOut .randomPattern ⟨0, 4⟩
    (some 4) threeBlocks :=
  .timedOut (.inl rfl)
    (@BrokenRow.next _ _ ⟨31, .dataOut, 0, 1, .acknowledged⟩ _ rfl
      Nat.one_pos rfl
      (@BrokenRow.next _ _ ⟨31, .dataOut, 2, 1, .acknowledged⟩ _ rfl
        Nat.one_pos rfl
        (@BrokenRow.last _ _ ⟨31, .dataOut, 4, 1, .timedOut 4⟩ rfl
          Nat.one_pos rfl)))
    nofun

/-- Two blocks are acknowledged before a pass over three words times out. -/
theorem run_past_two_words :
    ∃ report stopped,
      run ⟨0, 4⟩ .randomPattern 1 twoWordEngine = .ok (.ok report, stopped) ∧
      report.blocksWritten = 0 ∧ report.stop.timeout? = some 4 ∧
      stopped.transport.requests.toList = threeBlocks := by
  have observed : (run ⟨0, 4⟩ .randomPattern 1 twoWordEngine).toOption.map
      (fun reached =>
        (reached.1.toOption.map fun report =>
          (report.blocksWritten, report.stop.timeout?),
          reached.2.transport.requests.toList)) =
        some (some (0, some 4), threeBlocks) := by decide +kernel
  obtain ⟨⟨result, stopped⟩, ran, same⟩ := exists_of_observed observed
  obtain ⟨reported, blocks⟩ := Prod.mk.inj same
  obtain ⟨report, rfl, known⟩ := exists_of_observed reported
  obtain ⟨written, stop⟩ := Prod.mk.inj known
  exact ⟨report, stopped, ran, written, stop, blocks⟩

/-- None of the three blocks of that pass is counted. -/
theorem run_block_counters_past_two_words :
    ∃ report stopped,
      run ⟨0, 4⟩ .randomPattern 1 twoWordEngine = .ok (.ok report, stopped) ∧
      stopped.transport.requests.toList = threeBlocks ∧
      LeftOut .randomPattern ⟨0, 4⟩ (some 4) threeBlocks ∧
      report.blocksWritten = 0 ∧ blocksOf .dataOut threeBlocks = 2 := by
  obtain ⟨report, stopped, ran, _, stop, blocks⟩ := run_past_two_words
  obtain ⟨counted, cut, requests, written, _, _, whole, _⟩ :=
    run_block_counters ran
  rw [stop] at whole
  obtain ⟨rfl, rfl⟩ :=
    whole [] threeBlocks (requests.symm.trans blocks) leftOut_threeBlocks
  exact ⟨report, stopped, ran, blocks, leftOut_threeBlocks, written, by decide⟩

/-- The report of that run tells of no block. -/
theorem run_leaves_out_acknowledged_blocks :
    ∃ report stopped,
      run ⟨0, 4⟩ .randomPattern 1 twoWordEngine = .ok (.ok report, stopped) ∧
      stopped.transport.requests.toList =
        twoWordEngine.transport.requests.toList ++
          stopped.transport.requests.toList ∧
      report.blocksWritten ≠ blocksOf .dataOut
        stopped.transport.requests.toList := by
  obtain ⟨report, stopped, ran, none, _, blocks⟩ := run_past_two_words
  refine ⟨report, stopped, ran, rfl, ?_⟩
  rw [none, blocks]
  decide

end Exerciser

end Backplane
