import Backplane.Proofs.Dma.Conduct
import Backplane.Proofs.Exerciser.Readback
import Backplane.Transport.Scripted

/-!
# What a report says about its last pass

A report counts all words that differ in the last completed pass of a run, and
describes the first eight.  Passes before the last one leave no trace in it: the
run goes on only behind a pass without a difference.  None of this depends on
the transport.
-/

namespace Backplane

namespace Dma.Engine

variable {σ γ : Type} [Transport σ] {cycle : Cycle}
  {engine stopped : Engine σ γ} {buffer moved : Array UInt16}
  {range : AddressRange}

theorem size_moveRange {result : Except BusError Unit}
    (ran : moveRange cycle buffer range engine =
      .ok ((moved, result), stopped)) :
    moved.size = buffer.size := by
  cases checked : checkRange engine.width range buffer.size with
  | error fault =>
      rw [moveRange_of_refused checked] at ran
      cases ran
      rfl
  | ok _ =>
      obtain ⟨reply, step⟩ := (moveRange_eq_ok checked).mp ran
      exact step.size_moved

variable [RandomSource γ]

theorem BlockTrace.size_moved {address remaining : Nat}
    {issued : List IssuedBlock} {result : Except BusError Unit}
    (trace : BlockTrace cycle engine buffer address remaining issued moved
      result stopped) :
    moved.size = buffer.size := by
  induction trace with
  | done => rfl
  | failed remains step => exact step.size_moved
  | next remains step rest induction => exact induction.trans step.size_moved

theorem size_accessRandom {result : Except BusError Nat}
    (ran : accessRandom cycle buffer range engine =
      .ok ((moved, result), stopped)) :
    moved.size = buffer.size := by
  cases checked : checkRange engine.width range buffer.size with
  | error fault =>
      rw [accessRandom_of_refused checked] at ran
      cases ran
      rfl
  | ok _ =>
      obtain ⟨issued, outcome, trace, _⟩ := (accessRandom_eq_ok checked).mp ran
      exact trace.size_moved

end Dma.Engine

namespace Exerciser

open Dma

/-! ## One comparison -/

/-- All word addresses of a range with a property, in ascending order. -/
structure Lists (range : AddressRange) (has : Nat → Prop)
    (addresses : List Nat) : Prop where
  ascending : addresses.Pairwise (· < ·)
  mem_iff : ∀ address, address ∈ addresses ↔
    range.first ≤ address ∧ address ≤ range.last ∧ address % 2 = 0 ∧ has address

/-- A report about two buffers: it counts the addresses at which they differ,
and describes the first eight of them. -/
structure Exact (pattern readback : Array UInt16) (range : AddressRange)
    (addresses : List Nat) (report : Report) : Prop where
  differing : Lists range
    (fun address => pattern[address / 2]? ≠ readback[address / 2]?) addresses
  stop : report.stop = .mismatch ↔ 0 < report.mismatchCount
  count : report.mismatchCount = addresses.length
  listed : report.mismatches.map Mismatch.address =
    addresses.take (min 8 report.mismatchCount)
  described : ∀ mismatch ∈ report.mismatches,
    pattern[mismatch.address / 2]? = some mismatch.expected ∧
    readback[mismatch.address / 2]? = some mismatch.found ∧
    mismatch.expected ≠ mismatch.found ∧
    Lists range
      (fun address => address ≠ mismatch.address ∧
        pattern[address / 2]? = some mismatch.found)
      mismatch.aliases

/-- A report that no comparison has changed yet. -/
structure Unjudged (report : Report) : Prop where
  stop : report.stop = .cancelled
  mismatchCount : report.mismatchCount = 0
  mismatches : report.mismatches = []

/-- A report without findings. -/
structure Faultless (report : Report) : Prop where
  unfailed : report.stop ≠ .mismatch
  mismatchCount : report.mismatchCount = 0
  mismatches : report.mismatches = []

/-- A report behind the comparison of two buffers. -/
structure Tells (pattern readback : Array UInt16) (range : AddressRange)
    (report : Report) : Prop where
  stop : report.stop = .mismatch ↔ differences pattern readback range ≠ []
  mismatchCount : report.mismatchCount =
    (differences pattern readback range).length
  mismatches : report.mismatches = diagnosed pattern readback range

section Comparison

variable {range : AddressRange} {pattern readback : Array UInt16}
  {report : Report}

theorem judged_of_equal (equal : differences pattern readback range = [])
    (report : Report) : judged pattern readback range report = report := by
  rw [judged, if_pos equal]

theorem judged_of_differ (differ : differences pattern readback range ≠ [])
    (report : Report) :
    judged pattern readback range report =
      { report with
        stop := .mismatch
        mismatchCount := (differences pattern readback range).length
        mismatches := diagnosed pattern readback range } := by
  rw [judged, if_neg differ]

theorem diagnosed_of_equal (equal : differences pattern readback range = []) :
    diagnosed pattern readback range = [] := by
  rw [diagnosed, equal]
  rfl

theorem Unjudged.faultless (unjudged : Unjudged report) : Faultless report :=
  ⟨by rw [unjudged.stop]; decide, unjudged.mismatchCount, unjudged.mismatches⟩

/-- A report without findings tells that two buffers are equal. -/
theorem Faultless.tells (faultless : Faultless report)
    (equal : differences pattern readback range = []) :
    Tells pattern readback range report where
  stop := iff_of_false faultless.unfailed (not_not_intro equal)
  mismatchCount := by rw [faultless.mismatchCount, equal, List.length_nil]
  mismatches := by rw [faultless.mismatches, diagnosed_of_equal equal]

theorem Unjudged.tells_judged (unjudged : Unjudged report) :
    Tells pattern readback range (judged pattern readback range report) := by
  by_cases equal : differences pattern readback range = []
  · rw [judged_of_equal equal]
    exact unjudged.faultless.tells equal
  · rw [judged_of_differ equal]
    exact ⟨iff_of_true rfl equal, rfl, rfl⟩

theorem Tells.equal (tells : Tells pattern readback range report)
    (unfailed : report.stop ≠ .mismatch) :
    differences pattern readback range = [] :=
  Decidable.not_not.mp ((not_congr tells.stop).mp unfailed)

/-- Filtering the words of a range lists addresses of it. -/
theorem lists_filter (wellFormed : range.isWellFormed = true)
    {test : Nat → Bool} {has : Nat → Prop}
    (tests : ∀ word ∈ range.words, test word = true ↔ has (2 * word)) :
    Lists range has ((range.words.filter test).map (2 * ·)) where
  ascending := by
    have ascending : (range.words.filter test).Pairwise (· < ·) :=
      List.Pairwise.filter _ List.pairwise_lt_range'
    refine List.pairwise_map.mpr (ascending.imp ?_)
    intro first second before
    omega
  mem_iff address := by
    have first := AddressRange.first_eq_two_mul wellFormed
    have last := AddressRange.last_eq_two_mul wellFormed
    rw [List.mem_map]
    constructor
    · intro listed
      obtain ⟨word, member, rfl⟩ := listed
      obtain ⟨inside, tested⟩ := List.mem_filter.mp member
      have ends := (AddressRange.mem_words wellFormed).mp inside
      exact ⟨by omega, by omega, by omega, (tests word inside).mp tested⟩
    · intro held
      obtain ⟨starts, ends, even, has⟩ := held
      obtain ⟨word, rfl⟩ : ∃ word, address = 2 * word := ⟨address / 2, by omega⟩
      have inside : word ∈ range.words :=
        (AddressRange.mem_words wellFormed).mpr ⟨by omega, by omega⟩
      exact ⟨word, List.mem_filter.mpr
        ⟨inside, (tests word inside).mpr has⟩, rfl⟩

theorem getElem?_of_mem_words (wellFormed : range.isWellFormed = true)
    {buffer : Array UInt16} (covered : range.lastWord < buffer.size)
    {word : Nat} (inside : word ∈ range.words) :
    buffer[2 * word / 2]? = some (buffer.getD word 0) := by
  have ends := (AddressRange.mem_words wellFormed).mp inside
  have here : word < buffer.size := by omega
  rw [Nat.mul_div_cancel_left word (by decide), Array.getD_eq_getD_getElem?,
    Array.getElem?_eq_getElem here]
  rfl

/-- A report behind a comparison of buffers that cover the range is exact. -/
theorem Tells.exact (tells : Tells pattern readback range report)
    (wellFormed : range.isWellFormed = true)
    (written : range.lastWord < pattern.size)
    (read : range.lastWord < readback.size) :
    Exact pattern readback range
      ((differences pattern readback range).map (2 * ·))
      report where
  differing := lists_filter wellFormed fun word inside => by
    rw [getElem?_of_mem_words wellFormed written inside,
      getElem?_of_mem_words wellFormed read inside, bne_iff_ne, ne_eq, ne_eq,
      Option.some.injEq]
  stop := by rw [tells.stop, tells.mismatchCount, List.length_pos_iff]
  count := by rw [tells.mismatchCount, List.length_map]
  listed := by
    have limit : min 8 (differences pattern readback range).length =
        min diagnosedLimit (differences pattern readback range).length := rfl
    rw [tells.mismatches, tells.mismatchCount, diagnosed, List.map_map,
      ← List.map_take, limit, ← List.take_eq_take_min]
    rfl
  described := by
    intro mismatch member
    rw [tells.mismatches] at member
    obtain ⟨word, early, rfl⟩ := List.mem_map.mp member
    obtain ⟨inside, differs⟩ := List.mem_filter.mp (List.mem_of_mem_take early)
    refine ⟨getElem?_of_mem_words wellFormed written inside,
      getElem?_of_mem_words wellFormed read inside, bne_iff_ne.mp differs, ?_⟩
    refine lists_filter wellFormed fun other present => ?_
    rw [getElem?_of_mem_words wellFormed written present,
      Bool.and_eq_true, bne_iff_ne, beq_iff_eq, Option.some.injEq]
    exact and_congr_left' (not_congr (Nat.mul_right_inj (by decide)).symm)

end Comparison

/-! ## A row of passes -/

/-- Two buffers that reach up to the last word of a range. -/
structure Covering (range : AddressRange) (buffers : Buffers) : Prop where
  pattern : buffers.pattern.size = range.lastWord + 1
  readback : buffers.readback.size = range.lastWord + 1

/-- What a pass makes of a report: one that is not completed judges nothing. -/
inductive PassReport (range : AddressRange) (report : Report)
    (after : Buffers) : Report → Option BusError → Prop where
  | broken {blocksWritten : Nat} {fault : BusError} :
      PassReport range report after { report with
        blocksWritten := blocksWritten } (some fault)
  | compared {blocksWritten blocksRead : Nat} :
      PassReport range report after
        (judged after.pattern after.readback range
          { report with
            blocksWritten := blocksWritten
            blocksRead := blocksRead
            passes := report.passes + 1 })
        none

/-- A pass that reports so whenever it starts in a state of a kind, and ends in
a state of that kind. -/
def Reports {σ γ : Type} (range : AddressRange) (pass : Pass σ γ)
    (Between : Engine σ γ → Buffers → Prop) : Prop :=
  ∀ ⦃engine stopped buffers report after reached fault?⦄,
    Between engine buffers →
    pass buffers report engine = .ok ((after, reached, fault?), stopped) →
      Between stopped after ∧ PassReport range report after reached fault?

/-- The last completed pass decides a report, and no pass before it found a
difference. -/
inductive Decided (range : AddressRange) : List Buffers → Report → Prop where
  | unread {report : Report} (faultless : Faultless report) :
      Decided range [] report
  | last {before : List Buffers} {buffers : Buffers} {report : Report}
      (equal : ∀ earlier ∈ before,
        differences earlier.pattern earlier.readback range = [])
      (tells : Tells buffers.pattern buffers.readback range report) :
      Decided range (before ++ [buffers]) report

/-- Where a row of passes leaves a report that no comparison had changed. -/
structure Judgement (range : AddressRange) (started : Nat)
    (passes : List Buffers) (last : Report) (fault? : Option BusError) :
    Prop where
  counted : last.passes = started + passes.length
  decided : Decided range passes last
  unjudged : last.stop ≠ .mismatch → Unjudged last
  broken : fault? ≠ none → last.stop ≠ .mismatch

section Row

variable {range : AddressRange} {passes : List Buffers}
  {report reached last : Report} {after : Buffers}

theorem PassReport.of_broken {fault : BusError}
    (reported : PassReport range report after reached (some fault))
    (unjudged : Unjudged report) :
    Unjudged reached ∧ reached.passes = report.passes := by
  cases reported with
  | broken =>
      exact ⟨⟨unjudged.stop, unjudged.mismatchCount, unjudged.mismatches⟩, rfl⟩

theorem PassReport.of_completed
    (reported : PassReport range report after reached none)
    (unjudged : Unjudged report) :
    reached.passes = report.passes + 1 ∧
      Tells after.pattern after.readback range reached ∧
      (reached.stop ≠ .mismatch → Unjudged reached) := by
  cases reported with
  | @compared blocksWritten blocksRead =>
      have counting : Unjudged
          { report with
            blocksWritten := blocksWritten
            blocksRead := blocksRead
            passes := report.passes + 1 } :=
        ⟨unjudged.stop, unjudged.mismatchCount, unjudged.mismatches⟩
      refine ⟨?_, counting.tells_judged, ?_⟩
      · rw [judged]
        split <;> rfl
      · intro unfailed
        have equal := counting.tells_judged.equal unfailed
        rw [judged_of_equal equal]
        exact counting

theorem Judgement.nothing {fault? : Option BusError}
    (unjudged : Unjudged report) :
    Judgement range report.passes [] report fault? where
  counted := rfl
  decided := .unread unjudged.faultless
  unjudged _ := unjudged
  broken _ := unjudged.faultless.unfailed

/-- A pass without a difference goes before the rest of the row. -/
theorem Judgement.cons {started : Nat} {fault? : Option BusError}
    (equal : differences after.pattern after.readback range = [])
    (judgement : Judgement range (started + 1) passes last fault?) :
    Judgement range started (after :: passes) last fault? where
  counted := by
    rw [judgement.counted, List.length_cons]
    omega
  decided := by
    cases judgement.decided with
    | unread faultless =>
        have alone : Decided range ([] ++ [after]) last :=
          .last (fun _ impossible => nomatch impossible) (faultless.tells equal)
        exact alone
    | @last before buffers _ earlierEqual tells =>
        rw [← List.cons_append]
        exact .last (List.forall_mem_cons.mpr ⟨equal, earlierEqual⟩) tells
  unjudged := judgement.unjudged
  broken := judgement.broken

theorem Decided.tells (decided : Decided range passes report)
    (here : passes.getLast? = some after) :
    Tells after.pattern after.readback range report := by
  cases decided with
  | unread => cases here
  | last equal tells =>
      rw [List.getLast?_concat] at here
      cases here
      exact tells

theorem Decided.equal (decided : Decided range passes report)
    (unfailed : report.stop ≠ .mismatch) :
    ∀ buffers ∈ passes, differences buffers.pattern buffers.readback
      range = [] := by
  cases decided with
  | unread => exact fun _ impossible => nomatch impossible
  | last equal tells =>
      exact List.forall_mem_append.mpr
        ⟨equal, List.forall_mem_singleton.mpr (tells.equal unfailed)⟩

theorem Decided.stop (decided : Decided range passes report) :
    report.stop = .mismatch ↔ 0 < report.mismatchCount := by
  cases decided with
  | unread faultless =>
      exact iff_of_false faultless.unfailed
        (Nat.not_lt.mpr (Nat.le_of_eq faultless.mismatchCount))
  | last equal tells =>
      rw [tells.stop, tells.mismatchCount, List.length_pos_iff]

theorem Decided.faultless (decided : Decided range passes report)
    (unfailed : report.stop ≠ .mismatch) : Faultless report := by
  cases decided with
  | unread faultless => exact faultless
  | last equal tells =>
      have same := tells.equal unfailed
      refine ⟨unfailed, ?_, ?_⟩
      · rw [tells.mismatchCount, same, List.length_nil]
      · rw [tells.mismatches, diagnosed_of_equal same]

theorem Decided.passes_ne_nil (decided : Decided range passes report)
    (failed : report.stop = .mismatch) : passes ≠ [] := by
  cases decided with
  | unread faultless => exact absurd failed faultless.unfailed
  | last => exact List.concat_ne_nil _ _

theorem Decided.of_faultless (decided : Decided range passes report)
    (unfailed : report.stop ≠ .mismatch) (faultless : Faultless last) :
    Decided range passes last := by
  cases decided with
  | unread => exact .unread faultless
  | last equal tells =>
      exact .last equal (faultless.tells (tells.equal unfailed))

variable {σ γ : Type} {pass : Pass σ γ} {Between : Engine σ γ → Buffers → Prop}
  {engine stopped : Engine σ γ} {buffers : Buffers} {requestLimit : Nat}
  {fault? : Option BusError}

theorem PassTrace.judgement (reports : Reports range pass Between)
    (trace : PassTrace requestLimit pass engine buffers report passes last
      fault? stopped)
    (between : Between engine buffers) (unjudged : Unjudged report) :
    Judgement range report.passes passes last fault? := by
  induction trace with
  | cancelled enough => exact .nothing unjudged
  | broken fewer ran =>
      obtain ⟨still, counted⟩ := (reports between ran).2.of_broken unjudged
      rw [← counted]
      exact .nothing still
  | @differs engine stopped buffers after report reached fewer ran found =>
      obtain ⟨counted, tells, _⟩ :=
        (reports between ran).2.of_completed unjudged
      -- The row ends here, so this pass decides alone.
      have alone : Decided range ([] ++ [after]) reached :=
        .last (fun _ impossible => nomatch impossible) tells
      exact ⟨counted, alone, fun unfailed => absurd found unfailed,
        fun broken => absurd rfl broken⟩
  | next fewer ran equal rest induction =>
      obtain ⟨kept, reported⟩ := reports between ran
      obtain ⟨counted, tells, unfailed⟩ := reported.of_completed unjudged
      -- A pass without a difference hands on a report that is as good as new.
      have rest := induction kept (unfailed equal)
      rw [counted] at rest
      exact rest.cons (tells.equal equal)

/-- Every completed pass of a row started in a state of the kind that holds
between passes. -/
theorem PassTrace.ran (reports : Reports range pass Between)
    (trace : PassTrace requestLimit pass engine buffers report passes last
      fault? stopped)
    (between : Between engine buffers) :
    ∀ after ∈ passes, ∃ engine buffers report reached stopped,
      Between engine buffers ∧
      pass buffers report engine = .ok ((after, reached, none), stopped) := by
  induction trace with
  | cancelled | broken => exact fun _ impossible => nomatch impossible
  | differs fewer ran found =>
      intro after member
      cases List.mem_singleton.mp member
      exact ⟨_, _, _, _, _, between, ran⟩
  | next fewer ran equal rest induction =>
      exact List.forall_mem_cons.mpr
        ⟨⟨_, _, _, _, _, between, ran⟩, induction (reports between ran).1⟩

/-- Where every pass is completed, nothing breaks the row. -/
theorem PassTrace.unbroken (reports : Reports range pass Between)
    (trace : PassTrace requestLimit pass engine buffers report passes last
      fault? stopped)
    (between : Between engine buffers)
    (completes : ∀ ⦃engine stopped buffers report after reached fault?⦄,
      Between engine buffers →
      pass buffers report engine = .ok ((after, reached, fault?), stopped) →
        fault? = none) : fault? = none := by
  have passFaults : ∀ ⦃engine stopped buffers report after reached fault?⦄,
      Between engine buffers →
      pass buffers report engine = .ok ((after, reached, fault?), stopped) →
        Between stopped after ∧ ∀ fault ∈ fault?, False := by
    intro engine stopped buffers report after reached fault? between ran
    refine ⟨(reports between ran).1, ?_⟩
    rw [completes between ran]
    exact nofun
  exact Option.eq_none_iff_forall_not_mem.mpr
    (trace.fault_of_pass passFaults between)

end Row

/-! ## A run -/

section Run

variable {σ γ : Type} [Transport σ] {range : AddressRange}

theorem addressPass_reports (range : AddressRange) :
    Reports range (addressPass range : Pass σ γ) fun _ buffers =>
      Covering range buffers := by
  intro engine stopped buffers report after reached fault? covering ran
  cases addressPass_eq_ok.mp ran with
  | unread reading =>
      exact ⟨⟨covering.pattern, (Engine.size_moveRange reading).trans
        covering.readback⟩, .broken⟩
  | compared reading =>
      exact ⟨⟨covering.pattern, (Engine.size_moveRange reading).trans
        covering.readback⟩, .compared⟩

variable [RandomSource γ]

theorem randomPass_reports (range : AddressRange) :
    Reports range (randomPass range : Pass σ γ) fun _ buffers =>
      Covering range buffers := by
  intro engine stopped buffers report after reached fault? covering ran
  have drawn : (drawnWords engine range buffers.pattern).size =
      range.lastWord + 1 :=
    (size_randomWords _ _ _ _).trans covering.pattern
  cases randomPass_eq_ok.mp ran with
  | unwritten writing =>
      exact ⟨⟨(Engine.size_accessRandom writing).trans drawn,
        covering.readback⟩, .broken⟩
  | unread writing reading =>
      exact ⟨⟨(Engine.size_accessRandom writing).trans drawn,
        (Engine.size_accessRandom reading).trans covering.readback⟩, .broken⟩
  | compared writing reading =>
      exact ⟨⟨(Engine.size_accessRandom writing).trans drawn,
        (Engine.size_accessRandom reading).trans covering.readback⟩, .compared⟩

theorem covering_blank (range : AddressRange) :
    Covering range ⟨blankBuffer range, blankBuffer range⟩ :=
  ⟨size_blankBuffer range, size_blankBuffer range⟩

variable {engine stopped : Engine σ γ} {mode : Mode} {cancelAfter started : Nat}
  {passes : List Buffers} {report last : Report} {fault? : Option BusError}

theorem RunTrace.judgement
    (trace : RunTrace range cancelAfter engine mode passes report
      fault? stopped) :
    Judgement range 0 passes report fault? ∧
    ∀ buffers ∈ passes, Covering range buffers := by
  cases trace with
  | unwritten =>
      have fresh : Unjudged { mode := .addressPattern } := ⟨rfl, rfl, rfl⟩
      exact ⟨.nothing fresh, fun _ impossible => nomatch impossible⟩
  | @address pattern written _ _ _ _ writing trace =>
      have reports := addressPass_reports (σ := σ) (γ := γ) range
      have covering : Covering range ⟨pattern, blankBuffer range⟩ :=
        ⟨(Engine.size_moveRange writing).trans (size_addressPattern _),
          size_blankBuffer range⟩
      refine ⟨trace.judgement reports covering ⟨rfl, rfl, rfl⟩,
        fun buffers member => ?_⟩
      obtain ⟨_, _, _, _, _, between, ran⟩ :=
        trace.ran reports covering buffers member
      exact (reports between ran).1
  | random trace =>
      have reports := randomPass_reports (σ := σ) (γ := γ) range
      have covering := covering_blank range
      refine ⟨trace.judgement reports covering ⟨rfl, rfl, rfl⟩,
        fun buffers member => ?_⟩
      obtain ⟨_, _, _, _, _, between, ran⟩ :=
        trace.ran reports covering buffers member
      exact (reports between ran).1

/-- A run that times out reports what its last completed pass told. -/
theorem Judgement.concluded
    (judgement : Judgement range started passes report fault?)
    (concluding : concluded report fault? = .ok last) :
    last.passes = started + passes.length ∧ Decided range passes last := by
  cases fault? with
  | none =>
      cases concluding
      exact ⟨judgement.counted, judgement.decided⟩
  | some fault =>
      have unfailed := judgement.broken (Option.some_ne_none fault)
      have unjudged := judgement.unjudged unfailed
      cases fault with
      | timeout address =>
          cases concluding
          refine ⟨judgement.counted, judgement.decided.of_faultless unfailed ?_⟩
          exact ⟨nofun, unjudged.mismatchCount, unjudged.mismatches⟩
      | _ => cases concluding

/-- The report of a comparison, and of any run on any transport, is exact about
the last completed pass.  A run that was cancelled or timed out found no
difference. -/
theorem report_is_exact (range : AddressRange) :
    (∀ (pattern readback : Array UInt16) (report : Report)
      (engine : Engine σ γ),
      range.isWellFormed = true → range.lastWord < pattern.size →
      range.lastWord < readback.size → Unjudged report →
      ∃ reached stopped addresses,
        compare pattern readback range report engine = .ok (reached, stopped) ∧
        Exact pattern readback range addresses reached) ∧
    (∀ (mode : Mode) (cancelAfter : Nat) (engine stopped : Engine σ γ)
      (report : Report),
      run range mode cancelAfter engine = .ok (.ok report, stopped) →
      ∃ passes ended fault? last,
        RunTrace range cancelAfter
          (engine.noted (.exerciseStarted engine.width range mode))
          mode passes ended fault? last ∧
        concluded ended fault? = .ok report ∧
        report.passes = passes.length ∧
        (report.stop = .mismatch ↔ 0 < report.mismatchCount) ∧
        (report.stop ≠ .mismatch → report.mismatchCount = 0 ∧
          report.mismatches = []) ∧
        (report.stop = .mismatch → passes ≠ []) ∧
        ∀ buffers, passes.getLast? = some buffers → Covering range buffers ∧
          ∃ addresses, Exact buffers.pattern buffers.readback range
            addresses report) := by
  constructor
  · intro pattern readback report engine wellFormed written read unjudged
    exact ⟨_, _, _, compare_apply _ _ _ _ _,
      unjudged.tells_judged.exact wellFormed written read⟩
  · intro mode cancelAfter engine stopped report ran
    have accepted := checkRange_of_run ran
    have wellFormed := (checkRange_eq_ok.mp accepted).1
    obtain ⟨ended, fault?, last, ⟨passes, trace⟩, concluding, _⟩ :=
      (run_eq_ok accepted).mp ran
    obtain ⟨judgement, covering⟩ := trace.judgement
    obtain ⟨counted, decided⟩ := judgement.concluded concluding.symm
    rw [Nat.zero_add] at counted
    refine ⟨passes, ended, fault?, last, trace, concluding.symm, counted,
      decided.stop, ?_, decided.passes_ne_nil, ?_⟩
    · intro unfailed
      have faultless := decided.faultless unfailed
      exact ⟨faultless.mismatchCount, faultless.mismatches⟩
    · intro buffers here
      have covered := covering buffers (List.mem_of_getLast? here)
      have exact := (decided.tells here).exact wellFormed
        (by rw [covered.pattern]; exact Nat.lt_succ_self _)
        (by rw [covered.readback]; exact Nat.lt_succ_self _)
      exact ⟨covered, _, exact⟩

end Run

/-- An engine on one word.  The second read of it returns two bits flipped. -/
def flippedEngine : Engine ScriptedBus Tape where
  transport :=
    { inner :=
        { board := { MemoryBoard.empty with cells := #[0] }
          clockMode := .wall }
      script :=
        { onSubmit := fun index =>
            if index = 3 then { flips := [(0, 6)] } else {} } }
  width := .bits16
  config := {}
  generator := .repeating #[5]

/-- A comparison tells where else the value found had been written, and the
second pass of a run leaves no trace of the first. -/
theorem report_of_flipped_bits :
    (∃ (reached : Report) (stopped : Engine ScriptedBus Tape)
      (addresses : List Nat),
      compare #[1, 2, 3, 4] #[1, 2, 4, 4] ⟨0, 6⟩
        { mode := .addressPattern } flippedEngine =
        .ok (reached, stopped) ∧
      reached.mismatches = [⟨4, 3, 4, [6]⟩] ∧
      Exact #[1, 2, 3, 4] #[1, 2, 4, 4] ⟨0, 6⟩ addresses reached) ∧
    ∃ (report : Report) (stopped : Engine ScriptedBus Tape) (buffers : Buffers)
      (addresses : List Nat),
      run ⟨0, 0⟩ .randomPattern 100 flippedEngine = .ok (.ok report, stopped) ∧
      report.passes = 2 ∧ report.mismatches = [⟨0, 5, 3, []⟩] ∧
      Exact buffers.pattern buffers.readback ⟨0, 0⟩ addresses report := by
  constructor
  · obtain ⟨reached, stopped, addresses, compared, exact⟩ :=
      (report_is_exact ⟨0, 6⟩).1 #[1, 2, 3, 4] #[1, 2, 4, 4]
        { mode := .addressPattern }
        flippedEngine (by decide) (by decide) (by decide) ⟨rfl, rfl, rfl⟩
    refine ⟨reached, stopped, addresses, compared, ?_, exact⟩
    cases compared.symm.trans (compare_apply _ _ _ _ _)
    decide
  · have observed : (run ⟨0, 0⟩ .randomPattern 100 flippedEngine).toOption.map
        (fun reached => reached.1.toOption.map fun report =>
          (report.passes, report.stop, report.mismatches)) =
          some (some (2, .mismatch, [⟨0, 5, 3, []⟩])) := by
      decide +kernel
    obtain ⟨⟨result, stopped⟩, ran, returned⟩ := exists_of_observed observed
    obtain ⟨report, rfl, known⟩ := exists_of_observed returned
    obtain ⟨two, known⟩ := Prod.mk.inj known
    obtain ⟨stop, mismatches⟩ := Prod.mk.inj known
    obtain ⟨passes, _, _, _, _, _, _, _, _, failed, about⟩ :=
      (report_is_exact ⟨0, 0⟩).2 _ _ _ _ _ ran
    obtain ⟨buffers, here⟩ := Option.isSome_iff_exists.mp
      (List.getLast?_isSome.mpr (failed stop))
    obtain ⟨_, addresses, exact⟩ := about buffers here
    exact ⟨report, stopped, buffers, addresses, ran, two, mismatches, exact⟩

end Exerciser

end Backplane
