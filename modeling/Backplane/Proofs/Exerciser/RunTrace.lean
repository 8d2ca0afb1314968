import Backplane.Proofs.Address.Range
import Backplane.Proofs.Exerciser.Pass

/-!
# Runs of an exerciser

A run is a row of passes.  It ends between two passes when it is cancelled, and
with the first pass that is not completed or finds a difference.  `PassTrace`
and `RunTrace` list the buffers of the completed passes; the budget of the loop
does not appear in them, since every pass issues a request.
-/

namespace Backplane.Exerciser

open Dma

variable {σ γ : Type}

/-- The passes of a run that may issue requests up to a limit. -/
inductive PassTrace (requestLimit : Nat) (pass : Pass σ γ) :
    Engine σ γ → Buffers → Report → List Buffers → Report → Option BusError →
      Engine σ γ → Prop where
  | cancelled {engine : Engine σ γ} {buffers : Buffers} {report : Report}
      (enough : requestLimit ≤ engine.stats.transfers) :
      PassTrace requestLimit pass engine buffers report [] report none engine
  | broken {engine stopped : Engine σ γ} {buffers after : Buffers}
      {report reached : Report} {fault : BusError}
      (fewer : engine.stats.transfers < requestLimit)
      (ran : pass buffers report engine =
        .ok ((after, reached, some fault), stopped)) :
      PassTrace requestLimit pass engine buffers report [] reached
        (some fault) stopped
  | differs {engine stopped : Engine σ γ} {buffers after : Buffers}
      {report reached : Report} (fewer : engine.stats.transfers < requestLimit)
      (ran : pass buffers report engine = .ok ((after, reached, none), stopped))
      (found : reached.stop = .mismatch) :
      PassTrace requestLimit pass engine buffers report [after]
        reached none stopped
  | next {engine middle stopped : Engine σ γ} {buffers after : Buffers}
      {report reached last : Report} {passes : List Buffers}
      {fault? : Option BusError} (fewer : engine.stats.transfers < requestLimit)
      (ran : pass buffers report engine = .ok ((after, reached, none), middle))
      (equal : reached.stop ≠ .mismatch)
      (rest : PassTrace requestLimit pass middle after reached passes last
        fault? stopped) :
      PassTrace requestLimit pass engine buffers report
        (after :: passes) last fault? stopped

/-- Every completed pass issues a request. -/
def Progresses (pass : Pass σ γ) : Prop :=
  ∀ ⦃engine stopped buffers report after reached⦄,
    pass buffers report engine = .ok ((after, reached, none), stopped) →
      engine.stats.transfers < stopped.stats.transfers

theorem repeatPass_succ (requestLimit : Nat) (pass : Pass σ γ) (budget : Nat)
    (buffers : Buffers) (report : Report) (engine : Engine σ γ) :
    repeatPass requestLimit pass (budget + 1) buffers report engine =
      if requestLimit ≤ engine.stats.transfers then
        .ok ((report, none), engine)
      else
        (pass buffers report >>= fun outcome =>
          match outcome with
          | (buffers, report, none) =>
            if report.stop = .mismatch then
              pure (report, none)
            else
              repeatPass requestLimit pass budget buffers report
          | (_, report, some fault) => pure (report, some fault)) engine := by
  have checked : isCancelled requestLimit engine =
      .ok (decide (requestLimit ≤ engine.stats.transfers), engine) := rfl
  rw [repeatPass, Timed.bind_of_ok checked]
  by_cases enough : requestLimit ≤ engine.stats.transfers
  · rw [if_pos (decide_eq_true enough)]
    exact (if_pos enough).symm
  · rw [if_neg ((not_congr decide_eq_true_iff).mpr enough)]
    exact (if_neg enough).symm

/-- The loop runs along its traces, as long as its budget covers the limit. -/
theorem PassTrace.repeatPass {requestLimit budget : Nat} {pass : Pass σ γ}
    {engine stopped : Engine σ γ} {buffers : Buffers} {report last : Report}
    {passes : List Buffers} {fault? : Option BusError}
    (progresses : Progresses pass)
    (trace : PassTrace requestLimit pass engine buffers report passes last
      fault? stopped)
    (covered : requestLimit ≤ engine.stats.transfers + budget) :
    Exerciser.repeatPass requestLimit pass budget buffers report engine =
      .ok ((last, fault?), stopped) := by
  induction trace generalizing budget with
  | cancelled enough =>
      cases budget with
      | zero => rfl
      | succ budget => rw [repeatPass_succ, if_pos enough]
  | broken fewer ran =>
      cases budget with
      | zero => omega
      | succ budget =>
          rw [repeatPass_succ, if_neg (by omega), Timed.bind_of_ok ran]
          rfl
  | differs fewer ran found =>
      cases budget with
      | zero => omega
      | succ budget =>
          rw [repeatPass_succ, if_neg (by omega), Timed.bind_of_ok ran]
          simp only [found, if_true]
          rfl
  | next fewer ran equal rest induction =>
      cases budget with
      | zero => omega
      | succ budget =>
          have issued := progresses ran
          rw [repeatPass_succ, if_neg (by omega), Timed.bind_of_ok ran]
          simp only [equal, if_false]
          exact induction (by omega)

theorem PassTrace.passes_ne_nil {requestLimit : Nat} {pass : Pass σ γ}
    {engine stopped : Engine σ γ} {buffers : Buffers} {report last : Report}
    {passes : List Buffers}
    (trace : PassTrace requestLimit pass engine buffers report passes
      last none stopped)
    (fewer : engine.stats.transfers < requestLimit) : passes ≠ [] := by
  cases trace with
  | cancelled enough => omega
  | differs => exact List.cons_ne_nil _ _
  | next => exact List.cons_ne_nil _ _

/-- A row of passes fails as its last pass does. -/
theorem PassTrace.fault_of_pass {requestLimit : Nat} {pass : Pass σ γ}
    {Between : Engine σ γ → Buffers → Prop} {acceptable : BusError → Prop}
    (passFaults : ∀ ⦃engine stopped buffers report after reached fault?⦄,
      Between engine buffers →
      pass buffers report engine = .ok ((after, reached, fault?), stopped) →
        Between stopped after ∧ ∀ fault ∈ fault?, acceptable fault)
    {engine stopped : Engine σ γ} {buffers : Buffers} {report last : Report}
    {passes : List Buffers} {fault? : Option BusError}
    (trace : PassTrace requestLimit pass engine buffers report passes last
      fault? stopped)
    (between : Between engine buffers) :
    ∀ fault ∈ fault?, acceptable fault := by
  induction trace with
  | cancelled | differs => exact nofun
  | broken _ ran => exact (passFaults between ran).2
  | next _ ran _ _ induction => exact induction (passFaults between ran).1

theorem exists_passTrace {requestLimit budget : Nat} {pass : Pass σ γ}
    {engine stopped : Engine σ γ} {buffers : Buffers} {report last : Report}
    {fault? : Option BusError} (progresses : Progresses pass)
    (covered : requestLimit ≤ engine.stats.transfers + budget)
    (ran : Exerciser.repeatPass requestLimit pass budget buffers report engine =
      .ok ((last, fault?), stopped)) :
    ∃ passes,
      PassTrace requestLimit pass engine buffers report passes last
        fault? stopped := by
  induction budget generalizing engine buffers report with
  | zero =>
      cases ran
      exact ⟨[], .cancelled covered⟩
  | succ budget induction =>
      rw [repeatPass_succ] at ran
      split at ran
      · rename_i enough
        cases ran
        exact ⟨[], .cancelled enough⟩
      · rename_i fewer
        obtain ⟨⟨after, reached, outcome⟩, middle, passed, rest⟩ :=
          Timed.bind_eq_ok.mp ran
        cases outcome with
        | some fault =>
            cases rest
            exact ⟨[], .broken (by omega) passed⟩
        | none =>
            simp only at rest
            split at rest
            · rename_i found
              cases rest
              exact ⟨[after], .differs (by omega) passed found⟩
            · rename_i equal
              have issued := progresses passed
              obtain ⟨passes, trace⟩ := induction (by omega) rest
              exact ⟨after :: passes, .next (by omega) passed equal trace⟩

variable [Transport σ]

theorem addressPass_progresses (range : AddressRange) :
    Progresses (addressPass range : Pass σ γ) := by
  intro engine stopped buffers report after reached ran
  exact (addressPass_eq_ok.mp ran).transfers_lt

variable [RandomSource γ]

theorem randomPass_progresses (range : AddressRange) :
    Progresses (randomPass range : Pass σ γ) := by
  intro engine stopped buffers report after reached ran
  exact (randomPass_eq_ok.mp ran).transfers_lt

/-! ## From the start of a run to its report -/

theorem size_addressPattern (words : Nat) :
    (addressPattern words).size = words :=
  Array.size_ofFn

theorem size_blankBuffer (range : AddressRange) :
    (blankBuffer range).size = range.lastWord + 1 :=
  Array.size_replicate

/-- The passes of a run of either mode that may issue `cancelAfter` requests. -/
inductive RunTrace (range : AddressRange) (cancelAfter : Nat)
    (engine : Engine σ γ) :
    Mode → List Buffers → Report → Option BusError → Engine σ γ → Prop where
  /-- The address pattern could not be written. -/
  | unwritten {pattern : Array UInt16} {fault : BusError} {stopped : Engine σ γ}
      (writing : Engine.writeRange (addressPattern (range.lastWord + 1))
        range engine = .ok ((pattern, .error fault), stopped)) :
      RunTrace range cancelAfter engine .addressPattern []
      { mode := .addressPattern } (some fault) stopped
  | address {pattern : Array UInt16} {written stopped : Engine σ γ}
      {passes : List Buffers} {report : Report} {fault? : Option BusError}
      (writing : Engine.writeRange (addressPattern (range.lastWord + 1))
        range engine = .ok ((pattern, .ok ()), written))
      (trace : PassTrace (engine.stats.transfers + cancelAfter)
        (addressPass range) written
        ⟨pattern, blankBuffer range⟩
          { mode := .addressPattern, blocksWritten := 1 } passes
        report fault? stopped) :
      RunTrace range cancelAfter engine .addressPattern passes report
        fault? stopped
  | random {stopped : Engine σ γ} {passes : List Buffers} {report : Report}
      {fault? : Option BusError}
      (trace : PassTrace (engine.stats.transfers + cancelAfter)
        (randomPass range) engine
        ⟨blankBuffer range, blankBuffer range⟩
          { mode := .randomPattern } passes report
        fault? stopped) :
      RunTrace range cancelAfter engine .randomPattern passes report
        fault? stopped

omit [RandomSource γ] in
/-- The address exerciser issues one request before its first pass. -/
theorem passes_ne_nil_of_written {range : AddressRange} {cancelAfter : Nat}
    {engine written stopped : Engine σ γ} {pattern : Array UInt16}
    {buffers : Buffers} {report last : Report} {passes : List Buffers}
    (writing : Engine.writeRange (addressPattern (range.lastWord + 1))
      range engine = .ok ((pattern, .ok ()), written))
    (trace : PassTrace (engine.stats.transfers + cancelAfter)
      (addressPass range) written buffers report passes last none stopped)
    (uncancelled : 2 ≤ cancelAfter) : passes ≠ [] := by
  have issued := Engine.moveRange_transfers writing
  exact trace.passes_ne_nil (by omega)

theorem RunTrace.passes_ne_nil {range : AddressRange} {cancelAfter : Nat}
    {engine stopped : Engine σ γ} {passes : List Buffers} {report : Report}
    (trace : RunTrace range cancelAfter engine .addressPattern passes
      report none stopped)
    (uncancelled : 2 ≤ cancelAfter) : passes ≠ [] := by
  cases trace with
  | address writing trace =>
      exact passes_ne_nil_of_written writing trace uncancelled

/-- What a run comes back with: a timeout is reported, any other fault fails. -/
def concluded (report : Report) : Option BusError → Except BusError Report
  | none => .ok report
  | some (.timeout address) => .ok { report with stop := .timeout address }
  | some fault => .error fault

/-- The events at the end of a run. -/
def endEvents (width : AddressWidth) (report : Report)
    (fault? : Option BusError) : List Event :=
  match fault?, concluded report fault? with
  | some (.timeout address), .ok last =>
    [.exerciseTimedOut width address, .exerciseEnded last]
  | _, .ok last => [.exerciseEnded last]
  | _, .error _ => []

theorem addressRun_eq_ok {range : AddressRange} {cancelAfter : Nat}
    {engine stopped : Engine σ γ} {report : Report} {fault? : Option BusError} :
    addressRun (engine.stats.transfers + cancelAfter) cancelAfter range
        { mode := .addressPattern } engine = .ok ((report, fault?), stopped) ↔
      ∃ passes,
        RunTrace range cancelAfter engine .addressPattern passes report
          fault? stopped := by
  rw [addressRun, Timed.bind_eq_ok]
  constructor
  · intro ran
    obtain ⟨⟨pattern, result⟩, written, writing, rest⟩ := ran
    cases result with
    | error fault =>
        cases rest
        exact ⟨[], .unwritten writing⟩
    | ok _ =>
        have issued := Engine.moveRange_transfers writing
        obtain ⟨passes, trace⟩ :=
          exists_passTrace (addressPass_progresses range) (by omega) rest
        exact ⟨passes, .address writing trace⟩
  · intro run
    obtain ⟨passes, trace⟩ := run
    cases trace with
    | unwritten writing => exact ⟨_, _, writing, rfl⟩
    | address writing trace =>
        have issued := Engine.moveRange_transfers writing
        exact ⟨_, _, writing,
          trace.repeatPass (addressPass_progresses range) (by omega)⟩

theorem randomRun_eq_ok {range : AddressRange} {cancelAfter : Nat}
    {engine stopped : Engine σ γ} {report : Report} {fault? : Option BusError} :
    randomRun (engine.stats.transfers + cancelAfter) cancelAfter range
        { mode := .randomPattern } engine = .ok ((report, fault?), stopped) ↔
      ∃ passes,
        RunTrace range cancelAfter engine .randomPattern passes report
          fault? stopped := by
  rw [randomRun]
  constructor
  · intro ran
    obtain ⟨passes, trace⟩ :=
      exists_passTrace (randomPass_progresses range) (Nat.le_refl _) ran
    exact ⟨passes, .random trace⟩
  · intro run
    obtain ⟨passes, trace⟩ := run
    cases trace with
    | random trace =>
        exact trace.repeatPass (randomPass_progresses range) (Nat.le_refl _)

omit [RandomSource γ] in
theorem concluding_eq_ok {body : Timed (Engine σ γ) (Report × Option BusError)}
    {width : AddressWidth} {engine stopped : Engine σ γ}
    {result : Except BusError Report} :
    (body >>= fun outcome =>
        match outcome.snd with
        | none => run.finish outcome.fst
        | some (.timeout address) => do
          Engine.note (.exerciseTimedOut width address)
          run.finish { outcome.fst with stop := .timeout address }
        | some fault => pure (.error fault)) engine = .ok (result, stopped) ↔
      ∃ report fault? last, body engine = .ok ((report, fault?), last) ∧
        result = concluded report fault? ∧
        stopped = last.notedAll (endEvents width report fault?) := by
  have ending (report : Report) (fault? : Option BusError) (last : Engine σ γ) :
      (match fault? with
        | none => run.finish report
        | some (.timeout address) => do
          Engine.note (.exerciseTimedOut width address)
          run.finish { report with stop := .timeout address }
        | some fault => pure (.error fault) : Timed (Engine σ γ) _) last =
          .ok (concluded report fault?,
            last.notedAll (endEvents width report fault?)) := by
    cases fault? with
    | none => rfl
    | some fault => cases fault <;> rfl
  rw [Timed.bind_eq_ok]
  constructor
  · intro ran
    obtain ⟨⟨report, fault?⟩, last, body, rest⟩ := ran
    have same := (ending report fault? last).symm.trans rest
    cases same
    exact ⟨report, fault?, last, body, rfl, rfl⟩
  · intro ran
    obtain ⟨report, fault?, last, body, rfl, rfl⟩ := ran
    exact ⟨(report, fault?), last, body, ending report fault? last⟩

/-- An accepted run goes along its traces and concludes with their report. -/
theorem run_eq_ok {range : AddressRange} {mode : Mode} {cancelAfter : Nat}
    {engine stopped : Engine σ γ} {result : Except BusError Report}
    (accepted : checkRange engine.width range = .ok ()) :
    run range mode cancelAfter engine = .ok (result, stopped) ↔
      ∃ report fault? last,
        (∃ passes, RunTrace range cancelAfter
          (engine.noted (.exerciseStarted engine.width range mode))
            mode passes report
          fault? last) ∧
        result = concluded report fault? ∧
        stopped = last.notedAll (endEvents engine.width report fault?) := by
  rw [run, Timed.bind_of_ok (Timed.get_apply engine)]
  simp only [accepted]
  rw [Timed.bind_of_ok (Engine.note_apply _ engine),
    Timed.bind_of_ok (Timed.get_apply _)]
  cases mode with
  | addressPattern =>
      simp only [← addressRun_eq_ok]
      exact concluding_eq_ok
  | randomPattern =>
      simp only [← randomRun_eq_ok]
      exact concluding_eq_ok

theorem run_of_refused {range : AddressRange} {mode : Mode} {cancelAfter : Nat}
    {engine : Engine σ γ} {fault : BusError}
    (refused : checkRange engine.width range = .error fault) :
    run range mode cancelAfter engine = .ok (.error fault, engine) := by
  rw [run, Timed.bind_of_ok (Timed.get_apply engine)]
  simp only [refused]
  rfl

theorem checkRange_of_run {range : AddressRange} {mode : Mode}
    {cancelAfter : Nat} {engine stopped : Engine σ γ} {report : Report}
    (ran : run range mode cancelAfter engine = .ok (.ok report, stopped)) :
    checkRange engine.width range = .ok () := by
  cases checked : checkRange engine.width range with
  | ok _ => rfl
  | error fault =>
      rw [run_of_refused checked] at ran
      cases ran

end Backplane.Exerciser
