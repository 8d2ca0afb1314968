import Backplane.Proofs.Power.Sequence

/-!
# The interlock of the power-fail lines

The DC voltages are announced as lost only while the mains power is announced
as failing, and after an edge on a power-fail line no line changes before the
wait of the sequence is over.  Every operation on the lines keeps to this
wherever a failing edge ends it, and so does every session of such operations.
-/

namespace Backplane

namespace Signal

/-- The lines that announce the state of power, in contrast to the reset
lines. -/
def isPowerFail : Signal → Bool
  | aclo | dclo | bpok | bdcok => true
  | init | binit => false

end Signal

/-- For every control line, whether it is asserted. -/
abbrev Lines := Signal → Bool

namespace Lines

/-- With power on, just the lines that announce good power are asserted. -/
def powered : Lines := fun signal => signal = .bpok ∨ signal = .bdcok

def drive (lines : Lines) (signal : Signal) (asserted : Bool) : Lines :=
  fun other => if other = signal then asserted else lines other

/-- The lines after the recorded edges. -/
def after (lines : Lines) (edges : List LoggedEdge) : Lines :=
  edges.foldl (fun lines edge => lines.drive edge.signal edge.asserted) lines

def through (lines : Lines) (steps : List PowerStep) : Lines :=
  steps.foldl (fun lines step => lines.drive step.signal step.asserted) lines

/-- The power-fail line of a family announces that mains power is failing. -/
def mainsFailing (lines : Lines) : Family → Bool
  | .unibus => lines .aclo
  | .qbus => !lines .bpok

/-- The other line of the family announces that the DC voltages are lost. -/
def dcLost (lines : Lines) : Family → Bool
  | .unibus => lines .dclo
  | .qbus => !lines .bdcok

def Interlocked (lines : Lines) : Prop :=
  ∀ family, lines.dcLost family → lines.mainsFailing family

theorem interlocked_iff {lines : Lines} :
    Interlocked lines ↔
      (lines .dclo → lines .aclo) ∧
      (lines .bdcok = false → lines .bpok = false) := by
  constructor
  · intro interlocked
    have bdcok := interlocked .qbus
    simp only [dcLost, mainsFailing, Bool.not_eq_true'] at bdcok
    exact ⟨interlocked .unibus, bdcok⟩
  · intro lineByLine family
    cases family with
    | unibus => exact lineByLine.1
    | qbus => simpa [dcLost, mainsFailing] using lineByLine.2

theorem interlocked_powered : Interlocked powered := by
  intro family
  cases family <;> decide

theorem after_edgesFrom (lines : Lines) (time : Nat) (steps : List PowerStep) :
    lines.after (edgesFrom time steps) = lines.through steps := by
  induction steps generalizing lines time with
  | nil => rfl
  | cons step steps induction => exact induction _ _

theorem through_append (lines : Lines) (first rest : List PowerStep) :
    lines.through (first ++ rest) = (lines.through first).through rest :=
  List.foldl_append

end Lines

open Lines

/-- Steps that keep the interlock up to any point, and give every edge on a
power-fail line its wait. -/
structure Orderly (steps : List PowerStep) : Prop where
  interlocked : ∀ lines, Interlocked lines →
    ∀ count, Interlocked (lines.through (steps.take count))
  waits : ∀ step ∈ steps, step.signal.isPowerFail → powerStepWait ≤ step.wait

namespace Orderly

theorem nil : Orderly [] where
  interlocked lines safe count := by
    rw [List.take_nil]
    exact safe
  waits step driven := nomatch driven

theorem append {first rest : List PowerStep} (head : Orderly first)
    (tail : Orderly rest) : Orderly (first ++ rest) where
  interlocked lines safe count := by
    rw [List.take_append, through_append]
    exact tail.interlocked _ (head.interlocked lines safe _) _
  waits step driven := by
    rcases List.mem_append.mp driven with inFirst | inRest
    · exact head.waits step inFirst
    · exact tail.waits step inRest

theorem of_prefix {driven table : List PowerStep} (orderly : Orderly table)
    (leading : driven <+: table) : Orderly driven where
  interlocked lines safe count := by
    rw [List.prefix_iff_eq_take.mp leading, List.take_take]
    exact orderly.interlocked lines safe _
  waits step inDriven := orderly.waits step (leading.subset inDriven)

theorem pair {first second : PowerStep}
    (safe : ∀ lines, Interlocked lines →
      Interlocked (lines.through [first]) ∧
      Interlocked (lines.through [first, second]))
    (waits : ∀ step ∈ [first, second], step.signal.isPowerFail →
      powerStepWait ≤ step.wait) : Orderly [first, second] where
  interlocked lines start count := by
    match count with
    | 0 => exact start
    | 1 => exact (safe lines start).1
    | count + 2 =>
        rw [List.take_of_length_le (Nat.le_add_left 2 count)]
        exact (safe lines start).2
  waits := waits

theorem powerDown (family : Family) : Orderly family.powerDown := by
  cases family with
  | unibus =>
      refine pair (fun lines start => ?_) (by simp)
      simp_all [interlocked_iff, through, drive]
  | qbus =>
      refine pair (fun lines start => ?_) (by simp)
      simp_all [interlocked_iff, through, drive]

theorem powerUp (family : Family) : Orderly family.powerUp := by
  cases family with
  | unibus =>
      refine pair (fun lines start => ?_) (by simp)
      simp_all [interlocked_iff, through, drive]
  | qbus =>
      refine pair (fun lines start => ?_) (by simp)
      simp_all [interlocked_iff, through, drive]

/-- A reset pulse leaves the power-fail lines alone. -/
theorem pulse (family : Family) : Orderly (ScriptedBus.pulseSteps family) := by
  cases family with
  | unibus =>
      refine pair (fun lines start => ?_)
        (by simp [Family.initSignal, Signal.isPowerFail])
      simp_all [interlocked_iff, through, drive, Family.initSignal]
  | qbus =>
      refine pair (fun lines start => ?_)
        (by simp [Family.initSignal, Signal.isPowerFail])
      simp_all [interlocked_iff, through, drive, Family.initSignal]

/-- The waits separate every edge on a power-fail line from the edges after
it. -/
theorem spaced {steps : List PowerStep} (orderly : Orderly steps) (time : Nat) :
    (edgesFrom time steps).Pairwise fun earlier later =>
      earlier.signal.isPowerFail →
      earlier.time + powerStepWait ≤ later.time := by
  have waits := orderly.waits
  clear orderly
  induction steps generalizing time with
  | nil => exact .nil
  | cons step steps induction =>
      refine .cons ?_ (induction _ fun later driven =>
        waits later (.tail _ driven))
      intro later driven isPowerFail
      have wait := waits step (.head _) isPowerFail
      exact Nat.le_trans (Nat.add_le_add_left wait time)
        (le_time_of_mem_edgesFrom driven)

end Orderly

/-! ## Sessions -/

inductive PowerCall where
  | powerDown (family : Family)
  | powerUp (family : Family)
  | powerCycle (family : Family)
  | pulseInit (family : Family)
  | probe (family : Family) (refuseClosed : Bool)

namespace PowerCall

def attempt : PowerCall → Op ScriptedBus Unit
  | powerDown family => PowerSequence.powerDown family
  | powerUp family => PowerSequence.powerUp family
  | powerCycle family => PowerSequence.powerCycle family
  | pulseInit family => PowerSequence.pulseInit family
  | probe family refuseClosed => do
    let _ ← probeJumpers family refuseClosed

/-- The edges that an operation drives unless one of them fails. -/
def table : PowerCall → List PowerStep
  | powerDown family => family.powerDown
  | powerUp family => family.powerUp
  | powerCycle family | probe family _ => family.powerDown ++ family.powerUp
  | pulseInit family => ScriptedBus.pulseSteps family

/-- Operations one after the other, whether or not those before them failed. -/
def session (calls : List PowerCall) :
    Timed ScriptedBus (List (Except BusError Unit)) :=
  calls.mapM fun call => call.attempt.run

theorem drives (call : PowerCall) :
    ScriptedBus.Drives call.attempt call.table := by
  cases call with
  | powerDown family => exact ScriptedBus.drives_powerDown family
  | powerUp family => exact ScriptedBus.drives_powerUp family
  | powerCycle family => exact ScriptedBus.drives_powerCycle family
  | pulseInit family => exact ScriptedBus.drives_pulseInit family
  | probe family refuseClosed =>
      rw [table, ← List.append_nil (family.powerDown ++ family.powerUp)]
      exact (ScriptedBus.drives_probeJumpers family refuseClosed).bind
        fun _ => .pure ()

theorem orderly (call : PowerCall) : Orderly call.table := by
  cases call with
  | powerDown family => exact .powerDown family
  | powerUp family => exact .powerUp family
  | powerCycle family =>
      exact (Orderly.powerDown family).append (.powerUp family)
  | pulseInit family => exact .pulse family
  | probe family => exact (Orderly.powerDown family).append (.powerUp family)

theorem drove_session {calls : List PowerCall} {bus stopped : ScriptedBus}
    {results : List (Except BusError Unit)}
    (ran : session calls bus = .ok (results, stopped)) :
    ∃ driven, Orderly driven ∧ ScriptedBus.Drove bus driven stopped := by
  induction calls generalizing bus results with
  | nil =>
      cases ran
      exact ⟨[], .nil, .nothing _⟩
  | cons call calls induction =>
      obtain ⟨_, middle, _, attempted, others, _⟩ :=
        Timed.mapM_cons_eq_ok.mp ran
      obtain ⟨first, leading, drove, _⟩ := call.drives attempted
      obtain ⟨rest, restOrderly, droveRest⟩ := induction others
      exact ⟨first ++ rest, (call.orderly.of_prefix leading).append restOrderly,
        drove.append droveRest⟩

/-- Wherever its edges fail, a session that starts with power on announces the
DC voltages as lost only while it announces mains power as failing, and lets no
edge follow an edge on a power-fail line within 200 milliseconds. -/
theorem session_interlocked {calls : List PowerCall} {bus stopped : ScriptedBus}
    {results : List (Except BusError Unit)}
    (ran : session calls bus = .ok (results, stopped)) :
    ∃ added, stopped.inner.edges.toList = bus.inner.edges.toList ++ added ∧
      (∀ count family, (powered.after (added.take count)).dcLost family →
        (powered.after (added.take count)).mainsFailing family) ∧
      added.Pairwise fun earlier later =>
        earlier.signal.isPowerFail →
          earlier.time + Duration.millis 200 ≤ later.time := by
  -- Any point of the record is a point of the steps that were driven.
  obtain ⟨driven, orderly, drove⟩ := drove_session ran
  refine ⟨_, drove.edges, ?_, orderly.spaced _⟩
  intro count
  rw [edgesFrom_take, after_edgesFrom]
  exact orderly.interlocked powered interlocked_powered count

/-- A bus whose second edge fails. -/
def brokenBus : ScriptedBus where
  inner := {}
  script :=
    { onSignal := fun edge => if edge = 1 then some "line stuck" else none }

/-- After the failed edge the lines of both families go through a return of
power and a further cycle.  An edge comes every 200 milliseconds. -/
theorem session_interlocked_on_brokenBus :
    ∃ results stopped added,
      session [.powerDown .unibus, .powerUp .qbus, .probe .unibus false]
        brokenBus = .ok (results, stopped) ∧
      results.map Except.isOk = [false, true, true] ∧
      stopped.inner.edges.toList = added ∧
      added.map LoggedEdge.time =
        [0, 200000000, 400000000, 600000000, 800000000, 1000000000,
          1200000000] ∧
      (∀ count family, (powered.after (added.take count)).dcLost family →
        (powered.after (added.take count)).mainsFailing family) ∧
      added.Pairwise fun earlier later =>
        earlier.signal.isPowerFail →
          earlier.time + Duration.millis 200 ≤ later.time := by
  have observed :
      (session [.powerDown .unibus, .powerUp .qbus, .probe .unibus false]
        brokenBus).toOption.map (fun reached =>
          (reached.1.map Except.isOk, reached.2.inner.edges.toList.map
            LoggedEdge.time)) = some ([false, true, true],
              [0, 200000000, 400000000, 600000000, 800000000, 1000000000,
                1200000000]) := by
    decide +kernel
  obtain ⟨⟨results, stopped⟩, ran, same⟩ := exists_of_observed observed
  obtain ⟨known, times⟩ := Prod.mk.inj same
  obtain ⟨added, edges, interlocked, spaced⟩ := session_interlocked ran
  have all : stopped.inner.edges.toList = added := edges
  exact ⟨results, stopped, added, ran, known, all, all ▸ times,
    interlocked, spaced⟩

end PowerCall

end Backplane
