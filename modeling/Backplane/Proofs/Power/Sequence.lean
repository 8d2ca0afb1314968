import Backplane.JumperProbe
import Backplane.Proofs.Transport.Scripted

/-!
# Driving a table of edges

An operation on the power-fail and reset lines drives a table of edges in
order, each followed by its wait, or the leading edges of the table and then
comes back with an error.  The edges are stamped with the time at which the
operation started and the waits before them.
-/

namespace Backplane

/-- The edges that steps leave in the record when they are driven from a time
on. -/
def edgesFrom (time : Nat) : List PowerStep → List LoggedEdge
  | [] => []
  | step :: steps =>
    ⟨time, step.signal, step.asserted⟩ :: edgesFrom (time + step.wait) steps

theorem edgesFrom_append (time : Nat) (first rest : List PowerStep) :
    edgesFrom time (first ++ rest) =
      edgesFrom time first ++ edgesFrom (time + totalWait first) rest := by
  induction first generalizing time with
  | nil => rfl
  | cons step first induction =>
      have shift : time + totalWait (step :: first) =
          time + step.wait + totalWait first := (Nat.add_assoc _ _ _).symm
      rw [shift, List.cons_append, edgesFrom, edgesFrom, induction,
        List.cons_append]

theorem edgesFrom_take (time count : Nat) (steps : List PowerStep) :
    (edgesFrom time steps).take count = edgesFrom time (steps.take count) := by
  induction steps generalizing time count with
  | nil => simp [edgesFrom]
  | cons step steps induction =>
      cases count with
      | zero => rfl
      | succ count => simp only [edgesFrom, List.take_succ_cons, induction]

theorem le_time_of_mem_edgesFrom {time : Nat} {steps : List PowerStep}
    {edge : LoggedEdge} (driven : edge ∈ edgesFrom time steps) :
    time ≤ edge.time := by
  induction steps generalizing time with
  | nil => cases driven
  | cons step steps induction =>
      rcases List.mem_cons.mp driven with rfl | later
      · exact Nat.le_refl time
      · exact Nat.le_trans (Nat.le_add_right _ _) (induction later)

theorem totalWait_append (first rest : List PowerStep) :
    totalWait (first ++ rest) = totalWait first + totalWait rest := by
  induction first with
  | nil => exact (Nat.zero_add _).symm
  | cons step first induction =>
      change step.wait + totalWait (first ++ rest) =
        step.wait + totalWait first + _
      rw [induction, Nat.add_assoc]

namespace ScriptedBus

/-- The effect of driving steps, whatever the journal says about it. -/
structure Drove (bus : ScriptedBus) (steps : List PowerStep)
    (stopped : ScriptedBus) : Prop where
  edges : stopped.inner.edges.toList =
    bus.inner.edges.toList ++ edgesFrom bus.inner.clock steps
  clock : stopped.inner.clock = bus.inner.clock + totalWait steps
  board : stopped.inner.board = bus.inner.board
  requests : stopped.inner.requests = bus.inner.requests
  closed : stopped.inner.closed = bus.inner.closed
  script : stopped.script = bus.script

namespace Drove

variable {bus middle stopped : ScriptedBus} {first rest : List PowerStep}

theorem nothing (bus : ScriptedBus) : Drove bus [] bus :=
  ⟨(List.append_nil _).symm, rfl, rfl, rfl, rfl, rfl⟩

theorem append (head : Drove bus first middle)
    (tail : Drove middle rest stopped) : Drove bus (first ++ rest) stopped where
  edges := by
    rw [tail.edges, head.edges, head.clock, edgesFrom_append, List.append_assoc]
  clock := by rw [tail.clock, head.clock, totalWait_append, Nat.add_assoc]
  board := tail.board.trans head.board
  requests := tail.requests.trans head.requests
  closed := tail.closed.trans head.closed
  script := tail.script.trans head.script

end Drove

variable {α β : Type}

/-- An operation that drives a table: always leading edges of it, and all of
them unless it comes back with an error. -/
def Drives (operation : Op ScriptedBus α) (table : List PowerStep) : Prop :=
  ∀ ⦃bus result stopped⦄, operation.run bus = .ok (result, stopped) →
    ∃ driven, driven <+: table ∧ Drove bus driven stopped ∧
      ∀ value, result = .ok value → driven = table

namespace Drives

theorem pure (value : α) : Drives (Pure.pure value) [] := by
  intro bus result stopped ran
  cases ran
  exact ⟨[], List.prefix_rfl, .nothing bus, fun _ _ => rfl⟩

theorem throw (fault : BusError) (table : List PowerStep) :
    Drives (throw fault : Op ScriptedBus α) table := by
  intro bus result stopped ran
  cases ran
  exact ⟨[], List.nil_prefix, .nothing bus, fun _ failed => nomatch failed⟩

theorem report (event : Event) : Drives (Transport.report event) [] := by
  intro bus result stopped ran
  cases ran
  exact ⟨[], List.prefix_rfl,
    ⟨(List.append_nil _).symm, rfl, rfl, rfl, rfl, rfl⟩, fun _ _ => rfl⟩

theorem sampleGrants : Drives Transport.sampleGrants [] := by
  intro bus result stopped ran
  obtain ⟨_, rfl⟩ := sampleGrants_eq_ok.mp ran
  exact ⟨[], List.prefix_rfl, .nothing _, fun _ _ => rfl⟩

/-- Operations one after the other drive their tables one after the other. -/
theorem bind {operation : Op ScriptedBus α} {next : α → Op ScriptedBus β}
    {first rest : List PowerStep} (head : Drives operation first)
    (tail : ∀ value, Drives (next value) rest) :
    Drives (operation >>= next) (first ++ rest) := by
  intro bus result stopped ran
  rcases Op.bind_eq_ok.mp ran with ⟨fault, failed, rfl⟩
    | ⟨value, middle, completed, ran⟩
  · obtain ⟨driven, leading, drove, _⟩ := head failed
    exact ⟨driven, leading.trans (List.prefix_append first rest), drove,
      fun _ success => nomatch success⟩
  · obtain ⟨driven, _, drove, all⟩ := head completed
    obtain ⟨others, leading, droveOthers, allOthers⟩ := tail value ran
    -- A value says that the first table was driven to its end, so what is
    -- driven of the second one leads in the tables together.
    have complete := all value rfl
    subst complete
    exact ⟨driven ++ others, (List.prefix_append_right_inj driven).mpr leading,
      drove.append droveOthers,
      fun last success => congrArg (driven ++ ·) (allOthers last success)⟩

/-- An edge with the wait after it, and what follows. -/
theorem edge {next : Op ScriptedBus α} {table : List PowerStep}
    (step : PowerStep) (tail : Drives next table) :
    Drives (do
      Transport.setSignal step.signal step.asserted
      Transport.sleep (σ := ScriptedBus) step.wait
      next) (step :: table) := by
  intro bus result stopped ran
  rcases Op.bind_eq_ok.mp ran with ⟨fault, failed, rfl⟩
    | ⟨_, middle, driving, ran⟩
  · rcases setSignal_eq_ok.mp failed with ⟨reason, _, _, rfl⟩
      | ⟨_, impossible, _⟩
    · exact ⟨[], List.nil_prefix,
        ⟨(List.append_nil _).symm, rfl, rfl, rfl, rfl, rfl⟩, fun _ success =>
        nomatch success⟩
    · cases impossible
  · rcases setSignal_eq_ok.mp driving with ⟨_, _, impossible, _⟩ | ⟨_, _, rfl⟩
    · cases impossible
    · rcases Op.bind_eq_ok.mp ran with ⟨_, failed, _⟩
        | ⟨_, slept, sleeping, ran⟩
      · obtain ⟨_, _, impossible⟩ := Op.liftM_eq_ok.mp failed
        cases impossible
      · obtain ⟨_, sleeping, _⟩ := Op.liftM_eq_ok.mp sleeping
        obtain ⟨_, rfl⟩ := sleep_eq_ok.mp sleeping
        obtain ⟨driven, leading, drove, all⟩ := tail ran
        have first : Drove bus [step] { bus with
            inner := { bus.inner.setSignal step.signal step.asserted with
              clock := bus.inner.clock + step.wait }
            signals := bus.signals + 1 } :=
          ⟨by simp [SimulatedBus.setSignal, edgesFrom], rfl, rfl, rfl, rfl, rfl⟩
        exact ⟨step :: driven, (List.prefix_cons_inj step).mpr leading,
          first.append drove, fun value success => congrArg (step :: ·)
            (all value success)⟩

/-- An edge without a wait after it. -/
theorem setSignal (signal : Signal) (asserted : Bool) :
    Drives (Transport.setSignal signal asserted) [⟨signal, asserted, 0⟩] := by
  intro bus result stopped ran
  rcases setSignal_eq_ok.mp ran with ⟨reason, _, rfl, rfl⟩ | ⟨_, rfl, rfl⟩
  · exact ⟨[], List.nil_prefix,
      ⟨(List.append_nil _).symm, rfl, rfl, rfl, rfl, rfl⟩, fun _ success =>
      nomatch success⟩
  · exact ⟨_, List.prefix_rfl,
      ⟨by simp [SimulatedBus.setSignal, edgesFrom], rfl, rfl, rfl, rfl, rfl⟩,
      fun _ _ => rfl⟩

end Drives

/-! ## The operations on the power-fail and reset lines -/

theorem drives_runSteps (table : List PowerStep) :
    Drives (PowerSequence.runSteps table) table := by
  induction table with
  | nil => exact .pure ()
  | cons step table induction =>
      exact (Drives.report _).bind fun _ => .edge step induction

theorem drives_powerDown (family : Family) :
    Drives (PowerSequence.powerDown family) family.powerDown :=
  (Drives.report _).bind fun _ => drives_runSteps _

theorem drives_powerUp (family : Family) :
    Drives (PowerSequence.powerUp family) family.powerUp :=
  (Drives.report _).bind fun _ => drives_runSteps _

theorem drives_powerCycle (family : Family) :
    Drives (PowerSequence.powerCycle family)
      (family.powerDown ++ family.powerUp) :=
  (drives_powerDown family).bind fun _ => drives_powerUp family

/-- The edges of a reset pulse. -/
def pulseSteps (family : Family) : List PowerStep :=
  [⟨family.initSignal, true, family.initPulse⟩, ⟨family.initSignal, false, 0⟩]

theorem drives_pulseInit (family : Family) :
    Drives (PowerSequence.pulseInit family) (pulseSteps family) :=
  (Drives.report _).bind fun _ =>
    .edge ⟨family.initSignal, true, family.initPulse⟩ (.setSignal _ _)

theorem drives_reports (event : α → Event) (items : List α) :
    Drives (items.forM fun item => Transport.report (event item)) [] := by
  induction items with
  | nil => exact .pure ()
  | cons item items induction =>
      exact (Drives.report (event item)).bind fun _ => induction

/-- Sampling the jumpers drives nothing. -/
theorem drives_probeJumpers (family : Family) (refuseClosed : Bool) :
    Drives (probeJumpers family refuseClosed)
      (family.powerDown ++ family.powerUp) := by
  rw [← List.append_nil (family.powerDown ++ family.powerUp)]
  refine (drives_powerCycle family).bind fun _ => ?_
  refine Drives.sampleGrants.bind fun mask => ?_
  split
  · exact (Drives.report _).bind fun _ => .pure mask
  · split
    · exact (drives_reports Event.jumperClosed _).bind fun _ => .throw _ _
    · exact (Drives.report _).bind fun _ => .pure mask

end ScriptedBus

end Backplane
