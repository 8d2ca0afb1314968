import Backplane.Proofs.Power.Sequence

/-!
# Timed prefixes of a table

The first edge that the script of a bus lets fail settles how far a table is
driven.  All edges before it are on the record, each at its time, the clock
stands behind their waits, and the operation comes back with an error just where
an edge has failed.  A power cycle is one such table: nothing of the return of
power is driven where its loss has failed.
-/

namespace Backplane

theorem totalWait_le_append (first rest : List PowerStep) :
    totalWait first ≤ totalWait (first ++ rest) := by
  rw [totalWait_append]
  exact Nat.le_add_right _ _

@[simp] theorem length_edgesFrom (time : Nat) (steps : List PowerStep) :
    (edgesFrom time steps).length = steps.length := by
  induction steps generalizing time with
  | nil => rfl
  | cons step steps induction =>
      rw [edgesFrom, List.length_cons, induction, List.length_cons]

/-- An edge is stamped with the waits of all edges before it. -/
theorem getElem?_edgesFrom (time : Nat) (steps : List PowerStep) (index : Nat) :
    (edgesFrom time steps)[index]? = steps[index]?.map fun step =>
      ⟨time + totalWait (steps.take index), step.signal, step.asserted⟩ := by
  induction steps generalizing time index with
  | nil => rfl
  | cons step steps induction =>
      cases index with
      | zero => rfl
      | succ index =>
          have shift : time + step.wait + totalWait (steps.take index) =
              time + totalWait ((step :: steps).take (index + 1)) :=
              Nat.add_assoc _ _ _
          rw [edgesFrom, List.getElem?_cons_succ,
            List.getElem?_cons_succ, induction]
          simp only [shift]

namespace ScriptedBus

/-- Of the next edges, the script lets the first `driven` pass and the one
behind them fail, if there is one. -/
structure StopsAfter (bus : ScriptedBus) (edges driven : Nat) : Prop where
  within : driven ≤ edges
  passed : ∀ edge < driven, bus.script.onSignal (bus.signals + edge) = none
  failed : driven < edges →
    ∃ reason, bus.script.onSignal (bus.signals + driven) = some reason

namespace StopsAfter

variable {bus middle : ScriptedBus} {first rest driven : Nat}

theorem head (stops : bus.StopsAfter (first + rest) driven)
    (short : driven < first) : bus.StopsAfter first driven :=
  ⟨Nat.le_of_lt short, stops.passed, fun _ => stops.failed (by omega)⟩

theorem whole (stops : bus.StopsAfter (first + rest) driven)
    (reached : first ≤ driven) : bus.StopsAfter first first :=
  ⟨Nat.le_refl first, fun edge before => stops.passed edge (by omega),
    fun impossible => absurd impossible (Nat.lt_irrefl first)⟩

/-- Behind edges that all passed, the script goes on where they ended. -/
theorem tail (stops : bus.StopsAfter (first + rest) driven)
    (reached : first ≤ driven) (script : middle.script = bus.script)
    (signals : middle.signals = bus.signals + first) :
    middle.StopsAfter rest (driven - first) where
  within := by
    have within := stops.within
    omega
  passed edge before := by
    rw [script, signals, Nat.add_assoc]
    exact stops.passed _ (by omega)
  failed short := by
    have behind : bus.signals + first + (driven - first) =
        bus.signals + driven := by omega
    rw [script, signals, behind]
    exact stops.failed (by omega)

end StopsAfter

/-- The first edge that the script breaks off settles how far any edges come. -/
theorem exists_stopsAfter (bus : ScriptedBus) (edges : Nat) :
    ∃ driven, bus.StopsAfter edges driven := by
  induction edges with
  | zero => exact ⟨0, Nat.le_refl 0, nofun, nofun⟩
  | succ edges induction =>
      obtain ⟨driven, within, passed, failed⟩ := induction
      rcases Nat.lt_or_eq_of_le within with short | rfl
      · exact ⟨driven, by omega, passed, fun _ => failed short⟩
      · cases scripted : bus.script.onSignal (bus.signals + driven) with
        | some reason =>
            exact ⟨driven, by omega, passed, fun _ => ⟨reason, scripted⟩⟩
        | none =>
            refine ⟨driven + 1, Nat.le_refl _, fun edge before => ?_,
              fun impossible => ?_⟩
            · obtain earlier | rfl :=
                Nat.lt_or_eq_of_le (Nat.le_of_lt_succ before)
              · exact passed edge earlier
              · exact scripted
            · exact absurd impossible (Nat.lt_irrefl _)

variable {α β : Type}

/-- How an operation that drives `edges` edges comes back when `driven` of them
passed. -/
inductive Ended (bus : ScriptedBus) (edges : Nat) :
    Nat → Except BusError α → ScriptedBus → Prop where
  | completed {value : α} {stopped : ScriptedBus}
      (signals : stopped.signals = bus.signals + edges) :
      Ended bus edges edges (.ok value) stopped
  | failed {driven : Nat} {reason : String} {stopped : ScriptedBus}
      (short : driven < edges)
      (scripted : bus.script.onSignal (bus.signals + driven) = some reason) :
      Ended bus edges driven (.error (.transport reason)) stopped

theorem Ended.error_iff {bus stopped : ScriptedBus} {edges driven : Nat}
    {result : Except BusError α}
    (ended : Ended bus edges driven result stopped) :
    (∃ fault, result = .error fault) ↔ driven < edges := by
  cases ended with
  | completed =>
      exact ⟨nofun, fun impossible => absurd impossible (Nat.lt_irrefl edges)⟩
  | failed short => exact ⟨fun _ => short, fun _ => ⟨_, rfl⟩⟩

/-- An operation that drives a table up to the first edge that fails, and comes
back wherever the clock can show the waits until then. -/
def Follows (operation : Op ScriptedBus α) (table : List PowerStep) : Prop :=
  ∀ ⦃bus driven⦄, bus.StopsAfter table.length driven →
    bus.inner.clock + totalWait (table.take driven) < Duration.limit →
    ∃ result stopped, operation.run bus = .ok (result, stopped) ∧
      Drove bus (table.take driven) stopped ∧
      Ended bus table.length driven result stopped

namespace Follows

theorem pure (value : α) : Follows (Pure.pure value) [] := by
  intro bus driven stops fits
  obtain rfl := Nat.le_zero.mp stops.within
  exact ⟨_, bus, rfl, .nothing bus, .completed rfl⟩

theorem report (event : Event) : Follows (Transport.report event) [] := by
  intro bus driven stops fits
  obtain rfl := Nat.le_zero.mp stops.within
  exact ⟨_, Transport.note event bus, rfl,
    ⟨(List.append_nil _).symm, rfl, rfl, rfl, rfl, rfl⟩, .completed rfl⟩

/-- An edge and the wait after it. -/
theorem edge (step : PowerStep) :
    Follows (do
      Transport.setSignal step.signal step.asserted
      Transport.sleep (σ := ScriptedBus) step.wait) [step] := by
  intro bus driven stops fits
  cases scripted : bus.script.onSignal bus.signals with
  | some reason =>
      -- The edge fails, so it is the first that does.
      have none_passed : driven = 0 := by
        apply Nat.eq_zero_of_not_pos
        intro passed
        cases scripted.symm.trans (stops.passed 0 passed)
      subst none_passed
      have broken : (Transport.setSignal step.signal step.asserted :
          Op _ Unit).run bus =
          .ok (.error (.transport reason),
            { bus with signals := bus.signals + 1 }) :=
        setSignal_eq_ok.mpr (.inl ⟨reason, scripted, rfl, rfl⟩)
      exact ⟨_, _, Op.bind_eq_ok.mpr (.inl ⟨_, broken, rfl⟩),
        ⟨(List.append_nil _).symm, rfl, rfl, rfl, rfl, rfl⟩,
        .failed Nat.one_pos scripted⟩
  | none =>
      have all_passed : driven = 1 := by
        have within : driven ≤ 1 := stops.within
        apply Nat.le_antisymm within
        apply Nat.pos_of_ne_zero
        rintro rfl
        obtain ⟨reason, failed⟩ := stops.failed Nat.one_pos
        cases scripted.symm.trans failed
      subst all_passed
      let driving : ScriptedBus := { bus with
        inner := bus.inner.setSignal step.signal step.asserted
        signals := bus.signals + 1 }
      have drives : (Transport.setSignal step.signal step.asserted :
          Op _ Unit).run bus =
          .ok (.ok (), driving) :=
          setSignal_eq_ok.mpr (.inr ⟨scripted, rfl, rfl⟩)
      have slept : (Transport.sleep step.wait : Timed _ Unit) driving =
          .ok ((), { driving with
            inner := { driving.inner with
              clock := bus.inner.clock + step.wait } }) :=
        sleep_eq_ok.mpr ⟨fits, rfl⟩
      exact ⟨_, _, Op.bind_eq_ok.mpr
        (.inr ⟨_, _, drives, Op.liftM_eq_ok.mpr ⟨_, slept, rfl⟩⟩),
        ⟨Array.toList_push, rfl, rfl, rfl, rfl, rfl⟩,
        .completed rfl⟩

/-- Of two operations the second starts only behind a first one that passed as a
whole. -/
theorem bind {operation : Op ScriptedBus α} {next : α → Op ScriptedBus β}
    {first rest : List PowerStep} (head : Follows operation first)
    (tail : ∀ value, Follows (next value) rest) :
    Follows (operation >>= next) (first ++ rest) := by
  intro bus driven stops fits
  rw [List.length_append] at stops ⊢
  by_cases short : driven < first.length
  · rw [List.take_append_of_le_length (Nat.le_of_lt short)] at fits ⊢
    obtain ⟨_, stopped, ran, drove, ended⟩ := head (stops.head short) fits
    cases ended with
    | completed => exact absurd short (Nat.lt_irrefl _)
    | failed _ scripted =>
        exact ⟨_, stopped, Op.bind_eq_ok.mpr (.inl ⟨_, ran, rfl⟩), drove,
          .failed (by omega) scripted⟩
  · have reached : first.length ≤ driven := Nat.le_of_not_lt short
    have split : (first ++ rest).take driven =
        first ++ rest.take (driven - first.length) := by
      rw [List.take_append, List.take_of_length_le reached]
    rw [split] at fits ⊢
    have whole := head (stops.whole reached)
    rw [List.take_length] at whole
    obtain ⟨_, middle, ran, drove, ended⟩ := whole
      (Nat.lt_of_le_of_lt (Nat.add_le_add_left (totalWait_le_append _ _) _)
        fits)
    cases ended with
    | failed impossible => exact absurd impossible (Nat.lt_irrefl _)
    | completed signals =>
        have behind : middle.inner.clock +
            totalWait (rest.take (driven - first.length)) <
            Duration.limit := by
          rw [drove.clock, Nat.add_assoc, ← totalWait_append]
          exact fits
        obtain ⟨result, stopped, rested, droveRest, endedRest⟩ :=
          tail _ (stops.tail reached drove.script signals) behind
        refine ⟨result, stopped, Op.bind_eq_ok.mpr
          (.inr ⟨_, middle, ran, rested⟩), drove.append droveRest, ?_⟩
        generalize counted : driven - first.length = others at endedRest
        cases endedRest with
        | completed restSignals =>
            have all : driven = first.length + rest.length := by omega
            rw [all]
            exact .completed (by rw [restSignals, signals, Nat.add_assoc])
        | failed restShort scripted =>
            have position : middle.signals + others = bus.signals + driven := by
              omega
            rw [drove.script, position] at scripted
            exact .failed (by omega) scripted

end Follows

theorem follows_runSteps (table : List PowerStep) :
    Follows (PowerSequence.runSteps table) table := by
  induction table with
  | nil => exact .pure ()
  | cons step table induction =>
      have announced := (Follows.report (.powerEdge step)).bind fun _ =>
        Follows.edge step
      have whole := announced.bind fun _ => induction
      simpa [PowerSequence.runSteps] using whole

theorem follows_powerDown (family : Family) :
    Follows (PowerSequence.powerDown family) family.powerDown :=
  (Follows.report _).bind fun _ => follows_runSteps _

theorem follows_powerUp (family : Family) :
    Follows (PowerSequence.powerUp family) family.powerUp :=
  (Follows.report _).bind fun _ => follows_runSteps _

theorem follows_powerCycle (family : Family) :
    Follows (PowerSequence.powerCycle family)
      (family.powerDown ++ family.powerUp) :=
  (follows_powerDown family).bind fun _ => follows_powerUp family

/-! ## Timed prefixes -/

/-- What a table leaves behind when its first `driven` edges passed: these edges
alone, each with the time of the waits before it, the clock behind the waits of
all of them, and an error just where edges are missing. -/
structure TimedPrefix (bus : ScriptedBus) (table : List PowerStep)
    (driven : Nat) (result : Except BusError Unit) (stopped : ScriptedBus) :
    Prop where
  edges : ∃ added, stopped.inner.edges.toList =
    bus.inner.edges.toList ++ added ∧
    added.length = driven ∧
    ∀ index < driven, added[index]? = table[index]?.map fun step =>
      ⟨bus.inner.clock + totalWait (table.take index), step.signal,
        step.asserted⟩
  clock : stopped.inner.clock = bus.inner.clock + totalWait (table.take driven)
  failed : (∃ fault, result = .error fault) ↔ driven < table.length

theorem Drove.timedPrefix {bus stopped : ScriptedBus} {table : List PowerStep}
    {driven : Nat} {result : Except BusError Unit}
    (drove : Drove bus (table.take driven) stopped)
    (within : driven ≤ table.length)
    (failed : (∃ fault, result = .error fault) ↔ driven < table.length) :
    TimedPrefix bus table driven result stopped where
  edges := by
    refine ⟨_, drove.edges, ?_, fun index before => ?_⟩
    · rw [length_edgesFrom, List.length_take, Nat.min_eq_left within]
    · rw [getElem?_edgesFrom, List.getElem?_take_of_lt before, List.take_take,
        Nat.min_eq_left (Nat.le_of_lt before)]
  clock := drove.clock
  failed := failed

/-- A power sequence drives its table up to the first edge that fails, and a
power cycle that fails in the loss of power drives nothing of its return. -/
theorem power_sequences_drive_timed_prefixes (bus : ScriptedBus)
    (driven : Nat) :
    (∀ steps, bus.StopsAfter steps.length driven →
      bus.inner.clock + totalWait (steps.take driven) < Duration.limit →
      ∃ result stopped,
        (PowerSequence.runSteps steps).run bus = .ok (result, stopped) ∧
        TimedPrefix bus steps driven result stopped) ∧
    (∀ family : Family, bus.StopsAfter 4 driven →
      bus.inner.clock + totalWait
        ((family.powerDown ++ family.powerUp).take driven) <
        Duration.limit →
      ∃ result stopped,
        (PowerSequence.powerCycle family).run bus = .ok (result, stopped) ∧
        TimedPrefix bus (family.powerDown ++ family.powerUp) driven
          result stopped ∧
        (driven < family.powerDown.length →
          TimedPrefix bus family.powerDown driven result stopped)) := by
  refine ⟨fun steps stops fits => ?_, fun family stops fits => ?_⟩
  · obtain ⟨result, stopped, ran, drove, ended⟩ :=
      follows_runSteps steps stops fits
    exact ⟨result, stopped, ran, drove.timedPrefix stops.within ended.error_iff⟩
  · have edges : (family.powerDown ++ family.powerUp).length = 4 := by
      cases family <;> rfl
    rw [← edges] at stops
    obtain ⟨result, stopped, ran, drove, ended⟩ :=
      follows_powerCycle family stops fits
    refine ⟨result, stopped, ran,
      drove.timedPrefix stops.within ended.error_iff, fun short => ?_⟩
    -- Of an error in the first half nothing behind that half is on the record.
    rw [List.take_append_of_le_length (Nat.le_of_lt short)] at drove
    have fault := ended.error_iff.mpr (by rw [List.length_append]; omega)
    exact drove.timedPrefix (Nat.le_of_lt short) (iff_of_true fault short)

/-- A bus that is in use already, and whose next edge but one fails. -/
def worn : ScriptedBus where
  inner := { clock := 7, edges := #[⟨2, .init, true⟩] }
  script :=
    { onSignal := fun edge => if edge = 2 then some "line stuck" else none }
  signals := 1

theorem worn_stopsAfter {edges : Nat} (enough : 1 < edges) :
    worn.StopsAfter edges 1 where
  within := Nat.le_of_lt enough
  passed edge before := by
    obtain rfl := Nat.lt_one_iff.mp before
    rfl
  failed _ := ⟨_, rfl⟩

theorem worn_drives_timed_prefixes :
    (∃ result stopped,
      (PowerSequence.runSteps [⟨.init, false, 40⟩, ⟨.bpok, true, 50⟩]).run
        worn = .ok (result, stopped) ∧
      TimedPrefix worn [⟨.init, false, 40⟩, ⟨.bpok, true, 50⟩] 1
        result stopped) ∧
    ∃ result stopped,
      (PowerSequence.powerCycle .qbus).run worn = .ok (result, stopped) ∧
      TimedPrefix worn (Family.powerDown .qbus) 1 result stopped := by
  obtain ⟨steps, cycles⟩ := power_sequences_drive_timed_prefixes worn 1
  obtain ⟨result, stopped, ran, _, down⟩ :=
    cycles .qbus (worn_stopsAfter (by decide)) (by decide)
  exact ⟨steps _ (worn_stopsAfter (by decide)) (by decide),
    result, stopped, ran, down (by decide)⟩

end ScriptedBus

end Backplane
