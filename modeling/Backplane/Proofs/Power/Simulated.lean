import Backplane.JumperProbe
import Backplane.Proofs.Transport.Simulated

/-!
# Power sequences on a simulated bus

A simulated bus drives every edge it is told to, so an operation on its control
lines comes to its end unless the waits in it overflow the clock.
-/

namespace Backplane.SimulatedBus

variable {α β : Type}

/-- An operation that only lets time pass, as far as clock and jumpers can tell,
and comes to its end wherever the clock can show that time. -/
def Takes (operation : Op SimulatedBus α) (time : Nat) : Prop :=
  ∀ ⦃bus⦄, bus.clock + time < Duration.limit →
    ∃ value stopped, operation.run bus = .ok (.ok value, stopped) ∧
      stopped.clock = bus.clock + time ∧ stopped.closed = bus.closed

namespace Takes

theorem pure (value : α) : Takes (Pure.pure value) 0 :=
  fun bus _ => ⟨value, bus, rfl, rfl, rfl⟩

theorem report (event : Event) : Takes (Transport.report event) 0 :=
  fun _ _ => ⟨(), _, rfl, rfl, rfl⟩

theorem setSignal (signal : Signal) (asserted : Bool) :
    Takes (Transport.setSignal signal asserted) 0 :=
  fun _ _ => ⟨(), _, rfl, rfl, rfl⟩

theorem sleep (duration : Nat) :
    Takes (liftM (Transport.sleep duration : Timed SimulatedBus Unit))
      duration := by
  intro bus fits
  have slept : (Transport.sleep duration : Timed SimulatedBus Unit) bus =
      .ok ((), { bus with clock := bus.clock + duration }) :=
    SimulatedBus.sleep_eq_ok.mpr ⟨fits, rfl⟩
  exact ⟨(), _, Op.liftM_eq_ok.mpr ⟨(), slept, rfl⟩, rfl, rfl⟩

theorem bind {first : Op SimulatedBus α} {next : α → Op SimulatedBus β}
    {time rest : Nat} (head : Takes first time)
    (tail : ∀ value, Takes (next value) rest) :
    Takes (first >>= next) (time + rest) := by
  intro bus fits
  obtain ⟨value, middle, ran, clock, closed⟩ :=
    head (by omega : bus.clock + time < _)
  obtain ⟨last, stopped, rested, restClock, restClosed⟩ :=
    tail value (by omega : middle.clock + rest < _)
  refine ⟨last, stopped, Op.bind_eq_ok.mpr (.inr ⟨value, middle, ran, rested⟩),
    ?_, ?_⟩
  · omega
  · rw [restClosed, closed]

end Takes

theorem runSteps_takes (steps : List PowerStep) :
    Takes (PowerSequence.runSteps steps) (totalWait steps) := by
  induction steps with
  | nil => exact .pure ()
  | cons step steps induction =>
      have drive := Takes.setSignal step.signal step.asserted
      have waited := (Takes.sleep step.wait).bind fun _ => induction
      have whole := (Takes.report (.powerEdge step)).bind fun _ =>
        drive.bind fun _ => waited
      rw [Nat.zero_add, Nat.zero_add] at whole
      exact whole

theorem powerCycle_takes (family : Family) :
    Takes (PowerSequence.powerCycle family)
      (totalWait family.powerDown + totalWait family.powerUp) := by
  have down := (Takes.report (.powerLoss family)).bind fun _ =>
    runSteps_takes family.powerDown
  have up := (Takes.report (.powerReturn family)).bind fun _ =>
    runSteps_takes family.powerUp
  rw [Nat.zero_add] at down up
  exact down.bind fun _ => up

theorem pulseInit_takes (family : Family) :
    Takes (PowerSequence.pulseInit family) family.initPulse := by
  have trail := (Takes.sleep family.initPulse).bind fun _ =>
    Takes.setSignal family.initSignal false
  have whole := (Takes.report (.resetPulse family)).bind fun _ =>
    (Takes.setSignal family.initSignal true).bind fun _ => trail
  rw [Nat.zero_add, Nat.zero_add] at whole
  exact whole

/-- With open jumpers a probe does not fail, whether it refuses closed ones or
not. -/
theorem exists_probeJumpers (family : Family) (refuseClosed : Bool)
    {bus : SimulatedBus} (opens : bus.closed.isClear = true)
    (fits : bus.clock +
      (totalWait family.powerDown + totalWait family.powerUp) <
      Duration.limit) :
    ∃ mask stopped, (probeJumpers family refuseClosed).run bus =
      .ok (.ok mask, stopped) := by
  obtain ⟨_, middle, cycled, _, closed⟩ := powerCycle_takes family fits
  have sampled :
      (Transport.sampleGrants : Op SimulatedBus GrantMask).run middle =
      .ok (.ok middle.closed, middle) := rfl
  refine ⟨middle.closed, Transport.note .jumpersOpen middle, ?_⟩
  refine Op.bind_eq_ok.mpr (.inr ⟨_, middle, cycled, ?_⟩)
  refine Op.bind_eq_ok.mpr (.inr ⟨_, middle, sampled, ?_⟩)
  rw [closed, if_pos opens]
  rfl

end Backplane.SimulatedBus
