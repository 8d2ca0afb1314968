import Backplane.Transport

/-!
# Runs of timed steps

A timed step either reaches a result and a state or overflows the clock.  The
lemmas below say when a step built from others reaches its result, so that a
run of an operation can be taken apart one step after the other.  An operation
may also come back with an error, and keeps the state it reached.
-/

namespace Backplane

theorem except_bind_eq_ok {ε α β : Type} {first : Except ε α}
    {next : α → Except ε β} {result : β} :
    (first >>= next) = .ok result ↔
      ∃ value, first = .ok value ∧ next value = .ok result := by
  cases first with
  | error fault => simp [bind, Except.bind]
  | ok value => simp [bind, Except.bind]

theorem except_bind_eq_error {ε α β : Type} {first : Except ε α}
    {next : α → Except ε β} {fault : ε} :
    (first >>= next) = .error fault ↔
      first = .error fault ∨ ∃ value, first = .ok value ∧
      next value = .error fault := by
  cases first with
  | error fault => simp [bind, Except.bind]
  | ok value => simp [bind, Except.bind]

theorem except_mapError_eq_ok {ε δ α : Type} {computed : Except ε α}
    {change : ε → δ} {value : α} :
    computed.mapError change = .ok value ↔ computed = .ok value := by
  cases computed with
  | error _ => exact ⟨nofun, nofun⟩
  | ok _ =>
      change Except.ok _ = Except.ok _ ↔ _
      rw [Except.ok.injEq, Except.ok.injEq]

/-- What is observed of a result belongs to a result that was reached. -/
theorem exists_of_observed {ε α β : Type} {reached : Except ε α}
    {observe : α → β} {observed : β}
    (same : reached.toOption.map observe = some observed) :
    ∃ value, reached = .ok value ∧ observe value = observed := by
  cases reached with
  | error fault => cases same
  | ok value =>
      cases same
      exact ⟨value, rfl, rfl⟩

namespace Timed

variable {σ α β : Type}

/-- A sequence reaches its result through a state between its two steps. -/
theorem bind_eq_ok {first : Timed σ α} {next : α → Timed σ β}
    {start stop : σ} {result : β} :
    (first >>= next) start = .ok (result, stop) ↔
      ∃ value middle, first start = .ok (value, middle) ∧
        next value middle = .ok (result, stop) := by
  constructor
  · intro ran
    obtain ⟨⟨value, middle⟩, firstRan, nextRan⟩ := except_bind_eq_ok.mp ran
    exact ⟨value, middle, firstRan, nextRan⟩
  · rintro ⟨value, middle, firstRan, nextRan⟩
    exact except_bind_eq_ok.mpr ⟨(value, middle), firstRan, nextRan⟩

theorem bind_of_ok {first : Timed σ α} {start middle : σ} {value : α}
    (ran : first start = .ok (value, middle)) (next : α → Timed σ β) :
    (first >>= next) start = next value middle := by
  change (first start >>= fun reached => next reached.1 reached.2) = _
  rw [ran]
  rfl

@[simp] theorem pure_apply (value : α) (state : σ) :
    (pure value : Timed σ α) state = .ok (value, state) := rfl

@[simp] theorem get_apply (state : σ) :
    (get : Timed σ σ) state = .ok (state, state) := rfl

@[simp] theorem modify_apply (change : σ → σ) (state : σ) :
    (modify change : Timed σ Unit) state = .ok ((), change state) := rfl

/-- A checked computation keeps the state. -/
theorem liftM_eq_ok {check : Except ClockOverflow α} {start stop : σ}
    {result : α} :
    (liftM check : Timed σ α) start = .ok (result, stop) ↔
      check = .ok result ∧ stop = start := by
  change (check >>= fun value => Except.ok (value, start)) = _ ↔ _
  rw [except_bind_eq_ok]
  simp only [Except.ok.injEq, Prod.mk.injEq]
  constructor
  · rintro ⟨value, checked, rfl, rfl⟩
    exact ⟨checked, rfl⟩
  · rintro ⟨checked, rfl⟩
    exact ⟨result, checked, rfl, rfl⟩

theorem map_eq_ok {step : Timed σ α} {change : α → β} {start stop : σ}
    {result : β} :
    (change <$> step) start = .ok (result, stop) ↔
      ∃ value, step start = .ok (value, stop) ∧ result = change value := by
  rw [map_eq_pure_bind, bind_eq_ok]
  constructor
  · rintro ⟨value, middle, ran, rest⟩
    cases rest
    exact ⟨value, ran, rfl⟩
  · rintro ⟨value, ran, rfl⟩
    exact ⟨value, stop, ran, rfl⟩

/-- A row of steps reaches its results one after the other. -/
theorem mapM_cons_eq_ok {step : α → Timed σ β} {item : α} {items : List α}
    {start stop : σ} {results : List β} :
    (item :: items).mapM step start = .ok (results, stop) ↔
      ∃ value middle rest, step item start = .ok (value, middle) ∧
        items.mapM step middle = .ok (rest, stop) ∧
        results = value :: rest := by
  rw [List.mapM_cons, bind_eq_ok]
  constructor
  · intro ran
    obtain ⟨value, middle, first, ran⟩ := ran
    obtain ⟨rest, _, others, built⟩ := bind_eq_ok.mp ran
    cases built
    exact ⟨value, middle, rest, first, others, rfl⟩
  · intro ran
    obtain ⟨value, middle, rest, first, others, rfl⟩ := ran
    exact ⟨value, middle, first, bind_eq_ok.mpr ⟨rest, stop, others, rfl⟩⟩

/-- What holds of the result of any step holds of every result in a row. -/
theorem forall_of_mapM {step : α → Timed σ β} {holds : β → Prop}
    (always : ∀ ⦃item start value stop⦄, step item start = .ok (value, stop) →
      holds value)
    {items : List α} {start stop : σ} {results : List β}
    (ran : items.mapM step start = .ok (results, stop)) :
    ∀ result ∈ results, holds result := by
  induction items generalizing start results with
  | nil =>
      cases ran
      exact List.forall_mem_nil _
  | cons item items induction =>
      obtain ⟨value, middle, rest, first, others, rfl⟩ := mapM_cons_eq_ok.mp ran
      exact List.forall_mem_cons.mpr ⟨always first, induction others⟩

end Timed

namespace Op

variable {σ α β : Type}

/-- A sequence ends with the error of its first operation, or goes on from the
result of that. -/
theorem bind_eq_ok {first : Op σ α} {next : α → Op σ β} {start stop : σ}
    {result : Except BusError β} :
    (first >>= next).run start = .ok (result, stop) ↔
      (∃ fault, first.run start = .ok (.error fault, stop) ∧
        result = .error fault) ∨
      (∃ value middle, first.run start = .ok (.ok value, middle) ∧
        (next value).run middle = .ok (result, stop)) := by
  rw [ExceptT.run_bind, Timed.bind_eq_ok]
  constructor
  · rintro ⟨outcome, middle, ran, rest⟩
    cases outcome with
    | error fault =>
        cases rest
        exact .inl ⟨fault, ran, rfl⟩
    | ok value => exact .inr ⟨value, middle, ran, rest⟩
  · rintro (⟨fault, ran, rfl⟩ | ⟨value, middle, ran, rest⟩)
    · exact ⟨.error fault, stop, ran, rfl⟩
    · exact ⟨.ok value, middle, ran, rest⟩

/-- A timed step within an operation does not fail. -/
theorem liftM_eq_ok {step : Timed σ α} {start stop : σ}
    {result : Except BusError α} :
    (liftM step : Op σ α).run start = .ok (result, stop) ↔
      ∃ value, step start = .ok (value, stop) ∧ result = .ok value := by
  change (step >>= fun value => pure (Except.ok value)) start = _ ↔ _
  rw [Timed.bind_eq_ok]
  constructor
  · rintro ⟨value, middle, ran, rest⟩
    cases rest
    exact ⟨value, ran, rfl⟩
  · rintro ⟨value, ran, rfl⟩
    exact ⟨value, stop, ran, rfl⟩

theorem map_eq_ok {operation : Op σ α} {change : α → β} {start stop : σ}
    {result : Except BusError β} :
    (change <$> operation).run start = .ok (result, stop) ↔
      ∃ outcome, operation.run start = .ok (outcome, stop) ∧
      result = outcome.map change := by
  rw [ExceptT.run_map, Timed.map_eq_ok]

@[simp] theorem report_run [Transport σ] (event : Event) (state : σ) :
    (Transport.report event : Op σ Unit).run state =
      .ok (.ok (), Transport.note event state) := rfl

/-- The faults with which an operation can come back. -/
def FailsOnly (operation : Op σ α) (allowed : BusError → Prop) : Prop :=
  ∀ ⦃start fault stop⦄, operation.run start = .ok (.error fault, stop) →
    allowed fault

namespace FailsOnly

variable {allowed wider : BusError → Prop} {operation : Op σ α}

theorem mono (only : FailsOnly operation allowed)
    (widened : ∀ fault, allowed fault → wider fault) :
    FailsOnly operation wider :=
  fun _ _ _ failed => widened _ (only failed)

theorem pure (value : α) : FailsOnly (Pure.pure value : Op σ α) allowed :=
  fun _ _ _ failed => nomatch failed

theorem throw {fault : BusError} (permitted : allowed fault) :
    FailsOnly (throw fault : Op σ α) allowed := by
  intro start _ stop failed
  cases failed
  exact permitted

theorem liftM (step : Timed σ α) : FailsOnly (liftM step : Op σ α) allowed := by
  intro start fault stop failed
  obtain ⟨_, _, impossible⟩ := Op.liftM_eq_ok.mp failed
  cases impossible

theorem bind {next : α → Op σ β} (head : FailsOnly operation allowed)
    (tail : ∀ value, FailsOnly (next value) allowed) :
    FailsOnly (operation >>= next) allowed := by
  intro start fault stop failed
  rcases Op.bind_eq_ok.mp failed with ⟨_, headFailed, same⟩
    | ⟨value, _, _, tailFailed⟩
  · cases same
    exact head headFailed
  · exact tail value tailFailed

theorem forM {items : List α} {step : α → Op σ PUnit}
    (each : ∀ item, FailsOnly (step item) allowed) :
    FailsOnly (items.forM step) allowed := by
  induction items with
  | nil => exact .pure _
  | cons item items induction => exact (each item).bind fun _ => induction

end FailsOnly

end Op

end Backplane
