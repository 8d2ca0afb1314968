import Backplane.Proofs.Dma.Coverage
import Backplane.Proofs.Dma.Session

/-!
# Completions left to be collected

A transfer that nobody waits for leaves its completion with the engine, in the
place of the one that was left before it.  Nothing else puts a completion there,
and only collecting it takes it away, so a look at the calls tells which
completion is collected.
-/

namespace Backplane.Dma

/-- What is done with an engine: a call on it, or a look at its counters. -/
inductive Use where
  | call (made : Call)
  | stats

namespace Use

variable {σ γ : Type} [Transport σ] [RandomSource γ]

def perform : Use → Timed (Engine σ γ) (Answer ⊕ Stats)
  | call made => Sum.inl <$> made.perform
  | stats => do
    return .inr (← get).stats

def session (uses : List Use) : Timed (Engine σ γ) (List (Answer ⊕ Stats)) :=
  uses.mapM perform

end Use

variable {σ γ : Type} [Transport σ]

/-- What a transfer completes with: the transport replied to its request. -/
def Engine.Completes (engine : Engine σ γ) (blocking : Bool) (cycle : Cycle)
    (start : Nat) (buffer : Buffer) (completion : Completion) : Prop :=
  ∃ request reply after,
    Request.ofBuffer engine.config.slot cycle start buffer blocking =
    .ok request ∧
    (Transport.submit request).run (engine.announced request).transport =
      .ok (.ok reply, after) ∧
    completion = (engine.announced request).completed request
      reply.outcome after

namespace Engine

variable {engine stopped : Engine σ γ} {blocking : Bool} {cycle : Cycle}
  {start : Nat} {buffer : Buffer}
  {result : Except BusError (Option Completion × Array UInt16)}

/-- How a transfer comes back, and what it leaves to be collected. -/
theorem transfer_handsOver
    (ran : transfer blocking cycle start buffer engine =
      .ok (result, stopped)) :
    ((∀ completion, ¬ engine.Completes blocking cycle start buffer completion) ∧
      (∃ fault, result = .error fault) ∧ stopped.pending? = engine.pending?) ∨
    ∃ completion words, engine.Completes blocking cycle start
      buffer completion ∧
      result = .ok (if blocking then some completion else none, words) ∧
      stopped.pending? = if blocking then engine.pending?
        else some completion := by
  cases built : Request.ofBuffer engine.config.slot cycle start
    buffer blocking with
  | error fault =>
      rw [transfer_of_refused built] at ran
      cases ran
      refine .inl ⟨?_, ⟨fault, rfl⟩, rfl⟩
      intro completion completes
      obtain ⟨request, _, _, accepted, _⟩ := completes
      cases built.symm.trans accepted
  | ok request =>
      obtain ⟨fault, after, failed, rfl, rfl⟩ |
        ⟨reply, after, completion, reached, replied, same,
          throttled, rfl, rfl⟩ :=
          (transfer_submitted_eq_ok built).mp ran
      · refine .inl ⟨?_, ⟨fault, rfl⟩, rfl⟩
        intro completion completes
        obtain ⟨_, _, _, accepted, replied, _⟩ := completes
        cases built.symm.trans accepted
        cases failed.symm.trans replied
      · refine .inr ⟨completion, _,
          ⟨request, reply, after, built, replied, same⟩, rfl, ?_⟩
        obtain ⟨_, _, rfl⟩ := throttle_frame throttled
        cases blocking with
        | true => rfl
        | false => rfl

/-- A transport answers a request in one way. -/
theorem Completes.unique {first second : Completion}
    (left : engine.Completes blocking cycle start buffer first)
    (right : engine.Completes blocking cycle start buffer second) :
    first = second := by
  obtain ⟨_, _, _, built, replied, rfl⟩ := left
  obtain ⟨_, _, _, rebuilt, again, rfl⟩ := right
  cases built.symm.trans rebuilt
  cases replied.symm.trans again
  rfl

end Engine

/-- One use of an engine. -/
structure Turn (σ γ : Type) where
  before : Engine σ γ
  use : Use
  answer : Answer ⊕ Stats
  after : Engine σ γ

namespace Turn

/-- A transfer that nobody waits for, and that the transport replied to. -/
def Leaves (turn : Turn σ γ) (completion : Completion) : Prop :=
  ∃ cycle start buffer, turn.use = .call (.transfer false cycle start buffer) ∧
    turn.before.Completes false cycle start buffer completion

def Collects (turn : Turn σ γ) : Prop :=
  turn.use = .call .takeCompletion

/-- Neither leaves a completion nor collects one. -/
def Passive (turn : Turn σ γ) : Prop :=
  ¬ turn.Collects ∧ ∀ completion, ¬ turn.Leaves completion

/-- The completion that was left last, when nobody has collected it since. -/
inductive Latest (completion : Completion) : List (Turn σ γ) → Prop where
  | here {turn : Turn σ γ} {later : List (Turn σ γ)}
      (leaves : turn.Leaves completion)
      (untouched : ∀ other ∈ later, other.Passive) :
      Latest completion (turn :: later)
  | there {turn : Turn σ γ} {later : List (Turn σ γ)}
      (behind : Latest completion later) :
      Latest completion (turn :: later)

variable [RandomSource γ]

def Ran (turn : Turn σ γ) : Prop :=
  turn.use.perform turn.before = .ok (turn.answer, turn.after)

namespace Ran

variable {turn : Turn σ γ}

theorem call {made : Call} (ran : turn.Ran) (used : turn.use = .call made) :
    ∃ answer, made.perform turn.before = .ok (answer, turn.after) ∧
      turn.answer = .inl answer := by
  rw [Ran, used] at ran
  exact Timed.map_eq_ok.mp ran

theorem transfer {blocking : Bool} {cycle : Cycle} {start : Nat}
    {buffer : Buffer} (ran : turn.Ran)
    (used : turn.use = .call (.transfer blocking cycle start buffer)) :
    ∃ reply, Engine.transfer blocking cycle start buffer turn.before =
        .ok (reply, turn.after) ∧
      turn.answer = .inl (.transferred reply) := by
  obtain ⟨_, performed, same⟩ := ran.call used
  obtain ⟨reply, transferred, rfl⟩ := Timed.map_eq_ok.mp performed
  exact ⟨reply, transferred, same⟩

theorem collects (ran : turn.Ran) (collects : turn.Collects) :
    turn.answer = .inl (.collected turn.before.pending?) ∧
    turn.after.pending? = none := by
  obtain ⟨_, performed, same⟩ := ran.call collects
  obtain ⟨_, taken, rfl⟩ := Timed.map_eq_ok.mp performed
  obtain ⟨rfl, emptied⟩ := Prod.mk.inj (Except.ok.inj taken)
  refine ⟨same, ?_⟩
  rw [← emptied]

theorem leaves {completion : Completion} (ran : turn.Ran)
    (leaves : turn.Leaves completion) :
    turn.after.pending? = some completion := by
  obtain ⟨cycle, start, buffer, used, completes⟩ := leaves
  obtain ⟨_, transferred, _⟩ := ran.transfer used
  obtain ⟨none_left, _⟩ | ⟨other, _, completed, _, left⟩ :=
    Engine.transfer_handsOver transferred
  · exact absurd completes (none_left completion)
  · exact left.trans (congrArg some (completed.unique completes))

/-- Whatever leaves no completion and collects none keeps the one that is
left. -/
theorem passive (ran : turn.Ran) (passive : turn.Passive) :
    turn.after.pending? = turn.before.pending? := by
  obtain ⟨uncollected, none_left⟩ := passive
  cases used : turn.use with
  | stats =>
      rw [Ran, used] at ran
      have unchanged : turn.before = turn.after :=
        (Prod.mk.inj (Except.ok.inj ran)).2
      rw [unchanged]
  | call made =>
      obtain ⟨_, performed, _⟩ := ran.call used
      cases made with
      | transfer blocking cycle start buffer =>
          obtain ⟨_, transferred, _⟩ := ran.transfer used
          obtain ⟨_, _, kept⟩ | ⟨completion, _, completes, _, left⟩ :=
            Engine.transfer_handsOver transferred
          · exact kept
          · cases blocking with
            | true => exact left
            | false =>
                exact absurd ⟨cycle, start, buffer, used, completes⟩
                  (none_left completion)
      | writeRange | readRange =>
          obtain ⟨_, moved, _⟩ := Timed.map_eq_ok.mp performed
          obtain ⟨_, _, frame⟩ := Engine.moveRange_frame moved
          rw [frame]
      | accessRandom =>
          obtain ⟨_, accessed, _⟩ := Timed.map_eq_ok.mp performed
          obtain ⟨_, _, _, frame⟩ := Engine.accessRandom_frame accessed
          rw [frame]
      | takeCompletion => exact absurd used uncollected

/-- What is left behind a use of the engine. -/
theorem pending_iff (ran : turn.Ran) (completion : Completion) :
    turn.after.pending? = some completion ↔
      turn.Leaves completion ∨
        (turn.Passive ∧ turn.before.pending? = some completion) := by
  by_cases passive : turn.Passive
  · rw [ran.passive passive]
    constructor
    · exact fun left => .inr ⟨passive, left⟩
    · rintro (leaves | ⟨_, left⟩)
      · exact absurd leaves (passive.2 completion)
      · exact left
  · constructor
    · intro left
      by_cases collects : turn.Collects
      · cases (ran.collects collects).2.symm.trans left
      · obtain ⟨other, leaves⟩ : ∃ other, turn.Leaves other := by
          simpa [Passive, collects] using passive
        cases (ran.leaves leaves).symm.trans left
        exact .inl leaves
    · rintro (leaves | ⟨impossible, _⟩)
      · exact ran.leaves leaves
      · exact absurd impossible passive

end Ran

/-- Turns one after the other. -/
inductive Row : Engine σ γ → List (Turn σ γ) → Engine σ γ → Prop where
  | nil {engine : Engine σ γ} : Row engine [] engine
  | cons {turn : Turn σ γ} {turns : List (Turn σ γ)} {stopped : Engine σ γ}
      (ran : turn.Ran) (rest : Row turn.after turns stopped) :
      Row turn.before (turn :: turns) stopped

namespace Row

variable {engine stopped : Engine σ γ} {turns earlier later : List (Turn σ γ)}
  {turn : Turn σ γ}

theorem split (row : Row engine (earlier ++ turn :: later) stopped) :
    Row engine earlier turn.before ∧ turn.Ran := by
  induction earlier generalizing engine with
  | nil =>
      cases row with
      | cons ran _ => exact ⟨.nil, ran⟩
  | cons first earlier induction =>
      cases row with
      | cons ran rest =>
          obtain ⟨before, last⟩ := induction rest
          exact ⟨.cons ran before, last⟩

/-- What is left behind a row of turns: what was left last in it, or what was
left before and not touched since. -/
theorem pending_iff (row : Row engine turns stopped) (completion : Completion) :
    stopped.pending? = some completion ↔
      Latest completion turns ∨
        ((∀ turn ∈ turns, turn.Passive) ∧
          engine.pending? = some completion) := by
  induction row with
  | nil =>
      constructor
      · exact fun left => .inr ⟨List.forall_mem_nil _, left⟩
      · rintro (⟨⟨⟩⟩ | ⟨_, left⟩)
        exact left
  | cons ran rest induction =>
      rw [induction, ran.pending_iff, List.forall_mem_cons]
      constructor
      · rintro (behind | ⟨untouched, leaves | ⟨passive, left⟩⟩)
        · exact .inl (.there behind)
        · exact .inl (.here leaves untouched)
        · exact .inr ⟨⟨passive, untouched⟩, left⟩
      · rintro (latest | ⟨⟨passive, untouched⟩, left⟩)
        · cases latest with
          | here leaves untouched => exact .inr ⟨untouched, .inl leaves⟩
          | there behind => exact .inl behind
        · exact .inr ⟨untouched, .inr ⟨passive, left⟩⟩

theorem of_session {uses : List Use} {answers : List (Answer ⊕ Stats)}
    (ran : Use.session uses engine = .ok (answers, stopped)) :
    ∃ turns, Row engine turns stopped ∧ turns.map Turn.use = uses ∧
      turns.map Turn.answer = answers := by
  induction uses generalizing engine answers with
  | nil =>
      cases ran
      exact ⟨[], .nil, rfl, rfl⟩
  | cons use uses induction =>
      obtain ⟨answer, middle, others, performed, rest, rfl⟩ :=
        Timed.mapM_cons_eq_ok.mp ran
      obtain ⟨turns, row, rfl, rfl⟩ := induction rest
      have first : Turn.Ran ⟨engine, use, answer, middle⟩ := performed
      exact ⟨⟨engine, use, answer, middle⟩ :: turns, .cons first row, rfl, rfl⟩

end Row

end Turn

variable [RandomSource γ]

/-- Collecting brings back the completion that was left last, if nobody has
collected it since.  What is no such transfer and no such call, or came back
with an error, keeps the completion that is left, and a transfer that is waited
for brings back its own. -/
theorem session_hands_over_completions {uses : List Use}
    {engine stopped : Engine σ γ} {answers : List (Answer ⊕ Stats)}
    (fresh : engine.pending? = none)
    (ran : Use.session uses engine = .ok (answers, stopped)) :
    ∃ turns : List (Turn σ γ), Turn.Row engine turns stopped ∧
      turns.map Turn.use = uses ∧ turns.map Turn.answer = answers ∧
      ∀ earlier turn later, turns = earlier ++ turn :: later →
        (turn.Collects → ∃ found, turn.answer = .inl (.collected found) ∧
          ∀ completion, found = some completion ↔
            Turn.Latest completion earlier) ∧
        (¬ turn.Collects →
          (∀ cycle start buffer,
            turn.use = .call (.transfer false cycle start buffer) →
            ∃ fault, turn.answer = .inl (.transferred (.error fault))) →
          turn.after.pending? = turn.before.pending?) ∧
        ∀ cycle start buffer,
          turn.use = .call (.transfer true cycle start buffer) →
          ∀ found,
            (∃ words, turn.answer =
              .inl (.transferred (.ok (found, words)))) ↔
            ∃ completion, found = some completion ∧
              turn.before.Completes true cycle start buffer completion := by
  obtain ⟨turns, row, used, answered⟩ := Turn.Row.of_session ran
  refine ⟨turns, row, used, answered, fun earlier turn later position => ?_⟩
  subst position
  obtain ⟨before, turned⟩ := row.split
  refine ⟨fun collects => ?_, fun uncollected failing => ?_,
    fun cycle start buffer use => ?_⟩
  · refine ⟨_, (turned.collects collects).1, fun completion => ?_⟩
    rw [before.pending_iff, fresh]
    simp
  · apply turned.passive ⟨uncollected, ?_⟩
    rintro completion ⟨cycle, start, buffer, use, completes⟩
    obtain ⟨fault, failed⟩ := failing cycle start buffer use
    obtain ⟨reply, transferred, told⟩ := turned.transfer use
    obtain ⟨none_left, _⟩ | ⟨_, _, _, rfl, _⟩ :=
      Engine.transfer_handsOver transferred
    · exact none_left completion completes
    · cases told.symm.trans failed
  · obtain ⟨reply, transferred, told⟩ := turned.transfer use
    intro found
    obtain ⟨none_left, ⟨fault, rfl⟩, _⟩ | ⟨own, words, completes, rfl, _⟩ :=
      Engine.transfer_handsOver transferred
    · constructor
      · rintro ⟨_, answer⟩
        cases told.symm.trans answer
      · rintro ⟨completion, _, completes⟩
        exact absurd completes (none_left completion)
    · constructor
      · rintro ⟨_, answer⟩
        cases told.symm.trans answer
        exact ⟨own, rfl, completes⟩
      · rintro ⟨completion, rfl, completed⟩
        cases completes.unique completed
        exact ⟨words, told⟩

/-- An engine on two words of memory, behind a channel that breaks off the
second request. -/
def interruptedEngine : Engine ScriptedBus Tape where
  transport :=
    { inner := { board := MemoryBoard.empty.install 4 }
      script :=
        { onSubmit := fun number =>
            if number = 1 then { failure? := some "mailbox closed" } else {} } }
  width := .bits16
  config := {}
  generator := .repeating #[0x80000000]

/-- A completion is left, a request breaks off, another is waited for, and two
are asked for. -/
def interruptedUses : List Use :=
  [.call (.transfer false .dataOut 0 (.source #[7, 8])),
    .call (.transfer false .dataIn 0 (.sink #[0])),
    .call (.transfer true .dataIn 2 (.sink #[0])),
    .call .takeCompletion, .stats, .call .takeCompletion]

theorem session_hands_over_interrupted :
    interruptedEngine.pending? = none ∧
      ∃ answers stopped,
        Use.session interruptedUses interruptedEngine = .ok (answers, stopped) ∧
        ∃ left broken waited collected looked last : Turn ScriptedBus Tape,
          [left, broken, waited, collected, looked, last].map Turn.use =
            interruptedUses ∧
          (∃ completion, completion.words = 2 ∧
            collected.answer = .inl (.collected (some completion)) ∧
            Turn.Latest completion [left, broken, waited]) ∧
          ∀ completion, ¬ Turn.Latest completion
            [left, broken, waited, collected, looked] := by
  obtain ⟨⟨answers, stopped⟩, ran, observed⟩ := exists_of_observed
    (by decide +kernel :
      (Use.session interruptedUses interruptedEngine).toOption.map
        (fun reached => reached.1.map fun answer => match answer with
          | .inl (.collected found) => some (found.map Completion.words)
          | _ => none) =
      some [none, none, none, some (some 2), none, some none])
  refine ⟨rfl, answers, stopped, ran, ?_⟩
  obtain ⟨turns, _, used, rfl, handed⟩ := session_hands_over_completions rfl ran
  obtain ⟨left, _, rfl, _, broken, _, rfl, _, waited, _, rfl, _, collected,
      _, rfl, first, looked, _, rfl, _, last, _, rfl, second, rfl⟩ := by
    simpa only [interruptedUses, List.map_eq_cons_iff, List.map_eq_nil_iff]
      using used
  obtain ⟨found, told, latest⟩ :=
    (handed [left, broken, waited] collected _ rfl).1 first
  obtain ⟨others, toldLast, latestLast⟩ :=
    (handed [left, broken, waited, collected, looked] last _ rfl).1 second
  obtain ⟨foundWords, othersWords⟩ :
      found.map Completion.words = some 2 ∧
      others.map Completion.words = none := by
    simp only [List.map_cons, told, toldLast, List.cons.injEq,
      Option.some.injEq] at observed
    exact ⟨observed.2.2.2.1, observed.2.2.2.2.2.1⟩
  refine ⟨left, broken, waited, collected, looked, last, used, ?_,
    fun completion latest => ?_⟩
  · obtain ⟨completion, rfl, words⟩ := Option.map_eq_some_iff.mp foundWords
    exact ⟨completion, words, told, (latest completion).mp rfl⟩
  · cases Option.map_eq_none_iff.mp othersWords
    cases (latestLast completion).mpr latest

end Backplane.Dma
