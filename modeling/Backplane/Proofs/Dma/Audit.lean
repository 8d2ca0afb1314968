import Backplane.Proofs.Dma.ScriptedBlock
import Backplane.Proofs.Exerciser.Conduct

/-!
# The audit of an engine

The counters of an engine are compared with the record of a bus whose channel
breaks off any of its requests.  A request that breaks off stands in neither;
one that is replied to stands in both.
-/

namespace Backplane

/-- Whether the request ended at a silent address. -/
def LoggedRequest.isTimedOut (entry : LoggedRequest) : Bool :=
  !entry.outcome.success

def totalWords : List LoggedRequest → Nat
  | [] => 0
  | entry :: entries => entry.words + totalWords entries

/-- The faults that the script has for a row of requests. -/
def Script.faults (script : Script) (first count : Nat) :
    List (Option BusError) :=
  (List.range' first count).map fun number =>
    (script.onSubmit number).failure?.map BusError.transport

theorem Script.faults_append (script : Script) (first count more : Nat) :
    script.faults first (count + more) =
      script.faults first count ++ script.faults (first + count) more := by
  have range : List.range' first count ++ List.range' (first + count) more =
      List.range' first (count + more) := by
    exact List.range'_append_1
  rw [faults, faults, faults, ← range, List.map_append]

namespace Dma

/-- The fault with which a request broke off. -/
def faultOf : Except BusError Completion → Option BusError
  | .error fault => some fault
  | .ok _ => none

/-- The completions among the replies. -/
def completionsOf (replies : List (Except BusError Completion)) :
    List Completion :=
  replies.filterMap Except.toOption

theorem completionsOf_append (first rest : List (Except BusError Completion)) :
    completionsOf (first ++ rest) = completionsOf first ++ completionsOf rest :=
  List.filterMap_append

theorem totalWords_logged (slot : Nat) (completions : List Completion) :
    totalWords (completions.map (Completion.logged slot)) =
      total Completion.words completions := by
  induction completions with
  | nil => rfl
  | cons completion completions induction =>
      rw [List.map_cons, totalWords, total, induction]
      rfl

def Completion.isTimedOut (completion : Completion) : Bool :=
  !completion.outcome.success

theorem countP_logged (slot : Nat) (completions : List Completion) :
    (completions.map (Completion.logged slot)).countP LoggedRequest.isTimedOut =
      completions.countP Completion.isTimedOut :=
  List.countP_map

/-- The counters after further completions, of an engine with `percent` of bus
time. -/
def Stats.after (stats : Stats) (percent : Nat)
    (completions : List Completion) : Stats where
  transfers := stats.transfers + completions.length
  words := stats.words + total Completion.words completions
  timeouts := stats.timeouts + completions.countP Completion.isTimedOut
  throttled := stats.throttled +
    total (fun completion => Engine.idleAfter percent completion.elapsed)
      completions

theorem Stats.after_append (stats : Stats) (percent : Nat)
    (first rest : List Completion) :
    stats.after percent (first ++ rest) =
      (stats.after percent first).after percent rest := by
  simp only [Stats.after, List.length_append, total_append, List.countP_append,
    Nat.add_assoc]

theorem Stats.after_single (stats : Stats) (percent : Nat)
    (completion : Completion) :
    stats.after percent [completion] =
      { stats.count completion with
        throttled := stats.throttled + Engine.idleAfter percent
          completion.elapsed } := by
  cases success : completion.outcome.success with
  | true =>
      simp [Stats.after, Stats.count, total, Completion.isTimedOut, success]
  | false =>
      simp [Stats.after, Stats.count, total, Completion.isTimedOut, success]

namespace Engine

variable {γ : Type}

/-- What the replies to an engine's requests leave in its counters and on the
bus. -/
structure Audit (engine : Engine ScriptedBus γ)
    (replies : List (Except BusError Completion))
    (stopped : Engine ScriptedBus γ) : Prop where
  config : stopped.config = engine.config
  script : stopped.transport.script = engine.transport.script
  submits : stopped.transport.submits =
    engine.transport.submits + replies.length
  faults : replies.map faultOf =
    engine.transport.script.faults engine.transport.submits replies.length
  requests : stopped.transport.inner.requests.toList =
    engine.transport.inner.requests.toList ++
      (completionsOf replies).map (Completion.logged engine.config.slot)
  stats : stopped.stats =
    engine.stats.after engine.config.bandwidth (completionsOf replies)

namespace Audit

variable {engine middle stopped : Engine ScriptedBus γ}
  {first rest replies : List (Except BusError Completion)}

theorem nothing (engine : Engine ScriptedBus γ) : Audit engine [] engine :=
  ⟨rfl, rfl, rfl, rfl, (List.append_nil _).symm, rfl⟩

theorem append (head : Audit engine first middle)
    (tail : Audit middle rest stopped) :
    Audit engine (first ++ rest) stopped where
  config := tail.config.trans head.config
  script := tail.script.trans head.script
  submits := by
    rw [tail.submits, head.submits, List.length_append, Nat.add_assoc]
  faults := by
    rw [List.map_append, head.faults, tail.faults, head.script, head.submits,
      List.length_append, Script.faults_append]
  requests := by
    rw [tail.requests, head.requests, head.config, completionsOf_append,
      List.map_append, List.append_assoc]
  stats := by
    rw [tail.stats, head.stats, head.config, completionsOf_append,
      Stats.after_append]

theorem brokenOff (engine : Engine ScriptedBus γ) {reason : String}
    (broken : engine.transport.interference.failure? = some reason) :
    Audit engine [.error (.transport reason)]
      { engine with transport := engine.transport.brokenOff } where
  config := rfl
  script := rfl
  submits := rfl
  faults := by
    have scripted :
        (engine.transport.script.onSubmit engine.transport.submits).failure? =
      some reason := broken
    simp [Script.faults, faultOf, scripted]
  requests := (List.append_nil _).symm
  stats := rfl

end Audit

/-- A request that was replied to stands in the counters as it stands on the
record, as long as the reply does not make up a timeout. -/
theorem Replied.audit {request : Request}
    {engine stopped : Engine ScriptedBus γ} {completion : Completion}
    (replied : Replied engine request completion stopped)
    (honest : engine.transport.interference.fault? = none)
    (slot : request.slot = engine.config.slot) :
    Audit engine [.ok completion] stopped where
  config := replied.config
  script := replied.script
  submits := replied.submits
  faults := by
    have scripted :
        (engine.transport.script.onSubmit engine.transport.submits).failure? =
      none := replied.unbroken
    simp [Script.faults, faultOf, scripted]
  requests := by
    rw [replied.requests, ← replied.logged honest, slot]
    rfl
  stats := by
    rw [replied.stats]
    exact (Stats.after_single _ _ _).symm

theorem Conduct.audit {engine stopped : Engine ScriptedBus γ}
    {replies : List (Except BusError Completion)} {permitted : Request → Prop}
    {slot : Nat} (conduct : Conduct permitted engine replies stopped)
    (proper : ∀ request, permitted request → request.Proper slot)
    (own : slot = engine.config.slot)
    (honest : ∀ number,
      (engine.transport.script.onSubmit number).fault? = none) :
    Audit engine replies stopped := by
  induction conduct with
  | done => exact .nothing _
  | noted _ _ induction | drawn _ _ induction | kept _ _ induction =>
      have rest := induction own honest
      exact ⟨rest.config, rest.script, rest.submits, rest.faults,
        rest.requests, rest.stats⟩
  | @carried engine middle stopped request result replies permits ran
      _ induction =>
      have head : Audit engine [result.map Prod.fst] middle := by
        cases result with
        | error fault =>
            obtain ⟨reason, broken, rfl, rfl⟩ := carryOut_brokenOff ran
            exact .brokenOff engine broken
        | ok done =>
            have replied := carryOut_replied ran
            exact replied.audit (honest _) ((proper _ permits).slot.trans own)
      rw [← head.config] at own
      rw [← head.script] at honest
      exact head.append (induction own honest)

end Engine

end Dma

namespace Exerciser.Work

open Dma Dma.Engine

/-- The counters of a new engine agree with the requests that it added to the
record of the bus, whatever is called on it.  Where the channel breaks off a
request, no counter changes. -/
theorem session_counters {works : List Work}
    {answers : List (Dma.Answer ⊕ Answer)} {transport : ScriptedBus}
    {width : AddressWidth} {config : Config} {entropy : UInt64}
    {engine stopped : Engine ScriptedBus ChaCha}
    (honest : ∀ number, (transport.script.onSubmit number).fault? = none)
    (created : Engine.new transport width config entropy = .ok engine)
    (ran : session works engine = .ok (answers, stopped)) :
    ∃ replies added,
      stopped.transport.inner.requests.toList =
        transport.inner.requests.toList ++ added ∧
      stopped.stats.transfers = added.length ∧
      stopped.stats.words = totalWords added ∧
      stopped.stats.timeouts = added.countP LoggedRequest.isTimedOut ∧
      stopped.transport.submits = transport.submits + replies.length ∧
      replies.map faultOf = transport.script.faults transport.submits
        replies.length ∧
      added = (completionsOf replies).map (Completion.logged config.slot) ∧
      stopped.stats.throttled =
        total (fun completion => idleAfter config.bandwidth completion.elapsed)
          (completionsOf replies) ∧
      ∀ earlier fault later, replies = earlier ++ .error fault :: later →
        ∃ before, Conduct (Request.Proper config.slot) engine earlier before ∧
          Conduct (Request.Proper config.slot)
            { before with transport := before.transport.brokenOff }
              later stopped := by
  obtain ⟨_, rfl⟩ := Engine.new_eq_ok.mp created
  obtain ⟨replies, conduct⟩ := session_conducted ran
  have proper := conduct.mono fun _ => Request.Lawful.proper
  have audit := proper.audit (fun _ => id) rfl honest
  refine ⟨replies, _, audit.requests, ?_, ?_, ?_, audit.submits,
    audit.faults, rfl, ?_, ?_⟩
  · rw [audit.stats, List.length_map]
    exact Nat.zero_add _
  · rw [audit.stats, totalWords_logged]
    exact Nat.zero_add _
  · rw [audit.stats, countP_logged]
    exact Nat.zero_add _
  · rw [audit.stats]
    exact Nat.zero_add _
  · intro earlier fault later position
    obtain ⟨before, _, result, after, head, _, carried, same, tail⟩ :=
      proper.split position
    cases result with
    | ok done => cases same
    | error broken =>
        obtain ⟨_, _, _, rfl⟩ := carryOut_brokenOff carried
        exact ⟨before, head, tail⟩

/-- Two words of memory behind a channel that breaks off the second request. -/
def flakyBus : ScriptedBus where
  inner := { board := MemoryBoard.empty.install 4 }
  script :=
    { onSubmit := fun number =>
        if number = 1 then { failure? := some "mailbox closed" } else {} }

def flakyEngine : Engine ScriptedBus ChaCha where
  transport := Transport.note (.engineOpened 31 50 .software) flakyBus
  width := .bits16
  config := {}
  generator := ChaCha.ofSeed 7

/-- One request is carried out, one breaks off, one runs past the memory, and an
exerciser issues one. -/
def flakyWorks : List Work :=
  [.direct (.transfer true .dataOut 0 (.source #[1, 2])),
    .direct (.readRange #[0, 0] ⟨0, 2⟩),
    .direct (.transfer false .dataIn 0 (.sink #[0, 0, 0])),
    .direct .takeCompletion,
    .exercise (.run ⟨0, 2⟩ .addressPattern 1)]

theorem session_counters_of_flakyBus :
    (∀ number, (flakyBus.script.onSubmit number).fault? = none) ∧
    Engine.new flakyBus .bits16 {} 7 = .ok flakyEngine ∧
    ∃ answers stopped, ∃ replies : List (Except BusError Completion), ∃ added,
      session flakyWorks flakyEngine = .ok (answers, stopped) ∧
      stopped.stats.transfers = 3 ∧ stopped.stats.words = 7 ∧
      stopped.stats.timeouts = 1 ∧
      stopped.transport.inner.requests.toList = added ∧ added.length = 3 ∧
      totalWords added = 7 ∧ added.countP LoggedRequest.isTimedOut = 1 ∧
      replies.map faultOf = flakyBus.script.faults 0 4 := by
  have honest (number : Nat) :
      (flakyBus.script.onSubmit number).fault? = none := by
    unfold flakyBus
    by_cases second : number = 1
    · simp [second]
    · simp [second]
  have created : Engine.new flakyBus .bits16 {} 7 = .ok flakyEngine := rfl
  obtain ⟨⟨answers, stopped⟩, ran, observed⟩ := exists_of_observed
    (by decide +kernel :
      (session flakyWorks flakyEngine).toOption.map (fun reached =>
        (reached.2.stats.transfers, reached.2.stats.words,
          reached.2.stats.timeouts,
          reached.2.transport.submits)) = some (3, 7, 1, 4))
  obtain ⟨transfers, words, timeouts, submits⟩ : stopped.stats.transfers = 3 ∧
      stopped.stats.words = 7 ∧ stopped.stats.timeouts = 1 ∧
        stopped.transport.submits = 4 := by simpa using observed
  obtain ⟨replies, added, requests, counted, sum, silent, issued, faults, _⟩ :=
    session_counters honest created ran
  have start : flakyBus.submits = 0 := rfl
  have count : replies.length = 4 := by omega
  rw [count] at faults
  exact ⟨honest, created, answers, stopped, replies, added, ran, transfers,
    words, timeouts, requests, by omega, by omega, by omega, faults⟩

end Exerciser.Work

end Backplane
