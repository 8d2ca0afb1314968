import Backplane.Proofs.Address.Range
import Backplane.Proofs.Dma.Block
import Backplane.Proofs.Dma.BlockTrace

/-!
# The conduct of an engine

Whatever is called on an engine, between two states it does only this: it
carries out requests, writes events to the journal, draws random numbers, and
keeps or hands out a completion.  `Conduct` lists the replies to the requests in
order.  What one request preserves holds along a conduct by induction, so that
nothing about the calls above has to be proved again.
-/

namespace Backplane.Dma

/-- A request as an engine in a slot builds it. -/
structure Request.Proper (slot : Nat) (request : Request) : Prop where
  slot : request.slot = slot
  aligned : request.start % 2 = 0
  inhabited : 0 < request.words.size

/-- Every byte of the request has an address. -/
def Request.Inside (width : AddressWidth) (request : Request) : Prop :=
  request.start + 2 * request.words.size ≤ width.byteCount

/-- The request covers these words. -/
def Request.Covers (start words : Nat) (request : Request) : Prop :=
  request.start = start ∧ request.words.size = words

/-- A request that an engine may send.  A bare transfer takes its address
unchecked; all other calls check their range first. -/
structure Request.Lawful (slot : Nat) (width : AddressWidth) (bare : Bool)
    (request : Request) : Prop where
  proper : request.Proper slot
  inside : bare = false → request.Inside width

namespace Engine

variable {σ γ : Type} [Transport σ] {permitted allowed : Request → Prop}

/-- What an engine does between two states, and the replies to its requests. -/
inductive Conduct (permitted : Request → Prop) :
    Engine σ γ → List (Except BusError Completion) → Engine σ γ → Prop where
  | done {engine : Engine σ γ} : Conduct permitted engine [] engine
  | noted {engine stopped : Engine σ γ}
      {replies : List (Except BusError Completion)} (event : Event)
      (rest : Conduct permitted (engine.noted event) replies stopped) :
      Conduct permitted engine replies stopped
  | drawn {engine stopped : Engine σ γ}
      {replies : List (Except BusError Completion)} (generator : γ)
      (rest : Conduct permitted { engine with generator := generator }
        replies stopped) :
      Conduct permitted engine replies stopped
  | kept {engine stopped : Engine σ γ}
      {replies : List (Except BusError Completion)}
      (pending? : Option Completion)
      (rest : Conduct permitted { engine with pending? := pending? }
        replies stopped) :
      Conduct permitted engine replies stopped
  | carried {engine middle stopped : Engine σ γ} {request : Request}
      {result : Except BusError (Completion × Array UInt16)}
      {replies : List (Except BusError Completion)}
      (permits : permitted request)
      (ran : carryOut request engine = .ok (result, middle))
      (rest : Conduct permitted middle replies stopped) :
      Conduct permitted engine (result.map Prod.fst :: replies) stopped

namespace Conduct

variable {engine middle stopped : Engine σ γ}
  {first rest replies : List (Except BusError Completion)}

theorem append (head : Conduct permitted engine first middle)
    (tail : Conduct permitted middle rest stopped) :
    Conduct permitted engine (first ++ rest) stopped := by
  induction head with
  | done => exact tail
  | noted event _ induction => exact .noted event (induction tail)
  | drawn generator _ induction => exact .drawn generator (induction tail)
  | kept pending? _ induction => exact .kept pending? (induction tail)
  | carried permits ran _ induction =>
      exact .carried permits ran (induction tail)

theorem mono (conduct : Conduct permitted engine replies stopped)
    (widened : ∀ request, permitted request → allowed request) :
    Conduct allowed engine replies stopped := by
  induction conduct with
  | done => exact .done
  | noted event _ induction => exact .noted event induction
  | drawn generator _ induction => exact .drawn generator induction
  | kept pending? _ induction => exact .kept pending? induction
  | carried permits ran _ induction =>
      exact .carried (widened _ permits) ran induction

theorem handOver (blocking : Bool) (completion : Completion)
    (engine : Engine σ γ) :
    Conduct permitted engine [] (engine.handOver blocking completion) := by
  cases blocking with
  | true => exact .done
  | false => exact .kept _ .done

/-- A reply within a conduct came back for one request, with a conduct before it
and one after it. -/
theorem split {reply : Except BusError Completion}
    (conduct : Conduct permitted engine replies stopped)
    (position : replies = first ++ reply :: rest) :
    ∃ before request result replied, Conduct permitted engine first before ∧
      permitted request ∧ carryOut request before = .ok (result, replied) ∧
      result.map Prod.fst = reply ∧ Conduct permitted replied rest stopped := by
  induction conduct generalizing first with
  | done =>
      exact absurd position.symm (List.append_ne_nil_of_right_ne_nil _ nofun)
  | noted event _ induction =>
      obtain ⟨before, request, result, replied, head, tail⟩ :=
        induction position
      exact ⟨before, request, result, replied, .noted event head, tail⟩
  | drawn generator _ induction =>
      obtain ⟨before, request, result, replied, head, tail⟩ :=
        induction position
      exact ⟨before, request, result, replied, .drawn generator head, tail⟩
  | kept pending? _ induction =>
      obtain ⟨before, request, result, replied, head, tail⟩ :=
        induction position
      exact ⟨before, request, result, replied, .kept pending? head, tail⟩
  | carried permits ran others induction =>
      cases first with
      | nil =>
          cases position
          exact ⟨_, _, _, _, .done, permits, ran, rfl, others⟩
      | cons reply first =>
          obtain ⟨same, position⟩ := List.cons.inj position
          obtain ⟨before, request, result, replied, head, tail⟩ :=
            induction position
          subst same
          exact ⟨before, request, result, replied,
            .carried permits ran head, tail⟩

end Conduct

/-! ## Width and parameters -/

theorem Conduct.width_config {engine stopped : Engine σ γ}
    {replies : List (Except BusError Completion)}
    (conduct : Conduct permitted engine replies stopped) :
    stopped.width = engine.width ∧ stopped.config = engine.config := by
  induction conduct with
  | done => exact ⟨rfl, rfl⟩
  | noted _ _ induction | drawn _ _ induction | kept _ _ induction =>
      exact induction
  | carried _ ran _ induction =>
      obtain ⟨_, _, rfl⟩ := carryOut_frame ran
      exact induction

/-- A lawful conduct leads from one state to the other. -/
def Conducted (bare : Bool) (engine stopped : Engine σ γ) : Prop :=
  ∃ replies, Conduct (Request.Lawful engine.config.slot engine.width bare)
    engine replies stopped

namespace Conducted

variable {bare : Bool} {engine middle stopped : Engine σ γ}

theorem refl (engine : Engine σ γ) : Conducted bare engine engine :=
  ⟨[], .done⟩

/-- Conducts follow one another because width and parameters stay as they
are. -/
theorem trans (head : Conducted bare engine middle)
    (tail : Conducted bare middle stopped) : Conducted bare engine stopped := by
  obtain ⟨first, head⟩ := head
  obtain ⟨rest, tail⟩ := tail
  obtain ⟨width, config⟩ := head.width_config
  rw [width, config] at tail
  exact ⟨_, head.append tail⟩

theorem noted {event : Event}
    (rest : Conducted bare (engine.noted event) stopped) :
    Conducted bare engine stopped := by
  obtain ⟨replies, conduct⟩ := rest
  exact ⟨replies, .noted event conduct⟩

theorem drawn {generator : γ}
    (rest : Conducted bare { engine with generator := generator } stopped) :
    Conducted bare engine stopped := by
  obtain ⟨replies, conduct⟩ := rest
  exact ⟨replies, .drawn generator conduct⟩

theorem notedAll (engine : Engine σ γ) (events : List Event) :
    Conducted bare engine (events.foldl Engine.noted engine) := by
  induction events generalizing engine with
  | nil => exact .refl engine
  | cons event events induction => exact (induction (engine.noted event)).noted

theorem width (conducted : Conducted bare engine stopped) :
    stopped.width = engine.width := by
  obtain ⟨_, conduct⟩ := conducted
  exact conduct.width_config.1

theorem config (conducted : Conducted bare engine stopped) :
    stopped.config = engine.config := by
  obtain ⟨_, conduct⟩ := conducted
  exact conduct.width_config.2

theorem mono {wider : Bool} (conducted : Conducted bare engine stopped)
    (widened : bare = true → wider = true) :
    Conducted wider engine stopped := by
  obtain ⟨replies, conduct⟩ := conducted
  refine ⟨replies, conduct.mono fun _ lawful =>
    ⟨lawful.proper, fun checked => ?_⟩⟩
  apply lawful.inside
  cases bare with
  | false => rfl
  | true => cases (widened rfl).symm.trans checked

/-- A row of steps conducts itself as its steps do. -/
theorem of_mapM {α β : Type} {step : α → Timed (Engine σ γ) β} {items : List α}
    (each : ∀ item ∈ items, ∀ ⦃engine value stopped⦄,
      step item engine = .ok (value, stopped) → Conducted bare engine stopped)
    {values : List β} (ran : items.mapM step engine = .ok (values, stopped)) :
    Conducted bare engine stopped := by
  induction items generalizing engine values with
  | nil =>
      cases ran
      exact .refl _
  | cons item items induction =>
      obtain ⟨_, middle, _, performed, others, _⟩ :=
        Timed.mapM_cons_eq_ok.mp ran
      obtain ⟨first, rest⟩ := List.forall_mem_cons.mp each
      exact (first performed).trans (induction rest others)

end Conducted

/-! ## The calls on an engine -/

/-- A transfer carries out the request for its words, or is refused. -/
theorem transfer_conduct {blocking : Bool} {cycle : Cycle} {start : Nat}
    {buffer : Buffer} {engine stopped : Engine σ γ}
    {result : Except BusError (Option Completion × Array UInt16)}
    (ran : transfer blocking cycle start buffer engine =
      .ok (result, stopped)) :
    ∃ replies, Conduct (fun request => request.Proper engine.config.slot ∧
      request.Covers start buffer.words.size) engine replies stopped := by
  cases built : Request.ofBuffer engine.config.slot cycle start
    buffer blocking with
  | error fault =>
      rw [transfer_of_refused built] at ran
      cases ran
      exact ⟨[], .done⟩
  | ok request =>
      obtain ⟨carried, reached, carriedOut, ending⟩ :=
        (transfer_eq_ok_of_built built).mp ran
      obtain ⟨_, inhabited, aligned, rfl⟩ := Request.ofBuffer_eq_ok.mp built
      have proper : Request.Proper engine.config.slot
          ⟨engine.config.slot, cycle, start, buffer, blocking⟩ :=
        ⟨rfl, aligned, inhabited⟩
      obtain ⟨_, _, _, rfl⟩ | ⟨completion, _, _, _, rfl⟩ := ending
      · exact ⟨_, .noted _ (.carried ⟨proper, rfl, rfl⟩ carriedOut .done)⟩
      · exact ⟨_, .noted _ (.carried ⟨proper, rfl, rfl⟩ carriedOut
          (.handOver blocking completion reached))⟩

theorem transfer_conducted {blocking : Bool} {cycle : Cycle} {start : Nat}
    {buffer : Buffer} {engine stopped : Engine σ γ}
    {result : Except BusError (Option Completion × Array UInt16)}
    (ran : transfer blocking cycle start buffer engine =
      .ok (result, stopped)) :
    Conducted true engine stopped := by
  obtain ⟨replies, conduct⟩ := transfer_conduct ran
  exact ⟨replies, conduct.mono fun _ known => ⟨known.1, nofun⟩⟩

theorem takeCompletion_conducted {bare : Bool} {engine stopped : Engine σ γ}
    {completion? : Option Completion}
    (ran : takeCompletion engine = .ok (completion?, stopped)) :
    Conducted bare engine stopped := by
  cases ran
  exact ⟨[], .kept none .done⟩

section Blocks

variable {cycle : Cycle} {engine stopped : Engine σ γ}
  {buffer moved : Array UInt16} {address count : Nat}

theorem transfer_block_conduct (covered : address / 2 + count ≤ buffer.size)
    {result : Except BusError (Option Completion × Array UInt16)}
    (ran : transfer true cycle address
      (.facing cycle (buffer.extract (address / 2) (address / 2 + count)))
        engine = .ok (result, stopped)) :
    ∃ replies, Conduct (fun request => request.Proper engine.config.slot ∧
      request.Covers address count) engine replies stopped := by
  have size : (Buffer.facing cycle
      (buffer.extract (address / 2) (address / 2 + count))).words.size =
      count := by
    rw [Buffer.words_facing, Array.size_extract]
    omega
  obtain ⟨replies, conduct⟩ := transfer_conduct ran
  rw [size] at conduct
  exact ⟨replies, conduct⟩

theorem BlockStep.conducted {reply : Except BusError Completion}
    {result : Except BusError Unit}
    (step : BlockStep cycle engine buffer address count reply moved
      result stopped)
    (covered : address / 2 + count ≤ buffer.size)
    (within : address + 2 * count ≤ engine.width.byteCount) :
    Conducted false engine stopped := by
  have lawful (request : Request) (known : request.Proper engine.config.slot ∧
      request.Covers address count) :
      request.Lawful engine.config.slot engine.width false := by
    obtain ⟨proper, rfl, rfl⟩ := known
    exact ⟨proper, fun _ => within⟩
  cases step with
  | failed transferred | acknowledged transferred =>
      obtain ⟨replies, conduct⟩ := transfer_block_conduct covered transferred
      exact ⟨replies, conduct.mono lawful⟩
  | timedOut transferred silent =>
      obtain ⟨replies, conduct⟩ := transfer_block_conduct covered transferred
      exact ⟨_, (conduct.mono lawful).append (.noted _ .done)⟩

omit [Transport σ] in
theorem size_refill (cycle : Cycle) (buffer : Array UInt16) (first : Nat)
    (words : Array UInt16) :
    (refill cycle buffer first words).size = buffer.size := by
  unfold refill
  split
  · exact size_overwrite _ _ _
  · rfl

theorem BlockStep.size_moved {reply : Except BusError Completion}
    {result : Except BusError Unit}
    (step : BlockStep cycle engine buffer address count reply moved
      result stopped) :
    moved.size = buffer.size := by
  cases step with
  | failed => rfl
  | timedOut | acknowledged => exact size_refill _ _ _ _

omit [Transport σ] in
theorem range_within {range : AddressRange} {bufferWords : Nat}
    (accepted : checkRange engine.width range bufferWords = .ok ()) :
    range.first + 2 * range.wordCount ≤ engine.width.byteCount := by
  obtain ⟨wellFormed, inSpace, _⟩ := checkRange_eq_ok.mp accepted
  have words := AddressRange.firstWord_add_wordCount wellFormed
  have first := AddressRange.first_eq_two_mul wellFormed
  have last := AddressRange.last_eq_two_mul wellFormed
  have odd := engine.width.maxAddress_mod_two
  rw [engine.width.byteCount_eq]
  omega

theorem moveRange_conducted {range : AddressRange}
    {result : Except BusError Unit}
    (ran : moveRange cycle buffer range engine =
      .ok ((moved, result), stopped)) :
    Conducted false engine stopped := by
  cases checked : checkRange engine.width range buffer.size with
  | error fault =>
      rw [moveRange_of_refused checked] at ran
      cases ran
      exact .refl engine
  | ok _ =>
      obtain ⟨start, _, covered, _⟩ := acceptedWords checked
      obtain ⟨reply, step⟩ := (moveRange_eq_ok checked).mp ran
      exact step.conducted (by omega) (range_within checked)

variable [RandomSource γ]

/-- A drawn block stays inside the words that are left to move. -/
theorem BlockStep.conducted_of_drawn {first remaining : Nat}
    {reply : Except BusError Completion} {result : Except BusError Unit}
    (remains : remaining ≠ 0) (covered : first + remaining ≤ buffer.size)
    (bounded : remaining < RandomSource.wordRange)
    (within : 2 * (first + remaining) ≤ engine.width.byteCount)
    (step : BlockStep cycle (engine.drawnLength remaining) buffer (2 * first)
      (engine.nextLength remaining) reply moved result stopped) :
    Conducted false engine stopped := by
  have short := engine.nextLength_le remains bounded
  have inBuffer : 2 * first / 2 + engine.nextLength remaining ≤
      buffer.size := by omega
  have inSpace : 2 * first + 2 * engine.nextLength remaining ≤
      engine.width.byteCount := by
    omega
  exact (step.conducted inBuffer inSpace).drawn

/-- The blocks of a random access stay inside the range that they move. -/
theorem BlockTrace.conducted {first remaining : Nat} {issued : List IssuedBlock}
    {outcome : Except BusError Unit}
    (trace : BlockTrace cycle engine buffer address remaining issued moved
      outcome stopped)
    (start : address = 2 * first) (covered : first + remaining ≤ buffer.size)
    (bounded : remaining < RandomSource.wordRange)
    (within : 2 * (first + remaining) ≤ engine.width.byteCount) :
    Conducted false engine stopped := by
  induction trace generalizing first with
  | done => exact .refl _
  | failed remains step =>
      subst start
      exact step.conducted_of_drawn remains covered bounded within
  | @next engine middle stopped buffer moved last address remaining
      reply blocks result remains step rest induction =>
      subst start
      have short := engine.nextLength_le remains bounded
      have size := step.size_moved
      have head := step.conducted_of_drawn remains covered bounded within
      have tail := induction
        (by omega : _ = 2 * (first + engine.nextLength remaining))
        (by omega) (by omega) (by rw [head.width]; omega)
      exact head.trans tail

theorem accessRandom_conducted {range : AddressRange}
    {result : Except BusError Nat}
    (ran : accessRandom cycle buffer range engine =
      .ok ((moved, result), stopped)) :
    Conducted false engine stopped := by
  cases checked : checkRange engine.width range buffer.size with
  | error fault =>
      rw [accessRandom_of_refused checked] at ran
      cases ran
      exact .refl engine
  | ok _ =>
      obtain ⟨start, _, covered, bounded⟩ := acceptedWords checked
      have within := range_within checked
      obtain ⟨_, _, trace, _⟩ := (accessRandom_eq_ok checked).mp ran
      exact trace.conducted start covered bounded (by omega)

end Blocks

end Engine

end Backplane.Dma
