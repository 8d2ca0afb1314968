import Backplane.Proofs.Dma.Session
import Backplane.Proofs.Memory.Healthy

/-!
# The bus as a memory

A history of a board is a row of pokes and of calls on engines.  What each of
them stores is read off the call and the way it ended.  On a board without
faults every word that is read is the one that the stores before it have left
at its address.
-/

namespace Backplane

open Dma

namespace Dma

/-- The words that a call would move: `words` from word number `first` on. -/
structure Extent where
  cycle : Cycle
  first : Nat
  words : Array UInt16

/-- The words of a range in a buffer. -/
def Extent.ofRange (cycle : Cycle) (buffer : Array UInt16)
    (range : AddressRange) : Extent where
  cycle := cycle
  first := range.firstWord
  words := buffer.extract range.firstWord (range.firstWord + range.wordCount)

def Call.extent : Call → Extent
  | .transfer _ cycle start buffer => ⟨cycle, start / 2, buffer.words⟩
  | .writeRange buffer range => .ofRange .dataOut buffer range
  | .readRange buffer range => .ofRange .dataIn buffer range
  | .accessRandom cycle buffer range => .ofRange cycle buffer range
  | .takeCompletion => ⟨.dataIn, 0, #[]⟩

/-- How the blocks of an operation ended, unless it was refused. -/
def endOf {α : Type} : Except BusError α → Option Outcome
  | .ok _ => some .acknowledged
  | .error fault => fault.faultAddress?.map .timedOut

/-- How a call ended.  Of a block that was not waited for only the completion
that is left to be collected tells it. -/
def Answer.outcome? (pending? : Option Completion) : Answer → Option Outcome
  | .transferred (.ok (completion?, _)) =>
    (completion?.or pending?).map Completion.outcome
  | .transferred (.error _) => none
  | .moved (_, result) => endOf result
  | .accessed (_, result) => endOf result
  | .collected _ => none

/-- The word that came back for the word `index` of a block or of a buffer. -/
def Answer.word (first index : Nat) : Answer → UInt16
  | .transferred (.ok (_, words)) => words.getD index 0
  | .moved (buffer, _) | .accessed (buffer, _) => buffer.getD (first + index) 0
  | _ => 0

namespace Extent

/-- The words that moved: all of them, or those below the silent address. -/
def moved (extent : Extent) : Option Outcome → List Nat
  | none => []
  | some .acknowledged => List.range extent.words.size
  | some (.timedOut fault) =>
    (List.range extent.words.size).filter fun index =>
      2 * (extent.first + index) < fault

end Extent

end Dma

/-- Something that was done to a board: a poke, or a call with what came back
for it and with the completion that the engine keeps. -/
inductive Deed where
  | poke (address : Nat) (value : UInt16)
  | call (made : Call) (answer : Answer) (pending? : Option Completion)

namespace Deed

/-- What it stored. -/
def stores : Deed → List Store
  | poke address value => [⟨address / 2, false, value⟩]
  | call made answer pending? =>
    if made.extent.cycle.isRead then
      []
    else
      (made.extent.moved (answer.outcome? pending?)).map fun index =>
        MemoryBoard.storeOf made.extent.cycle (made.extent.first + index)
          (made.extent.words.getD index 0)

/-- The words that it read, with the values that were delivered. -/
def deliveries : Deed → List (Nat × UInt16)
  | poke .. => []
  | call made answer pending? =>
    if made.extent.cycle.isRead then
      (made.extent.moved (answer.outcome? pending?)).map fun index =>
        (made.extent.first + index, answer.word made.extent.first index)
    else
      []

end Deed

/-- What is done to one board, by pokes and by engines on its bus. -/
inductive History (start : MemoryBoard) : List Deed → MemoryBoard → Prop where
  | nothing : History start [] start
  | poke {deeds : List Deed} {board : MemoryBoard}
      (before : History start deeds board) (address : Nat) (value : UInt16) :
      History start (deeds ++ [.poke address value]) (board.poke address value)
  | call {deeds : List Deed} {γ : Type} [RandomSource γ]
      {engine stopped : Engine SimulatedBus γ} {call : Call} {answer : Answer}
      (before : History start deeds engine.transport.board)
      (ran : call.perform engine = .ok (answer, stopped)) :
      History start (deeds ++ [.call call answer stopped.pending?])
        stopped.transport.board

namespace MemoryBoard

/-- What a call does to the board behind an engine. -/
structure MemoryEffect (before after : MemoryBoard) (deed : Deed) : Prop where
  wiring : SameWiring after before
  stored : ∀ word, after.cell word =
    Store.replay deed.stores word (before.cell word)
  delivered : ∀ word value, (word, value) ∈ deed.deliveries →
    word < before.cells.size ∧ value = before.cell word

theorem MemoryEffect.nothing {board : MemoryBoard} {call : Call}
    {answer : Answer} {pending? : Option Completion}
    (refused : answer.outcome? pending? = none) :
    MemoryEffect board board (.call call answer pending?) := by
  have unmoved : call.extent.moved (answer.outcome? pending?) = [] := by
    rw [refused]
    rfl
  refine ⟨.refl board, ?_, ?_⟩
  · intro word
    simp only [Deed.stores, unmoved, List.map_nil, ite_self]
    rfl
  · intro word value member
    simp only [Deed.deliveries, unmoved, List.map_nil, ite_self] at member
    cases member

/-- The words that moved are those that answered. -/
theorem moved_blockOutcome (board : MemoryBoard) (extent : Extent) :
    extent.moved
      (some (board.blockOutcome (2 * extent.first) extent.words.size)) =
      List.range (board.answered (2 * extent.first) extent.words.size) := by
  have within := board.answered_le (2 * extent.first) extent.words.size
  unfold blockOutcome
  split
  · rename_i full
    rw [full]
    rfl
  · obtain ⟨rest, whole⟩ := Nat.exists_eq_add_of_le within
    simp only [Extent.moved]
    rw [← Nat.mul_add]
    generalize board.answered (2 * extent.first) extent.words.size =
      bound at whole ⊢
    -- The silent address is that of the first word that did not answer.
    have below : (List.range bound).filter
        (fun index => 2 * (extent.first + index) < 2 * (extent.first + bound)) =
          List.range bound := by
      refine List.filter_eq_self.mpr fun index member => decide_eq_true ?_
      have before := List.mem_range.mp member
      omega
    have above : ((List.range rest).map (bound + ·)).filter
        (fun index => 2 * (extent.first + index) < 2 * (extent.first + bound)) =
        [] := by
      refine List.filter_eq_nil_iff.mpr fun index member reached => ?_
      obtain ⟨offset, _, rfl⟩ := List.mem_map.mp member
      have before := of_decide_eq_true reached
      omega
    rw [whole, List.range_add, List.filter_append, below, above,
      List.append_nil]

theorem MemoryEffect.of_block {before after : MemoryBoard} {made : Call}
    {answer : Answer} {pending? : Option Completion} (healthy : before.Healthy)
    (outcome : answer.outcome? pending? =
      some (before.blockOutcome (2 * made.extent.first) made.extent.words.size))
    (board : after = before.boardAfter made.extent.cycle (2 * made.extent.first)
      made.extent.words 0
        (before.answered (2 * made.extent.first) made.extent.words.size))
    (words : made.extent.cycle.isRead = true →
      ∀ index < before.answered (2 * made.extent.first) made.extent.words.size,
        answer.word made.extent.first index =
          before.deliver (2 * made.extent.first + 2 * index)) :
    MemoryEffect before after (.call made answer pending?) := by
  have moved := moved_blockOutcome before made.extent
  rw [← outcome] at moved
  refine ⟨?_, ?_, ?_⟩
  · rw [board]
    exact boardAfter_sameWiring _ _ _ _ _ _
  · intro word
    rw [board]
    simp only [boardAfter, Deed.stores, moved]
    split
    · rfl
    · exact healthy.cell_acceptWords _ _ _
        (fun _ => healthy.installed_of_answered) word
  · intro word value member
    simp only [Deed.deliveries, moved] at member
    split at member
    · rename_i reads
      obtain ⟨index, before, same⟩ := List.mem_map.mp member
      cases same
      have answered := List.mem_range.mp before
      rw [words reads index answered, ← Nat.mul_add, healthy.deliver_eq]
      exact ⟨healthy.installed_of_answered answered, rfl⟩
    · cases member

end MemoryBoard

namespace Dma.Call

open Engine MemoryBoard

variable {γ : Type} {engine stopped : Engine SimulatedBus γ}

theorem endOf_toResult (outcome : Outcome) :
    endOf outcome.toResult = some outcome := by
  cases outcome <;> rfl

theorem endOf_map {α β : Type} (result : Except BusError α) (change : α → β) :
    endOf (result.map change) = endOf result := by
  cases result <;> rfl

/-- A call that the range check refuses moves nothing. -/
theorem endOf_of_refused (α : Type) {width : AddressWidth}
    {range : AddressRange} {words : Nat} {fault : BusError}
    (refused : checkRange width range words = .error fault) :
    endOf (.error fault : Except BusError α) = none := by
  unfold checkRange at refused
  split at refused
  · cases refused
    rfl
  · split at refused
    · cases refused
      rfl
    · split at refused
      · cases refused
        rfl
      · cases refused

theorem transfer_memoryEffect {blocking : Bool} {cycle : Cycle} {start : Nat}
    {buffer : Buffer}
    {reply : Except BusError (Option Completion × Array UInt16)}
    (healthy : engine.transport.board.Healthy)
    (ran : Engine.transfer blocking cycle start buffer engine =
      .ok (reply, stopped)) :
    MemoryEffect engine.transport.board stopped.transport.board
      (.call (.transfer blocking cycle start buffer) (.transferred reply)
        stopped.pending?) := by
  cases built : Request.ofBuffer engine.config.slot cycle start
    buffer blocking with
  | error fault =>
      rw [transfer_of_refused built] at ran
      cases ran
      exact .nothing rfl
  | ok request =>
      obtain ⟨_, rfl, rfl⟩ := (transfer_simulated_of_built built).mp ran
      obtain ⟨faces, _, aligned, rfl⟩ := Request.ofBuffer_eq_ok.mp built
      have address : 2 * (start / 2) = start := by omega
      apply MemoryEffect.of_block healthy
      · simp only [Call.extent, address]
        cases blocking <;> rfl
      · simp only [Call.extent, address]
        rw [← boardBehind_of_faces faces]
        cases blocking <;> rfl
      · simp only [Call.extent, address]
        intro reads index before
        have inside : index < buffer.words.size :=
          Nat.lt_of_lt_of_le before (engine.transport.board.answered_le _ _)
        change (engine.transport.board.wordsBehind start buffer
          (engine.transport.board.answered start buffer.words.size)).getD
            index 0 = _
        rw [wordsBehind_of_faces faces, wordsAfter, if_pos reads,
          getD_deliverWords _ _ _ inside ⟨Nat.zero_le index, by omega⟩]

/-- A transfer over an accepted range, in whatever blocks. -/
theorem range_memoryEffect {cycle : Cycle} {buffer moved : Array UInt16}
    {range : AddressRange} {elapsed : Nat} {result : Except BusError Unit}
    {made : Call} {answer : Answer} {pending? : Option Completion}
    (healthy : engine.transport.board.Healthy)
    (accepted : checkRange engine.width range buffer.size = .ok ())
    (effect : TransferEffect cycle engine buffer range.firstWord
      range.wordCount elapsed moved result stopped)
    (extent : made.extent = .ofRange cycle buffer range)
    (outcome : answer.outcome? pending? = endOf result)
    (words : ∀ index, answer.word range.firstWord index =
      moved.getD (range.firstWord + index) 0) :
    MemoryEffect engine.transport.board stopped.transport.board
      (.call made answer pending?) := by
  have covered := (acceptedWords accepted).covered
  have within := engine.transport.board.answered_le (2 * range.firstWord)
    range.wordCount
  have size : (Extent.ofRange cycle buffer range).words.size =
      range.wordCount := by
    simp only [Extent.ofRange, Array.size_extract]
    omega
  apply MemoryEffect.of_block healthy
  · rw [outcome, extent, size, effect.result]
    exact endOf_toResult _
  · rw [extent, size, effect.board]
    exact (boardAfter_extract _ _ _ covered within).symm
  · rw [extent, size]
    intro reads index before
    change cycle.isRead = true at reads
    change index < engine.transport.board.answered (2 * range.firstWord) _
      at before
    have address : 2 * range.firstWord + 2 * index =
        0 + 2 * (range.firstWord + index) := by
      omega
    change answer.word range.firstWord index =
      engine.transport.board.deliver (2 * range.firstWord + 2 * index)
    rw [words, effect.moved, wordsAfter, if_pos reads, address]
    exact getD_deliverWords _ _ _ (by omega) (by omega)

theorem move_memoryEffect {cycle : Cycle} {buffer : Array UInt16}
    {range : AddressRange} {reply : Array UInt16 × Except BusError Unit}
    {made : Call} {pending? : Option Completion}
    (healthy : engine.transport.board.Healthy)
    (ran : moveRange cycle buffer range engine = .ok (reply, stopped))
    (extent : made.extent = .ofRange cycle buffer range) :
    MemoryEffect engine.transport.board stopped.transport.board
      (.call made (.moved reply) pending?) := by
  cases checked : checkRange engine.width range buffer.size with
  | error fault =>
      rw [moveRange_of_refused checked] at ran
      cases ran
      exact .nothing (endOf_of_refused Unit checked)
  | ok _ =>
      obtain ⟨elapsed, effect⟩ := moveRange_transferEffect checked ran
      exact range_memoryEffect healthy checked effect extent rfl fun _ => rfl

variable [RandomSource γ]

theorem access_memoryEffect {cycle : Cycle} {buffer : Array UInt16}
    {range : AddressRange} {reply : Array UInt16 × Except BusError Nat}
    {made : Call} {pending? : Option Completion}
    (healthy : engine.transport.board.Healthy)
    (ran : Engine.accessRandom cycle buffer range engine = .ok (reply, stopped))
    (extent : made.extent = .ofRange cycle buffer range) :
    MemoryEffect engine.transport.board stopped.transport.board
      (.call made (.accessed reply) pending?) := by
  cases checked : checkRange engine.width range buffer.size with
  | error fault =>
      rw [accessRandom_of_refused checked] at ran
      cases ran
      exact .nothing (endOf_of_refused Nat checked)
  | ok _ =>
      obtain ⟨issued, outcome, blocks, effect⟩ :=
        accessRandom_transferEffect checked ran
      refine range_memoryEffect healthy checked effect extent ?_ fun _ => rfl
      rw [Answer.outcome?, blocks, endOf_map]

theorem perform_memoryEffect {call : Call} {answer : Answer}
    (healthy : engine.transport.board.Healthy)
    (ran : call.perform engine = .ok (answer, stopped)) :
    MemoryEffect engine.transport.board stopped.transport.board
      (.call call answer stopped.pending?) := by
  cases call with
  | transfer =>
      obtain ⟨_, performed, rfl⟩ := Timed.map_eq_ok.mp ran
      exact transfer_memoryEffect healthy performed
  | writeRange =>
      obtain ⟨_, performed, rfl⟩ := Timed.map_eq_ok.mp ran
      exact move_memoryEffect healthy performed rfl
  | readRange =>
      obtain ⟨_, performed, rfl⟩ := Timed.map_eq_ok.mp ran
      exact move_memoryEffect healthy performed rfl
  | accessRandom =>
      obtain ⟨_, performed, rfl⟩ := Timed.map_eq_ok.mp ran
      exact access_memoryEffect healthy performed rfl
  | takeCompletion =>
      cases ran
      exact .nothing rfl

end Dma.Call

namespace History

open MemoryBoard

variable {start board : MemoryBoard} {deeds : List Deed}

theorem poke_sameWiring (board : MemoryBoard) (address : Nat) (value : UInt16) :
    SameWiring (board.poke address value) board :=
  ⟨Array.size_setIfInBounds, rfl, rfl⟩

theorem cell_poke {word : Nat} (installed : word < board.cells.size)
    (address : Nat) (value : UInt16) :
    (board.poke address value).cell word =
      Store.replay (Deed.poke address value).stores word (board.cell word) := by
  change _ = Store.onto ⟨address / 2, false, value⟩ word (board.cell word)
  by_cases here : address / 2 = word
  · subst here
    simp [MemoryBoard.poke, MemoryBoard.cell, Store.onto, installed]
  · simp [MemoryBoard.poke, MemoryBoard.cell, Store.onto, here,
      Array.getElem?_setIfInBounds_ne here]

theorem sameWiring (history : History start deeds board)
    (healthy : start.Healthy) : SameWiring board start := by
  -- Wiring comes before content: what a call stores is known on healthy boards
  -- only.
  induction history with
  | nothing => exact .refl start
  | poke before address value induction =>
      exact (poke_sameWiring _ _ _).trans induction
  | call before ran induction =>
      have effect :=
        Call.perform_memoryEffect (healthy.of_sameWiring induction) ran
      exact effect.wiring.trans induction

theorem memoryEffect {γ : Type} [RandomSource γ]
    {engine stopped : Engine SimulatedBus γ} {call : Call} {answer : Answer}
    (before : History start deeds engine.transport.board)
    (healthy : start.Healthy)
    (ran : call.perform engine = .ok (answer, stopped)) :
    MemoryEffect engine.transport.board stopped.transport.board
      (.call call answer stopped.pending?) :=
  Call.perform_memoryEffect
    (healthy.of_sameWiring (before.sameWiring healthy)) ran

/-- Every installed cell holds what the stores have left in it. -/
theorem cell_eq (history : History start deeds board) (healthy : start.Healthy)
    {word : Nat} (installed : word < start.cells.size) :
    board.cell word =
      Store.replay (deeds.flatMap Deed.stores) word (start.cell word) := by
  induction history with
  | nothing => rfl
  | poke before address value induction =>
      rw [List.flatMap_append, Store.replay_append, ← induction,
        List.flatMap_singleton]
      exact cell_poke
        (by rw [(before.sameWiring healthy).size]; exact installed) _ _
  | call before ran induction =>
      rw [List.flatMap_append, Store.replay_append, ← induction,
        List.flatMap_singleton]
      exact (before.memoryEffect healthy ran).stored word

theorem peek?_eq (history : History start deeds board) (healthy : start.Healthy)
    (address : Nat) :
    board.peek? address =
      if address / 2 < start.cells.size then
        some (Store.replay (deeds.flatMap Deed.stores) (address / 2)
          (start.cell (address / 2)))
      else
        none := by
  have size := (history.sameWiring healthy).size
  split
  · rename_i installed
    rw [← history.cell_eq healthy installed, MemoryBoard.peek?,
      MemoryBoard.cell, Array.getElem?_eq_getElem (by omega), Array.getD,
      dif_pos (by omega)]
    rfl
  · exact Array.getElem?_eq_none (by omega)

private theorem split_of_snoc {deed last : Deed} {earlier later : List Deed}
    (split : deeds ++ [last] = earlier ++ deed :: later) :
    (earlier = deeds ∧ deed = last) ∨
      ∃ rest, deeds = earlier ++ deed :: rest := by
  rcases List.eq_nil_or_concat later with rfl | ⟨rest, final, rfl⟩
  · obtain ⟨same, single⟩ := List.append_inj' split rfl
    cases single
    exact .inl ⟨same.symm, rfl⟩
  · rw [List.concat_eq_append, ← List.cons_append, ← List.append_assoc] at split
    exact .inr ⟨rest, (List.append_inj' split rfl).1⟩

/-- What a deed of a history delivers is what the stores before it have left. -/
theorem deliveries_eq (history : History start deeds board)
    (healthy : start.Healthy) {earlier later : List Deed} {deed : Deed}
    (split : deeds = earlier ++ deed :: later) {word : Nat} {value : UInt16}
    (delivered : (word, value) ∈ deed.deliveries) :
    value = Store.replay (earlier.flatMap Deed.stores) word
      (start.cell word) := by
  induction history generalizing later with
  | nothing => exact absurd split.symm (by simp)
  | poke before address poked induction =>
      rcases split_of_snoc split with ⟨_, rfl⟩ | ⟨rest, inBefore⟩
      · cases delivered
      · exact induction inBefore
  | call before ran induction =>
      rcases split_of_snoc split with ⟨rfl, rfl⟩ | ⟨rest, inBefore⟩
      · have wiring := before.sameWiring healthy
        have effect :=
          Call.perform_memoryEffect (healthy.of_sameWiring wiring) ran
        obtain ⟨installed, same⟩ := effect.delivered word value delivered
        rw [same]
        exact before.cell_eq healthy (wiring.size ▸ installed)
      · exact induction inBefore

theorem cell_of_untouched (history : History start deeds board)
    (healthy : start.Healthy) {word : Nat}
    (untouched : ∀ store ∈ deeds.flatMap Deed.stores, store.word ≠ word) :
    board.cell word = start.cell word := by
  by_cases installed : word < start.cells.size
  · rw [history.cell_eq healthy installed, Store.replay_of_untouched untouched]
  · have size := (history.sameWiring healthy).size
    rw [MemoryBoard.cell, MemoryBoard.cell, Array.getD,
      dif_neg (by omega), Array.getD, dif_neg installed]

theorem cell_install (base : MemoryBoard) (bytes word : Nat) :
    (base.install bytes).cell word = 0 := by
  change (Array.replicate (bytes / 2) (0 : UInt16)).getD word 0 = 0
  rw [Array.getD_eq_getD_getElem?, Array.getElem?_replicate]
  split <;> rfl

/-- A board without faults is a memory.  Every word that is read is the one that
the stores before the read have left at its address, and so is every word found
at the end.  Words that nothing was stored to keep their content, which is zero
as installed. -/
theorem reads_latest_stores (healthy : start.Healthy)
    (history : History start deeds board) :
    (∀ earlier deed later, deeds = earlier ++ deed :: later →
      ∀ word value, (word, value) ∈ deed.deliveries →
        value = Store.replay (earlier.flatMap Deed.stores) word
          (start.cell word)) ∧
    (∀ address, board.peek? address =
      if address / 2 < start.cells.size then
        some (Store.replay (deeds.flatMap Deed.stores) (address / 2)
          (start.cell (address / 2)))
      else
        none) ∧
    (∀ word, (∀ store ∈ deeds.flatMap Deed.stores, store.word ≠ word) →
      board.cell word = start.cell word) ∧
    (∀ (base : MemoryBoard) (bytes : Nat), start = base.install bytes →
      ∀ word, start.cell word = 0) := by
  refine ⟨?_, history.peek?_eq healthy, ?_, ?_⟩
  · intro earlier deed later split word value delivered
    exact history.deliveries_eq healthy split delivered
  · intro word untouched
    exact history.cell_of_untouched healthy untouched
  · rintro base bytes rfl word
    exact cell_install base bytes word

def engineOn (board : MemoryBoard) : Engine SimulatedBus Tape where
  transport := { board := board }
  width := .bits16
  config := {}
  generator := .repeating #[0]

theorem transferred {blocking : Bool} {cycle : Cycle} {address : Nat}
    {buffer : Buffer} {request : Request} (before : History start deeds board)
    (built : Request.ofBuffer 31 cycle address buffer blocking = .ok request)
    (affords : (engineOn board).Affords ((engineOn board).cyclesOf request)) :
    History start
      (deeds ++ [.call (.transfer blocking cycle address buffer)
        (.transferred (.ok
          (if blocking then some ((engineOn board).completionOf request)
            else none,
            ((engineOn board).transport.replyTo request).words)))
        (if blocking then none else some
          ((engineOn board).completionOf request))])
      ((engineOn board).transport.after request).board := by
  have ran :=
    (@Engine.transfer_simulated_of_built _ (engineOn board) _ _ _ _ _ _ _
      built).mpr ⟨affords, rfl, rfl⟩
  have performed := @History.call _ _ _ _ (engineOn board) _
    (.transfer blocking cycle address buffer) _ before
    (Timed.map_eq_ok.mpr ⟨_, ran, rfl⟩)
  cases blocking
  · exact performed
  · exact performed

/-- A word is poked beside another, a block of bytes over both that nobody waits
for times out behind them, and both are read back. -/
theorem reads_latest_stores_of_two_words :
    (MemoryBoard.empty.install 4).Healthy ∧
      ∃ earlier deed board,
        History (MemoryBoard.empty.install 4) (earlier ++ [deed]) board ∧
        deed.deliveries.map Prod.fst = [0, 1] ∧
        (∀ value, (0, value) ∈ deed.deliveries → value = 0x00ff) ∧
        ∀ value, (1, value) ∈ deed.deliveries → value = 0x43ee := by
  have healthy : (MemoryBoard.empty.install 4).Healthy :=
    ⟨rfl, fun _ => Std.HashMap.getD_empty⟩
  have issued : Request.ofBuffer 31 .dataOutByte 0
      (.source #[0xff, 0xee, 0xdd]) false =
      .ok ⟨31, .dataOutByte, 0, .source #[0xff, 0xee, 0xdd], false⟩ :=
    Request.ofBuffer_eq_ok.mpr ⟨rfl, by decide, rfl, rfl⟩
  have asked : Request.ofBuffer 31 .dataIn 0 (.sink #[0, 0]) true =
      .ok ⟨31, .dataIn, 0, .sink #[0, 0], true⟩ :=
    Request.ofBuffer_eq_ok.mpr ⟨rfl, by decide, rfl, rfl⟩
  have poked : History (MemoryBoard.empty.install 4) [.poke 2 0x4321] _ :=
    History.nothing.poke 2 0x4321
  have written := poked.transferred issued (by decide)
  have history := written.transferred asked (by decide)
  have latest := (reads_latest_stores healthy history).1 _ _ [] rfl
  refine ⟨healthy, _, _, _, history, by decide +kernel, ?_, ?_⟩
  · intro value read
    exact (latest 0 value read).trans (by decide +kernel)
  · intro value read
    exact (latest 1 value read).trans (by decide +kernel)

end History

end Backplane
