import Backplane.Proofs.Dma.Spending

/-!
# Splitting a transfer into blocks

Splitting a transfer into blocks does not change its meaning.  Where one block
overflows no clock, neither do the blocks of a random access over the same
words.  Then both leave the same board and the same buffer, end the same way,
and spend the same time in transfers.
-/

namespace Backplane.Dma

open MemoryBoard

namespace Engine

variable {γ : Type} [RandomSource γ]

theorem exists_map_toResult_eq_ok {outcome : Outcome} {value : Nat} :
    (∃ blocks, outcome.toResult.map (fun _ => value) = .ok blocks) ↔
      outcome = .acknowledged := by
  cases outcome with
  | acknowledged => simp [Outcome.toResult, Except.map]
  | timedOut address => simp [Outcome.toResult, Except.map]

theorem map_toResult_eq_error {outcome : Outcome} {value : Nat}
    {fault : BusError} :
    outcome.toResult.map (fun _ => value) = .error fault ↔
      ∃ address, outcome = .timedOut address ∧ fault = .timeout address := by
  cases outcome with
  | acknowledged => simp [Outcome.toResult, Except.map]
  | timedOut address => simp [Outcome.toResult, Except.map, eq_comm]

/-- A buffer after a block read or wrote a part of it. -/
theorem getElem?_refill (cycle : Cycle) {buffer words : Array UInt16}
    {first : Nat} (covered : first + words.size ≤ buffer.size) (index : Nat) :
    (refill cycle buffer first words)[index]? =
      if cycle.isRead = true ∧ first ≤ index ∧ index < first + words.size then
        words[index - first]?
      else
        buffer[index]? := by
  unfold refill
  by_cases reads : cycle.isRead = true
  · rw [if_pos reads, getElem?_overwrite]
    by_cases inBlock : first ≤ index ∧ index < first + words.size
    · have inWords : index - first < words.size := by omega
      rw [if_pos ⟨by omega, inBlock⟩, if_pos ⟨reads, inBlock⟩,
        Array.getElem?_eq_getElem inWords, Array.getD, dif_pos inWords]
      rfl
    · rw [if_neg fun inside => inBlock inside.2, if_neg fun inside =>
        inBlock inside.2]
  · rw [if_neg reads, if_neg fun inside => reads inside.1]

/-- An accepted random access and one blocking transfer of the same words leave
the same board and the same buffer, end the same way, and take the same time
on the bus.  In the buffer of a read, the words of the range are those that the
transfer comes back with; all other words are kept. -/
theorem accessRandom_eq_single_block {cycle : Cycle}
    {engine stopped : Engine SimulatedBus γ} {buffer : Array UInt16}
    {range : AddressRange}
    {reply : Except BusError (Option Completion × Array UInt16)}
    (accepted : checkRange engine.width range buffer.size = .ok ())
    (single : transfer true cycle range.first
      (.facing cycle (buffer.extract range.firstWord (range.lastWord + 1)))
        engine = .ok (reply, stopped)) :
    ∃ completion words issued outcome moved result randomStopped,
      reply = .ok (some completion, words) ∧
      BlockTrace cycle engine buffer range.first range.wordCount
        issued moved outcome randomStopped ∧
      accessRandom cycle buffer range engine =
        .ok ((moved, result), randomStopped) ∧
      randomStopped.transport.board = stopped.transport.board ∧
      words.size = range.wordCount ∧
      (∀ index, moved[index]? =
        if cycle.isRead = true ∧ range.firstWord ≤ index ∧
            index ≤ range.lastWord then
          words[index - range.firstWord]?
        else
          buffer[index]?) ∧
      ((∃ blocks, result = .ok blocks) ↔ completion.outcome = .acknowledged) ∧
      (∀ fault, result = .error fault ↔
        ∃ address, completion.outcome = .timedOut address ∧
          fault = .timeout address) ∧
      totalElapsed issued = completion.elapsed := by
  obtain ⟨start, positive, covered, bounded⟩ := acceptedWords accepted
  have ends := AddressRange.firstWord_add_wordCount
    (checkRange_eq_ok.mp accepted).1
  have within := engine.transport.board.answered_le (2 * range.firstWord)
    range.wordCount
  rw [start, ← ends] at single
  obtain ⟨affords, rfl, rfl⟩ := (transfer_block positive covered).mp single
  obtain ⟨issued, moved, outcome, randomStopped, trace⟩ :
      ∃ issued moved outcome randomStopped, BlockTrace cycle engine buffer
        (2 * range.firstWord) range.wordCount issued moved outcome
        randomStopped :=
    exists_blockTrace covered bounded affords
  have effect := trace.transferEffect rfl covered bounded
  have sliceSize : (buffer.extract range.firstWord
      (range.firstWord + range.wordCount)).size = range.wordCount := by
    rw [Array.size_extract]
    omega
  have size :=
    (engine.transport.board.size_wordsAfter cycle (2 * range.firstWord)
      (buffer.extract range.firstWord (range.firstWord + range.wordCount)) 0
      (engine.transport.board.answered (2 * range.firstWord)
        range.wordCount)).trans sliceSize
  rw [← start] at trace
  refine ⟨_, _, issued, outcome, moved, _, randomStopped, rfl, trace,
    (accessRandom_eq_ok accepted).mpr ⟨issued, outcome, trace, rfl⟩, ?_,
    size, ?_, ?_, ?_, effect.elapsed⟩
  · rw [effect.board, ← boardAfter_extract _ _ _ covered within]
    simp only [afterRequest, SimulatedBus.after, Request.words,
      Buffer.words_facing, sliceSize,
      boardBehind_of_faces (Buffer.isSink_facing _ _)]
    rfl
  · intro index
    have wordsFit :=
      Nat.le_trans (Nat.add_le_add_left (Nat.le_of_eq size) _) covered
    rw [effect.moved, ← refill_wordsAfter _ _ _ covered within,
      getElem?_refill cycle wordsFit, size, ends]
    simp only [Nat.lt_succ_iff]
  · rw [effect.result]
    exact exists_map_toResult_eq_ok
  · intro fault
    rw [effect.result]
    exact map_toResult_eq_error

/-- An engine on a board of three words. -/
def threeWordEngine : Engine SimulatedBus Tape where
  transport := { board := { MemoryBoard.empty with cells := #[1, 2, 3] } }
  width := .bits16
  config := {}
  generator := .repeating #[0x80000000, 0x12345678, 0xffffffff]

/-- A random access to four words ends at the missing fourth one, as one block
does, and leaves the fourth word of the buffer as it was. -/
theorem accessRandom_past_three_words :
    checkRange .bits16 ⟨0, 6⟩ 4 = .ok () ∧
      (∃ reply stopped, transfer true .dataIn 0
        (.facing .dataIn ((#[9, 9, 9, 9] : Array UInt16).extract 0 4))
          threeWordEngine = .ok (reply, stopped)) ∧
      ∃ stopped, accessRandom .dataIn #[9, 9, 9, 9] ⟨0, 6⟩ threeWordEngine =
        .ok ((#[1, 2, 3, 9], .error (.timeout 6)), stopped) := by
  have accepted : checkRange .bits16 ⟨0, 6⟩ 4 = .ok () :=
    checkRange_eq_ok.mpr (by decide)
  have affords : threeWordEngine.Affords 13 := by decide
  have single := (@transfer_simulated Tape threeWordEngine _ .dataIn 0
    ((#[9, 9, 9, 9] : Array UInt16).extract 0 4) _ rfl (by decide)).mpr
      ⟨affords, rfl, rfl⟩
  refine ⟨accepted, ⟨_, _, single⟩, ?_⟩
  obtain ⟨completion, words, issued, outcome, moved, result, stopped,
      reply, _, ran, _, _,
    content, _, failure, _⟩ :=
    @accessRandom_eq_single_block Tape _ .dataIn threeWordEngine _
      #[9, 9, 9, 9] ⟨0, 6⟩ _ accepted single
  cases reply
  have timeout := (failure (.timeout 6)).mpr ⟨6, by decide, rfl⟩
  have back : (threeWordEngine.transport.replyTo ⟨31, .dataIn, 0,
      .facing .dataIn ((#[9, 9, 9, 9] : Array UInt16).extract 0 4),
      true⟩).words = #[1, 2, 3, 9] := by
    cbv
  have kept : moved = #[1, 2, 3, 9] := by
    apply Array.ext_getElem?
    intro index
    rw [content index]
    split
    · exact congrArg (·[index]?) back
    · rename_i outside
      have behind : 4 ≤ index := Nat.le_of_not_lt fun inside =>
        outside ⟨rfl, Nat.zero_le index, Nat.le_of_lt_succ inside⟩
      rw [Array.getElem?_eq_none behind, Array.getElem?_eq_none behind]
  rw [timeout, kept] at ran
  exact ⟨stopped, ran⟩

end Engine

end Backplane.Dma
