import Backplane.Proofs.Memory.Aliasing

/-!
# Boards without faults

On a board without stuck bits and without a shorted address line every word has
a cell of its own.  What a cell holds after a row of stores is a function of
the stores alone: a word store replaces the content, a byte store its low byte.
-/

namespace Backplane

/-- A value on its way into the cell of a word. -/
structure Store where
  word : Nat
  /-- Whether only the low byte is stored. -/
  lowByte : Bool
  value : UInt16
deriving DecidableEq

namespace Store

/-- The content of the cell of a word after a store. -/
def onto (store : Store) (word : Nat) (content : UInt16) : UInt16 :=
  if store.word = word then
    if store.lowByte then
      UInt16.ofNat (content.toNat / 256 * 256 + store.value.toNat % 256)
    else
      store.value
  else
    content

/-- The content of the cell of a word after stores, the first of them first. -/
def replay (stores : List Store) (word : Nat) (content : UInt16) : UInt16 :=
  stores.foldl (fun content store => store.onto word content) content

theorem replay_append (first rest : List Store) (word : Nat)
    (content : UInt16) :
    replay (first ++ rest) word content =
      replay rest word (replay first word content) :=
  List.foldl_append

theorem replay_of_untouched {stores : List Store} {word : Nat}
    (untouched : ∀ store ∈ stores, store.word ≠ word) (content : UInt16) :
    replay stores word content = content := by
  induction stores with
  | nil => rfl
  | cons store stores induction =>
      obtain ⟨elsewhere, others⟩ := List.forall_mem_cons.mp untouched
      change replay stores word (store.onto word content) = content
      rw [onto, if_neg elsewhere, induction others]

end Store

namespace MemoryBoard

theorem highByte_eq {content : Nat} (bounded : content < 65536) :
    content &&& 0xff00 = content / 256 * 256 := by
  have mask (bit : Nat) : Nat.testBit 0xff00 bit =
      (decide (8 ≤ bit) && decide (bit - 8 < 8)) := by
    have shifted : 0xff00 = 0xff <<< 8 := rfl
    rw [shifted, Nat.testBit_shiftLeft]
    exact congrArg _ (Nat.testBit_two_pow_sub_one 8 (bit - 8))
  have high (bit : Nat) : (content / 256 * 256).testBit bit =
      (decide (8 ≤ bit) && content.testBit (bit - 8 + 8)) := by
    have shifted : content / 256 * 256 = (content / 256) <<< 8 :=
      (Nat.shiftLeft_eq (content / 256) 8).symm
    rw [shifted, Nat.testBit_shiftLeft]
    exact congrArg _ (@Nat.testBit_div_two_pow 8 content (bit - 8))
  apply Nat.eq_of_testBit_eq
  intro bit
  rw [Nat.testBit_and, mask, high]
  by_cases upper : 8 ≤ bit
  · by_cases beyond : 16 ≤ bit
    · have clear : content.testBit bit = false := Nat.testBit_lt_two_pow
        (Nat.lt_of_lt_of_le bounded
          (Nat.pow_le_pow_right Nat.zero_lt_two beyond))
      simp [clear, Nat.sub_add_cancel upper]
    · have within : bit - 8 < 8 := by omega
      simp [upper, within, Nat.sub_add_cancel upper]
  · simp [upper]

/-- A byte write joins the high byte of the content and the low byte of the
value. -/
theorem merge_dataOutByte (content value : UInt16) :
    merge .dataOutByte content value =
      UInt16.ofNat (content.toNat / 256 * 256 + value.toNat % 256) := by
  have bounded := content.toNat_lt
  have lowByte : value.toNat &&& 0xff = value.toNat % 256 :=
    Nat.and_two_pow_sub_one_eq_mod value.toNat 8
  have joined : content.toNat / 256 * 256 ||| value.toNat % 256 =
      content.toNat / 256 * 256 + value.toNat % 256 := by
    have below : value.toNat % 256 < 256 := Nat.mod_lt _ (by decide)
    have shifted : content.toNat / 256 * 256 = (content.toNat / 256) <<< 8 :=
      (Nat.shiftLeft_eq (content.toNat / 256) 8).symm
    rw [shifted]
    exact (Nat.shiftLeft_add_eq_or_of_lt below _).symm
  apply UInt16.toNat_inj.mp
  change ((content &&& 0xff00) ||| (value &&& 0x00ff)).toNat = _
  rw [UInt16.toNat_or, UInt16.toNat_and, UInt16.toNat_and, UInt16.toNat_ofNat',
    Nat.mod_eq_of_lt (by omega), ← joined, ← lowByte, ← highByte_eq bounded]
  rfl

/-- What a write cycle stores into the cell of a word. -/
def storeOf (cycle : Cycle) (word : Nat) (value : UInt16) : Store :=
  ⟨word, cycle = .dataOutByte, value⟩

theorem merge_eq_onto (cycle : Cycle) (word : Nat) (content value : UInt16) :
    merge cycle content value =
      (storeOf cycle word value).onto word content := by
  unfold Store.onto storeOf
  rw [if_pos rfl]
  by_cases byte : cycle = .dataOutByte
  · subst byte
    exact merge_dataOutByte content value
  · simp [merge, byte]

/-- No bit is stuck, and no address line is shorted. -/
structure Healthy (board : MemoryBoard) : Prop where
  line : board.stuckLine? = none
  bits : ∀ address, board.stuckAt address = 0

namespace Healthy

variable {board other : MemoryBoard} {word : Nat}

theorem of_sameWiring (healthy : board.Healthy)
    (same : SameWiring other board) : other.Healthy where
  line := same.stuckLine.trans healthy.line
  bits address := (same.stuckAt address).trans (healthy.bits address)

theorem select?_eq (healthy : board.Healthy) (word : Nat) :
    board.select? (2 * word) = if word < board.cells.size then some word
      else none := by
  have half : 2 * word / 2 = word := Nat.mul_div_cancel_left word (by decide)
  simp only [select?, driven, healthy.line, half]

theorem deliver_eq (healthy : board.Healthy) (word : Nat) :
    board.deliver (2 * word) = board.cell word := by
  have half : 2 * word / 2 = word := Nat.mul_div_cancel_left word (by decide)
  simp only [deliver, driven, healthy.line, healthy.bits, half, UInt16.or_zero]

theorem answers_iff (healthy : board.Healthy) :
    board.answers (2 * word) = true ↔ word < board.cells.size := by
  simp only [answers, healthy.select?_eq]
  split <;> simp_all

theorem installed (healthy : board.Healthy) {range : AddressRange}
    (wellFormed : range.isWellFormed = true)
    (covered : range.lastWord < board.cells.size) : board.Installed range := by
  intro word inside
  have ends := (AddressRange.mem_words wellFormed).mp inside
  exact healthy.answers_iff.mpr (by omega)

/-- Every word shows what was written to it, whatever that is. -/
theorem faultyWords_eq_nil (healthy : board.Healthy) {range : AddressRange}
    (installed : board.Installed range) (pattern : Array UInt16) :
    board.faultyWords range pattern = [] := by
  apply List.filter_eq_nil_iff.mpr
  intro word inside
  have ownCell (other : Nat) (present : other ∈ range.words) :
      board.select? (2 * other) = some other := by
    rw [healthy.select?_eq,
      if_pos (healthy.answers_iff.mp (installed other present))]
  have writer : board.IsLastWriter range word word := by
    refine ⟨inside, rfl, fun other present sameCell => ?_⟩
    rw [ownCell other present, ownCell word inside] at sameCell
    exact Nat.le_of_eq (Option.some.inj sameCell)
  rw [shown, writer.lastWriter_eq inside, healthy.bits, UInt16.or_zero,
    bne_self_eq_false]
  decide

theorem installed_of_answered (healthy : board.Healthy)
    {first count offset : Nat}
    (answered : offset < board.answered (2 * first) count) :
    first + offset < board.cells.size := by
  have answers := answers_of_lt_answered answered
  rw [← Nat.mul_add] at answers
  exact healthy.answers_iff.mp answers

/-- A write to an installed word is a store into its cell. -/
theorem cell_accept (healthy : board.Healthy)
    (installed : word < board.cells.size) (cycle : Cycle) (value : UInt16)
    (index : Nat) :
    (board.accept cycle (2 * word) value).cell index =
      (storeOf cycle word value).onto index (board.cell index) := by
  simp only [accept, healthy.select?_eq, if_pos installed]
  by_cases here : word = index
  · subst here
    rw [← merge_eq_onto]
    simp [store, MemoryBoard.cell, installed]
  · have elsewhere : (storeOf cycle word value).onto index (board.cell index) =
        board.cell index := if_neg here
    rw [elsewhere]
    simp [store, MemoryBoard.cell, Array.getElem?_setIfInBounds_ne here]

/-- The leading words of a block are stored one after the other. -/
theorem cell_acceptWords (healthy : board.Healthy) (cycle : Cycle) (first : Nat)
    (words : Array UInt16) {count : Nat}
    (installed : ∀ offset < count, first + offset < board.cells.size)
    (index : Nat) :
    (board.acceptWords cycle (2 * first) words 0 count).cell index =
      Store.replay ((List.range count).map fun offset =>
        storeOf cycle (first + offset) (words.getD offset 0)) index
          (board.cell index) := by
  induction count with
  | zero => rfl
  | succ count induction =>
      have same := board.acceptWords_sameWiring cycle (2 * first) words 0 count
      have address : 2 * first + 2 * (0 + count) = 2 * (first + count) := by
        omega
      rw [acceptWords_succ, address, Nat.zero_add,
        (healthy.of_sameWiring same).cell_accept
          (by rw [same.size]; exact installed count (Nat.lt_succ_self count)),
        induction (fun offset before =>
          installed offset (Nat.lt_succ_of_lt before)),
        List.range_succ, List.map_append, Store.replay_append]
      rfl

end Healthy

end MemoryBoard

end Backplane
