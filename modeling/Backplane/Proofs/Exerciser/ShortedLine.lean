import Backplane.Proofs.Exerciser.FaultPicture
import Backplane.Proofs.Memory.ShortedLine

/-!
# Finding a shorted address line

The address pattern differs between any two words whose addresses differ in one
line.  A shorted line is therefore found in the first pass, at exactly the words
that it hides, and the words found there tell where they came from.
-/

namespace Backplane.Exerciser

open Dma MemoryBoard

/-- Each bit of the pattern is a bit of the word number, with the bit sixteen
lines above it folded in. -/
theorem testBit_patternWord (word : Nat) {bit : Nat} (low : bit < 16) :
    (patternWord (2 * word)).toNat.testBit bit =
      (word.testBit bit ^^ word.testBit (bit + 16)) := by
  have half : 2 * word / 2 = word := by omega
  have upper : 2 * word / 0x20000 = word / 0x10000 := by omega
  have lowBits (number : Nat) :
      (number % 0x10000).testBit bit =
      (decide (bit < 16) && number.testBit bit) :=
    Nat.testBit_mod_two_pow number 16 bit
  have highBits : (word / 0x10000).testBit bit = word.testBit (bit + 16) :=
    (Nat.testBit_add word bit 16).symm
  have folded : (patternWord (2 * word)).toNat =
      (word % 0x10000 ^^^ word / 0x10000) % 0x10000 := by
    rw [patternWord, half, upper]
    rfl
  rw [folded, lowBits, Nat.testBit_xor, lowBits, highBits]
  simp [low]

/-- Words that differ in one line hold different patterns. -/
theorem patternWord_ne {word bit : Nat} (clear : word.testBit bit = false)
    (onBus : bit < 32) :
    patternWord (2 * (word + 1 <<< bit)) ≠ patternWord (2 * word) := by
  intro same
  have raised (index : Nat) : (word + 1 <<< bit).testBit index =
      (word.testBit index || decide (index = bit)) := by
    rw [← or_shiftLeft_eq_add clear, Nat.testBit_or, Nat.one_shiftLeft,
      Nat.testBit_two_pow]
    simp only [eq_comm]
  have bits (index : Nat) (low : index < 16) :
      ((word + 1 <<< bit).testBit index ^^ (word + 1 <<< bit).testBit
        (index + 16)) = (word.testBit index ^^ word.testBit (index + 16)) := by
    rw [← testBit_patternWord _ low, ← testBit_patternWord _ low, same]
  by_cases low : bit < 16
  · have changed := bits bit low
    rw [raised, raised, clear] at changed
    simp at changed
  · -- A line above is seen where it is folded in.
    have changed := bits (bit - 16) (by omega)
    have folded : bit - 16 + 16 = bit := by omega
    have other : bit - 16 ≠ bit := by omega
    rw [raised, raised, folded, clear] at changed
    simp [other] at changed

theorem getD_addressPattern {words word : Nat} (inside : word < words) :
    (addressPattern words).getD word 0 = patternWord (2 * word) := by
  simp [addressPattern, inside]

section Shorted

variable {board : MemoryBoard} {range : AddressRange} {bit : Nat}

theorem shown_of_hidden (wellFormed : range.isWellFormed = true)
    (installed : board.Installed range)
    (stuck : board.stuckLine? = some (bit + 1))
    (unstuck : ∀ address, board.stuckAt address = 0) {word : Nat}
    (inside : word ∈ range.words) (clear : word.testBit bit = false)
    (reaches : word + 1 <<< bit ∈ range.words) :
    board.shown range (addressPattern (range.lastWord + 1)) word =
      patternWord (2 * (word + 1 <<< bit)) := by
  have ends := (AddressRange.mem_words wellFormed).mp reaches
  rw [shown, unstuck, UInt16.or_zero,
    lastWriter_of_hidden stuck installed inside clear reaches,
    getD_addressPattern (by omega)]

theorem shown_of_not_hidden (wellFormed : range.isWellFormed = true)
    (installed : board.Installed range)
    (stuck : board.stuckLine? = some (bit + 1))
    (unstuck : ∀ address, board.stuckAt address = 0) {word : Nat}
    (inside : word ∈ range.words)
    (alone : word.testBit bit = false → word + 1 <<< bit ∉ range.words) :
    board.shown range (addressPattern (range.lastWord + 1)) word =
      patternWord (2 * word) := by
  have ends := (AddressRange.mem_words wellFormed).mp inside
  rw [shown, unstuck, UInt16.or_zero,
    lastWriter_of_not_hidden stuck installed inside alone,
    getD_addressPattern (by omega)]

/-- Behind a shorted line the address pattern fails at the hidden words. -/
theorem faultyWords_of_stuckLine (wellFormed : range.isWellFormed = true)
    (installed : board.Installed range)
    (stuck : board.stuckLine? = some (bit + 1)) (onBus : bit < 32)
    (unstuck : ∀ address, board.stuckAt address = 0) :
    board.faultyWords range (addressPattern (range.lastWord + 1)) =
      hiddenWords range (bit + 1) := by
  apply List.filter_congr
  intro word inside
  have ends := (AddressRange.mem_words wellFormed).mp inside
  have hiddenIff : word ∈ hiddenWords range (bit + 1) ↔ _ :=
    mem_hiddenWords wellFormed
  rw [hiddenWords, List.mem_filter] at hiddenIff
  rw [getD_addressPattern (by omega), Bool.eq_iff_iff, bne_iff_ne]
  by_cases hidden : word.testBit bit = false ∧ word + 1 <<< bit ∈ range.words
  · obtain ⟨clear, reaches⟩ := hidden
    rw [shown_of_hidden wellFormed installed stuck unstuck inside clear reaches]
    exact iff_of_true (patternWord_ne clear onBus).symm
      (hiddenIff.mpr ⟨inside, clear, reaches⟩).2
  · have alone (clear : word.testBit bit = false) :
        word + 1 <<< bit ∉ range.words :=
      fun reaches => hidden ⟨clear, reaches⟩
    rw [shown_of_not_hidden wellFormed installed stuck unstuck inside alone]
    exact iff_of_false (fun different => different rfl)
      (fun marked => hidden (hiddenIff.mp ⟨inside, marked⟩).2)

/-- The diagnosis of a hidden word names the address that has the line high. -/
theorem diagnose_of_hidden (wellFormed : range.isWellFormed = true)
    (installed : board.Installed range)
    (stuck : board.stuckLine? = some (bit + 1))
    (unstuck : ∀ address, board.stuckAt address = 0) {readback : Array UInt16}
    {word : Nat} (hidden : word ∈ hiddenWords range (bit + 1))
    (shown : readback.getD word 0 =
      board.shown range (addressPattern (range.lastWord + 1)) word)
    {mismatch : Mismatch} (diagnosis : mismatch =
      diagnose (addressPattern (range.lastWord + 1)) readback range word) :
    mismatch.expected = patternWord mismatch.address ∧
      mismatch.found = patternWord (mismatch.address + 1 <<< (bit + 1)) ∧
      mismatch.address + 1 <<< (bit + 1) ∈ mismatch.aliases := by
  obtain ⟨inside, clear, reaches⟩ := (mem_hiddenWords wellFormed).mp hidden
  have ends := (AddressRange.mem_words wellFormed).mp inside
  have raisedEnds := (AddressRange.mem_words wellFormed).mp reaches
  have raised : 2 * word + 1 <<< (bit + 1) = 2 * (word + 1 <<< bit) := by omega
  rw [shown_of_hidden wellFormed installed stuck unstuck inside clear reaches]
    at shown
  subst diagnosis
  refine ⟨getD_addressPattern (by omega), ?_, ?_⟩
  · change readback.getD word 0 = patternWord (2 * word + 1 <<< (bit + 1))
    rw [shown, raised]
  · change 2 * word + 1 <<< (bit + 1) ∈
      aliasesOf _ range word (readback.getD word 0)
    rw [raised, shown]
    apply List.mem_map.mpr
    refine ⟨word + 1 <<< bit, List.mem_filter.mpr ⟨reaches, ?_⟩, rfl⟩
    rw [getD_addressPattern (by omega)]
    simp

end Shorted

/-- A run of the address exerciser finds a shorted line in its first pass, at
exactly the hidden words, and tells for the first of them where the words came
from.  A line that hides no word is never found. -/
theorem run_finds_hidden_words {γ : Type} [RandomSource γ]
    {range : AddressRange} {cancelAfter line : Nat}
    {engine stopped : Engine SimulatedBus γ} {result : Except BusError Report}
    (stuck : engine.transport.board.stuckLine? = some line)
    (onBus : 1 ≤ line ∧ line ≤ 21)
    (unstuck : ∀ address, engine.transport.board.stuckAt address = 0)
    (accepted : checkRange engine.width range = .ok ())
    (installed : engine.transport.board.Installed range)
    (ran : run range .addressPattern cancelAfter engine =
      .ok (result, stopped)) :
    ∃ report,
      result = .ok report ∧
      (hiddenWords range line = [] →
        report.stop = .cancelled ∧ report.mismatchCount = 0 ∧
        report.mismatches = []) ∧
      (hiddenWords range line ≠ [] → 2 ≤ cancelAfter →
        report.stop = .mismatch ∧
        report.passes = 1 ∧
        report.mismatchCount = (hiddenWords range line).length ∧
        report.mismatches.map Mismatch.address =
          ((hiddenWords range line).take 8).map (2 * ·) ∧
        ∀ mismatch ∈ report.mismatches,
          mismatch.expected = patternWord mismatch.address ∧
          mismatch.found = patternWord (mismatch.address + 1 <<< line) ∧
          mismatch.address + 1 <<< line ∈ mismatch.aliases) := by
  obtain ⟨bit, rfl⟩ : ∃ bit, line = bit + 1 := ⟨line - 1, by omega⟩
  have wellFormed := (checkRange_eq_ok.mp accepted).1
  have faulty := faultyWords_of_stuckLine wellFormed installed stuck
    (by omega) unstuck
  obtain ⟨report, passes, last, outcome, trace, picture, addresses⟩ :=
    run_picture accepted installed ran
  have faultyPass {buffers : Buffers} (member : buffers ∈ passes) :
      engine.transport.board.faultyWords range buffers.pattern =
        hiddenWords range (bit + 1) := by
    rw [addresses rfl buffers member]
    exact faulty
  refine ⟨report, outcome, ?_⟩
  cases picture.verdict with
  | clean equal unjudged =>
      refine ⟨fun _ => ⟨unjudged.stop, unjudged.mismatchCount,
        unjudged.mismatches⟩, ?_⟩
      intro hides uncancelled
      obtain ⟨first, firstMember⟩ :=
        List.exists_mem_of_ne_nil passes (trace.passes_ne_nil uncancelled)
      exact absurd ((faultyPass firstMember).symm.trans
        (equal first firstMember)) hides
  | @faulty before failing _ equal differ stop count described =>
      have failingMember : failing ∈ before ++ [failing] :=
        List.mem_append_right _ List.mem_cons_self
      have atFailing := faultyPass failingMember
      have pattern := addresses rfl failing failingMember
      have shown := picture.shown failing failingMember
      constructor
      · intro hidesNothing
        exact absurd (atFailing.trans hidesNothing) differ
      · intro hides uncancelled
        -- An earlier pass would have found the same words.
        have alone : before = [] := by
          apply List.eq_nil_iff_forall_not_mem.mpr
          intro earlier member
          have clean := equal earlier member
          rw [faultyPass (List.mem_append_left _ member)] at clean
          exact hides clean
        have differences : differences failing.pattern failing.readback range =
            hiddenWords range (bit + 1) :=
          (differences_eq_faultyWords shown).trans atFailing
        have reported : report.mismatches =
            ((hiddenWords range (bit + 1)).take 8).map
              (diagnose failing.pattern failing.readback range) := by
          rw [described, diagnosed, differences]
          rfl
        refine ⟨stop, ?_, ?_, ?_, ?_⟩
        · rw [picture.counted, alone]
          rfl
        · rw [count, atFailing]
        · rw [reported, List.map_map]
          rfl
        · intro mismatch member
          rw [reported] at member
          obtain ⟨word, taken, diagnosis⟩ := List.mem_map.mp member
          have hidden := List.mem_of_mem_take taken
          have inside := ((mem_hiddenWords wellFormed).mp hidden).1
          have found := shown word inside
          rw [pattern] at diagnosis found
          exact diagnose_of_hidden wellFormed installed stuck
            unstuck hidden found diagnosis.symm

/-- On four words behind line 1, the words at 0 and 4 are found. -/
theorem run_finds_two_hidden_words :
    shortedEngine.transport.board.stuckLine? = some 1 ∧
      (∀ address, shortedEngine.transport.board.stuckAt address = 0) ∧
      checkRange .bits16 ⟨0, 6⟩ = .ok () ∧
      shortedEngine.transport.board.Installed ⟨0, 6⟩ ∧
      ∃ report stopped,
        run ⟨0, 6⟩ .addressPattern 3 shortedEngine = .ok (.ok report, stopped) ∧
          report.stop = .mismatch ∧ report.passes = 1 ∧
          report.mismatches.map Mismatch.address = [0, 4] := by
  have accepted : checkRange .bits16 ⟨0, 6⟩ = .ok () :=
    checkRange_eq_ok.mpr (by decide)
  have unstuck (address : Nat) :
      shortedEngine.transport.board.stuckAt address = 0 :=
    Std.HashMap.getD_empty
  obtain ⟨result, stopped, ran⟩ :=
    exists_run (by decide : shortedEngine.WallClocked) accepted
      .addressPattern 3
  obtain ⟨report, rfl, _, found⟩ :=
    run_finds_hidden_words rfl (by decide) unstuck accepted
    installed_shortedEngine ran
  obtain ⟨stop, passes, _, addresses, _⟩ := found (by decide) (by decide)
  exact ⟨rfl, unstuck, accepted, installed_shortedEngine, report, stopped,
    ran, stop, passes, addresses⟩

end Backplane.Exerciser
