import Backplane.Random.Source
import Mathlib.Algebra.Group.Nat.Defs

/-!
# Bounds of random draws

A bounded draw stays below its bound: the topmost high half leaves a low half
that never asks for the correcting second word.  Below a power of two no word
does.  Hence a block length takes two words from its source, or three, and
never exceeds the largest power of two in the words that remain; every length
up to that one is drawn from some tape.
-/

namespace Backplane.RandomSource

theorem high_lt {word bound : Nat} (positive : 0 < bound)
    (isWord : word < wordRange) : word * bound / wordRange < bound := by
  apply Nat.div_lt_of_lt_mul
  exact Nat.mul_lt_mul_of_pos_right isWord positive

/-- The low half of the product is too small to leave the rounding open. -/
def Settles (bound word : Nat) : Prop :=
  word * bound % wordRange ≤ wordRange - bound

instance (bound word : Nat) : Decidable (Settles bound word) :=
  inferInstanceAs (Decidable (_ ≤ _))

/-- Where the low half asks for a correction, the high half is not the topmost
value. -/
theorem high_succ_lt_of_correction {word bound : Nat}
    (isWord : word < wordRange) (bounded : bound ≤ wordRange)
    (correction : ¬ Settles bound word) :
    word * bound / wordRange + 1 < bound := by
  have low : wordRange - bound < word * bound % wordRange :=
    Nat.lt_of_not_le correction
  have split := Nat.div_add_mod (word * bound) wordRange
  have productBound : word * bound + bound ≤ wordRange * bound := by
    calc
      word * bound + bound = (word + 1) * bound :=
        (Nat.succ_mul word bound).symm
      _ ≤ wordRange * bound := Nat.mul_le_mul_right bound isWord
  apply Nat.lt_of_not_le
  intro topmost
  have highBound : wordRange * bound ≤ wordRange * (word * bound / wordRange) +
      wordRange := by
    calc
      wordRange * bound ≤ wordRange * (word * bound / wordRange + 1) :=
        Nat.mul_le_mul_left wordRange topmost
      _ = wordRange * (word * bound / wordRange) + wordRange := Nat.mul_succ _ _
  omega

/-- Below a power of two the low half is a multiple of that power, so it is no
nearer to the end of the words than by the power itself. -/
theorem settles_powerOfTwo {exponent : Nat} (fits : exponent ≤ 32)
    (word : Nat) : Settles (2 ^ exponent) word := by
  have range : wordRange = 2 ^ (32 - exponent) * 2 ^ exponent := by
    rw [← Nat.pow_add, Nat.sub_add_cancel fits]
    rfl
  have residue : word % 2 ^ (32 - exponent) ≤ 2 ^ (32 - exponent) - 1 :=
    Nat.le_sub_one_of_lt (Nat.mod_lt word (Nat.two_pow_pos _))
  calc
    word * 2 ^ exponent % wordRange =
      word % 2 ^ (32 - exponent) * 2 ^ exponent := by
      rw [range, Nat.mul_mod_mul_right]
    _ ≤ (2 ^ (32 - exponent) - 1) * 2 ^ exponent :=
      Nat.mul_le_mul_right _ residue
    _ = wordRange - 2 ^ exponent := by rw [Nat.sub_mul, Nat.one_mul, ← range]

/-- Every value below a bound of up to half the words is the high half for some
word, and that word alone settles it. -/
theorem exists_settling_word {bound value : Nat} (valid : value < bound)
    (half : 2 * bound ≤ wordRange) :
    ∃ word : UInt32, word.toNat * bound / wordRange = value ∧
    Settles bound word.toNat := by
  -- The least word whose product reaches `value * wordRange`: the product
  -- exceeds that by less than the bound, and up to half the words this settles.
  let reached := value * wordRange + (bound - 1)
  have isWord : reached / bound < wordRange := by
    apply Nat.div_lt_of_lt_mul
    have := Nat.mul_le_mul_right wordRange (Nat.succ_le_of_lt valid)
    rw [Nat.succ_mul] at this
    omega
  have split := Nat.div_add_mod reached bound
  have excess := Nat.mod_lt reached (Nat.zero_lt_of_lt valid)
  have product : reached / bound * bound =
      value * wordRange + (bound - 1 - reached % bound) := by
    rw [Nat.mul_comm]
    omega
  refine ⟨UInt32.ofNat (reached / bound), ?_, ?_⟩
  · rw [UInt32.toNat_ofNat_of_lt' isWord, product]
    simp only [wordRange] at half ⊢
    omega
  · rw [Settles, UInt32.toNat_ofNat_of_lt' isWord, product]
    simp only [wordRange] at half ⊢
    omega

variable {γ : Type} [RandomSource γ]

/-- The source behind its next words. -/
def skip : Nat → γ → γ
  | 0, source => source
  | count + 1, source => skip count (next source).2

theorem skip_tape (count : Nat) (tape : Tape) :
    skip count tape = { tape with taken := tape.taken + count } := by
  induction count generalizing tape with
  | zero => rfl
  | succ count ih =>
      change skip count { tape with taken := tape.taken + 1 } = _
      rw [ih, Nat.add_assoc, Nat.add_comm 1]

theorem toNat_lt_wordRange (word : UInt32) : word.toNat < wordRange :=
  word.toNat_lt

theorem below_of_settles {bound : Nat} {source : γ}
    (settles : Settles bound (next source).1.toNat) :
    below bound source =
      ((next source).1.toNat * bound / wordRange, skip 1 source) := by
  simp only [below]
  rw [if_neg (Nat.not_lt.mpr settles)]
  rfl

theorem below_of_correction {bound : Nat} {source : γ}
    (correction : ¬ Settles bound (next source).1.toNat) :
    below bound source =
      ((next source).1.toNat * bound / wordRange +
        ((next source).1.toNat * bound % wordRange +
          (next (skip 1 source)).1.toNat * bound / wordRange) / wordRange,
      skip 2 source) := by
  simp only [below]
  rw [if_pos (Nat.lt_of_not_le correction)]
  rfl

theorem below_lt {bound : Nat} (positive : 0 < bound)
    (bounded : bound ≤ wordRange) (source : γ) :
    (below bound source).1 < bound := by
  have firstWord := toNat_lt_wordRange (next source).1
  by_cases settles : Settles bound (next source).1.toNat
  · rw [below_of_settles settles]
    exact high_lt positive firstWord
  · rw [below_of_correction settles]
    have highBelow := high_succ_lt_of_correction firstWord bounded settles
    have secondHigh :=
      high_lt positive (toNat_lt_wordRange (next (skip 1 source)).1)
    have carryBound : ((next source).1.toNat * bound % wordRange +
        (next (skip 1 source)).1.toNat * bound / wordRange) /
        wordRange < 2 := by
      have low := Nat.mod_lt ((next source).1.toNat * bound)
        (y := wordRange) (by decide)
      apply Nat.div_lt_of_lt_mul
      omega
    change _ / wordRange + _ / wordRange < bound
    omega

theorem below_takes (bound : Nat) (source : γ) :
    (below bound source).2 = skip 1 source ∨
    (below bound source).2 = skip 2 source := by
  by_cases settles : Settles bound (next source).1.toNat
  · exact .inl (by rw [below_of_settles settles])
  · exact .inr (by rw [below_of_correction settles])

section BlockLength

variable {remaining : Nat} (positive : 0 < remaining)
  (bounded : remaining < wordRange)

include positive bounded

theorem log2_lt_wordBits : Nat.log2 remaining < 32 :=
  (Nat.log2_lt (Nat.ne_of_gt positive)).mpr bounded

/-- The exponent that is drawn first never leads above what remains. -/
theorem exponent_le (source : γ) :
    (below (Nat.log2 remaining + 1) source).1 ≤ Nat.log2 remaining := by
  have few := log2_lt_wordBits positive bounded
  have fits : Nat.log2 remaining + 1 ≤ wordRange := Nat.le_trans few (by decide)
  exact Nat.le_of_lt_succ (below_lt (Nat.succ_pos _) fits source)

/-- A block length is one more than the high half of the word behind the
exponent. -/
theorem blockLength_eq (source : γ) :
    (blockLength remaining source).1.val =
      (next (below (Nat.log2 remaining + 1) source).2).1.toNat *
        2 ^ (below (Nat.log2 remaining + 1) source).1 / wordRange + 1 ∧
    (blockLength remaining source).2 =
      skip 1 (below (Nat.log2 remaining + 1) source).2 := by
  have fits : (below (Nat.log2 remaining + 1) source).1 ≤ 32 :=
    Nat.le_trans (exponent_le positive bounded source)
      (Nat.le_of_lt (log2_lt_wordBits positive bounded))
  have offset := below_of_settles (settles_powerOfTwo fits
    (next (below (Nat.log2 remaining + 1) source).2).1.toNat)
  simp only [blockLength, Nat.one_shiftLeft]
  rw [offset]
  exact ⟨rfl, rfl⟩

/-- A block is no longer than the largest power of two in what remains. -/
theorem blockLength_le_powerOfTwo (source : γ) :
    (blockLength remaining source).1.val ≤ 2 ^ Nat.log2 remaining := by
  have offset :=
    high_lt (Nat.two_pow_pos (below (Nat.log2 remaining + 1) source).1)
      (toNat_lt_wordRange (next (below (Nat.log2 remaining + 1) source).2).1)
  rw [(blockLength_eq positive bounded source).1]
  exact Nat.le_trans (Nat.succ_le_of_lt offset)
    (Nat.pow_le_pow_right (by decide) (exponent_le positive bounded source))

theorem blockLength_le (source : γ) :
    (blockLength remaining source).1.val ≤ remaining :=
  Nat.le_trans (blockLength_le_powerOfTwo positive bounded source)
    (Nat.log2_self_le (Nat.ne_of_gt positive))

theorem blockLength_takes (source : γ) :
    (blockLength remaining source).2 = skip 2 source ∨
      (blockLength remaining source).2 = skip 3 source := by
  rw [(blockLength_eq positive bounded source).2]
  cases below_takes (Nat.log2 remaining + 1) source with
  | inl one => exact .inl (by rw [one]; rfl)
  | inr two => exact .inr (by rw [two]; rfl)

/-- One word for the topmost exponent and one for the offset give any length up
to the power of two. -/
theorem exists_tape_of_length {length : Nat} (nonempty : 1 ≤ length)
    (short : length ≤ 2 ^ Nat.log2 remaining) :
    ∃ tape : Tape, (blockLength remaining tape).1.val = length := by
  have few := log2_lt_wordBits positive bounded
  have halfPower : 2 * 2 ^ Nat.log2 remaining ≤ wordRange := by
    rw [Nat.mul_comm, ← Nat.pow_succ]
    exact Nat.pow_le_pow_right (by decide) few
  obtain ⟨topmost, topmostHigh, topmostSettles⟩ :=
    exists_settling_word (Nat.lt_succ_self (Nat.log2 remaining))
      (Nat.le_trans (Nat.mul_le_mul_left 2 few) (by decide))
  obtain ⟨word, offset, _⟩ := exists_settling_word
    (Nat.sub_one_lt_of_le nonempty short) halfPower
  refine ⟨.repeating #[topmost, word], ?_⟩
  have drawn : below (Nat.log2 remaining + 1)
      (Tape.repeating #[topmost, word]) =
      (Nat.log2 remaining, skip 1 (Tape.repeating #[topmost, word])) := by
    rw [below_of_settles topmostSettles]
    exact congrArg (·, _) topmostHigh
  rw [(blockLength_eq positive bounded _).1, drawn]
  change word.toNat * 2 ^ Nat.log2 remaining / wordRange + 1 = length
  rw [offset, Nat.sub_add_cancel nonempty]

end BlockLength

/-- A source yields a block length from one to the largest power of two in what
remains and takes two or three words for it, and each of these lengths is read
off some tape. -/
theorem blockLength_spans_powerOfTwo {remaining : Nat}
    (positive : 0 < remaining) (bounded : remaining < wordRange) :
    ∃ exponent, 2 ^ exponent ≤ remaining ∧ remaining < 2 ^ (exponent + 1) ∧
      (∀ (γ : Type) [RandomSource γ] (source : γ),
        1 ≤ (blockLength remaining source).1.val ∧
        (blockLength remaining source).1.val ≤ 2 ^ exponent ∧
        ((blockLength remaining source).2 = skip 2 source ∨
          (blockLength remaining source).2 = skip 3 source)) ∧
      ∀ length, 1 ≤ length → length ≤ 2 ^ exponent →
        ∃ tape : Tape, (blockLength remaining tape).1.val = length := by
  refine ⟨Nat.log2 remaining, Nat.log2_self_le (Nat.ne_of_gt positive),
    Nat.lt_log2_self, ?_, ?_⟩
  · intro γ _ source
    exact ⟨(blockLength remaining source).1.property,
      blockLength_le_powerOfTwo positive bounded source,
      blockLength_takes positive bounded source⟩
  · intro length nonempty short
    exact exists_tape_of_length positive bounded nonempty short

/-- A tape whose first word leaves one of three exponents open, with a second
word that carries. -/
def carryingTape : Tape :=
  .repeating #[0x55555555, 0x55555556, 0x80000000]

/-- Of five words a block takes four at the most, and the carrying tape is three
words further on behind it. -/
theorem blockLength_spans_four_of_five :
    (blockLength 5 carryingTape).1.val ≤ 4 ∧
    (blockLength 5 carryingTape).2 = { carryingTape with taken := 3 } ∧
    ∃ tape : Tape, (blockLength 5 tape).1.val = 4 := by
  obtain ⟨exponent, fits, largest, drawn, reached⟩ :=
    blockLength_spans_powerOfTwo (by decide : 0 < 5) (by decide)
  have two : exponent = 2 :=
    ((Nat.log2_eq_iff (by decide)).mpr ⟨fits, largest⟩).symm
  subst two
  obtain ⟨_, short, taken⟩ := drawn Tape carryingTape
  refine ⟨short, ?_, reached 4 (by decide) (by decide)⟩
  rw [skip_tape, skip_tape] at taken
  cases taken with
  | inl settled => exact absurd (congrArg Tape.taken settled) (by decide)
  | inr carried => exact carried

end Backplane.RandomSource
