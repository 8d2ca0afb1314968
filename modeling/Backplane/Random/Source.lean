/-!
# Sources of random words

A source yields 32-bit words one after another.  Bounded numbers are drawn by
multiplication: the high half of word times bound, corrected by at most one
further word when the low half leaves the rounding open.
-/

namespace Backplane

/-- A stream of 32-bit words with a position. -/
class RandomSource (γ : Type) where
  next : γ → UInt32 × γ

/-- A fixed stream of words and the number of words taken from it. -/
structure Tape where
  word : Nat → UInt32
  taken : Nat

namespace Tape

/-- A tape that repeats the given words. -/
def repeating (words : Array UInt32) : Tape :=
  ⟨fun index => words.getD (index % words.size) 0, 0⟩

instance : RandomSource Tape where
  next tape := (tape.word tape.taken, { tape with taken := tape.taken + 1 })

end Tape

namespace RandomSource

variable {γ : Type} [RandomSource γ]

/-- How many values a word can have. -/
def wordRange : Nat := 0x100000000

/-- A number below `bound`, for a bound that is positive and below
`wordRange`. -/
def below (bound : Nat) (source : γ) : Nat × γ :=
  let (word, source) := next source
  let product := word.toNat * bound
  let high := product / wordRange
  let low := product % wordRange
  if wordRange - bound < low then
    let (word, source) := next source
    let carry := (low + word.toNat * bound / wordRange) / wordRange
    (high + carry, source)
  else
    (high, source)

/-- A data word: the low half of the next word. -/
def dataWord (source : γ) : UInt16 × γ :=
  let (word, source) := next source
  (word.toUInt16, source)

/-- A block length from 1 to `remaining`.  It is uniform up to a power of two
whose exponent is itself uniform, so that short blocks are the most frequent
while long ones still occur. -/
def blockLength (remaining : Nat) (source : γ) :
    { count : Nat // 0 < count } × γ :=
  let (exponent, source) := below (Nat.log2 remaining + 1) source
  let (offset, source) := below (1 <<< exponent) source
  (⟨offset + 1, Nat.succ_pos offset⟩, source)

end RandomSource

end Backplane
