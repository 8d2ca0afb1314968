import Backplane.Random.Source

/-!
# The ChaCha generator

Random words from the ChaCha stream cipher with twelve rounds.  The key is
expanded from a 64-bit seed, the block counter starts at zero, and the sixteen
words of a block are handed out in order.
-/

namespace Backplane

namespace ChaCha

/-- The sixteen words of a cipher block. -/
abbrev Block := Vector UInt32 16

def rotateLeft (word : UInt32) (count : UInt32) : UInt32 :=
  (word <<< count) ||| (word >>> (32 - count))

def rotateRight (word : UInt32) (count : UInt32) : UInt32 :=
  (word >>> count) ||| (word <<< (32 - count))

/-- Mix four words of a block. -/
def quarterRound (block : Block) (a b c d : Fin 16) : Block :=
  let block := block.set a (block[a] + block[b])
  let block := block.set d (rotateLeft (block[d] ^^^ block[a]) 16)
  let block := block.set c (block[c] + block[d])
  let block := block.set b (rotateLeft (block[b] ^^^ block[c]) 12)
  let block := block.set a (block[a] + block[b])
  let block := block.set d (rotateLeft (block[d] ^^^ block[a]) 8)
  let block := block.set c (block[c] + block[d])
  block.set b (rotateLeft (block[b] ^^^ block[c]) 7)

/-- Mix the four columns, then the four diagonals. -/
def doubleRound (block : Block) : Block :=
  let block := quarterRound block 0 4 8 12
  let block := quarterRound block 1 5 9 13
  let block := quarterRound block 2 6 10 14
  let block := quarterRound block 3 7 11 15
  let block := quarterRound block 0 5 10 15
  let block := quarterRound block 1 6 11 12
  let block := quarterRound block 2 7 8 13
  quarterRound block 3 4 9 14

/-- Twelve rounds, two at a time. -/
def doubleRounds : Nat := 6

/-- The block before mixing: constants, key, counter, and two zero words. -/
def initialBlock (key : Vector UInt32 8) (counter : UInt64) : Block :=
  #v[0x61707865, 0x3320646e, 0x79622d32, 0x6b206574,
    key[0], key[1], key[2], key[3], key[4], key[5], key[6], key[7],
    counter.toUInt32, (counter >>> 32).toUInt32, 0, 0]

/-- The words of the block with this counter. -/
def block (key : Vector UInt32 8) (counter : UInt64) : Block :=
  let start := initialBlock key counter
  let mixed := doubleRounds.repeat doubleRound start
  Vector.zipWith (· + ·) start mixed

/-- One step of the key expansion: the next state and the word it yields. -/
def expandStep (state : UInt64) : UInt32 × UInt64 :=
  let state := state * 6364136223846793005 + 11634580027462260723
  let folded := (((state >>> 18) ^^^ state) >>> 27).toUInt32
  (rotateRight folded (state >>> 59).toUInt32, state)

/-- The key words of a seed. -/
def expandSeed (seed : UInt64) : Vector UInt32 8 :=
  let (k0, state) := expandStep seed
  let (k1, state) := expandStep state
  let (k2, state) := expandStep state
  let (k3, state) := expandStep state
  let (k4, state) := expandStep state
  let (k5, state) := expandStep state
  let (k6, state) := expandStep state
  let (k7, _) := expandStep state
  #v[k0, k1, k2, k3, k4, k5, k6, k7]

end ChaCha

/-- A generator: its key, the counter of the next block, and the current block
with the number of words taken from it. -/
structure ChaCha where
  key : Vector UInt32 8
  counter : UInt64
  current : ChaCha.Block
  taken : Nat

namespace ChaCha

/-- The generator of a seed. -/
def ofSeed (seed : UInt64) : ChaCha :=
  { key := expandSeed seed, counter := 0, current := Vector.replicate 16 0,
    taken := 16 }

/-- The next word, from a fresh block when the current one is used up. -/
def next (generator : ChaCha) : UInt32 × ChaCha :=
  if h : generator.taken < 16 then
    (generator.current[generator.taken],
      { generator with taken := generator.taken + 1 })
  else
    let fresh := block generator.key generator.counter
    (fresh[0],
      { generator with
        counter := generator.counter + 1, current := fresh, taken := 1 })

instance : RandomSource ChaCha where
  next := next

end ChaCha

end Backplane
