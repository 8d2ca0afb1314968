import Backplane.Address.Range
import Backplane.Exerciser.Report
import Backplane.Random.Source

/-!
# Test patterns

The words that an exerciser writes, and the comparison of what it reads back.
An address pattern tells for a wrong word which other address it came from;
the comparison lists these addresses as its aliases.
-/

namespace Backplane.Exerciser

/-- The pattern of the word at an address: its word number, with bit 17 of the
address folded into bit 0 so that the upper half of a large space differs. -/
def patternWord (address : Nat) : UInt16 :=
  UInt16.ofNat ((address / 2) % 0x10000 ^^^ address / 0x20000)

/-- The address pattern of the first words of an address space. -/
def addressPattern (words : Nat) : Array UInt16 :=
  Array.ofFn fun word : Fin words => patternWord (2 * word)

/-- Replace `count` words of a buffer from `index` on by fresh random words. -/
def randomWords {γ : Type} [RandomSource γ] :
    Nat → Nat → Array UInt16 → γ → Array UInt16 × γ
  | 0, _, buffer, source => (buffer, source)
  | count + 1, index, buffer, source =>
    let (word, source) := RandomSource.dataWord source
    randomWords count (index + 1) (buffer.setIfInBounds index word) source

/-- How many mismatches of a pass are diagnosed. -/
def diagnosedLimit : Nat := 8

/-- The words of a range that differ, ascending. -/
def differences (pattern readback : Array UInt16) (range : AddressRange) :
    List Nat :=
  range.words.filter fun word => pattern.getD word 0 != readback.getD word 0

/-- The other addresses of a range where a value was written, ascending. -/
def aliasesOf (pattern : Array UInt16) (range : AddressRange) (word : Nat)
    (found : UInt16) : List Nat :=
  (range.words.filter fun other => other != word &&
    pattern.getD other 0 == found).map (2 * ·)

/-- Describe a word that differs. -/
def diagnose (pattern readback : Array UInt16) (range : AddressRange)
    (word : Nat) : Mismatch :=
  let found := readback.getD word 0
  { address := 2 * word
    expected := pattern.getD word 0
    found := found
    aliases := aliasesOf pattern range word found }

end Backplane.Exerciser
