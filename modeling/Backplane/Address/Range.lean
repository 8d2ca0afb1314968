import Backplane.Address.Width

/-!
# Address ranges

An inclusive range of word addresses.  A buffer that belongs to an address
space is indexed by word number, that is by address divided by two.
-/

namespace Backplane

/-- The word addresses from `first` to `last`. -/
structure AddressRange where
  first : Nat
  last : Nat
deriving DecidableEq

namespace AddressRange

/-- Both ends are word addresses, and the range is not empty. -/
def isWellFormed (range : AddressRange) : Bool :=
  range.first % 2 == 0 && range.last % 2 == 0 && range.first ≤ range.last

/-- Index of the first word. -/
def firstWord (range : AddressRange) : Nat :=
  range.first / 2

/-- Index of the last word. -/
def lastWord (range : AddressRange) : Nat :=
  range.last / 2

/-- Number of words. -/
def wordCount (range : AddressRange) : Nat :=
  (range.last - range.first) / 2 + 1

/-- The word numbers of the range, ascending. -/
def words (range : AddressRange) : List Nat :=
  List.range' range.firstWord range.wordCount

end AddressRange

end Backplane
