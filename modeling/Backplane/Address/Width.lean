/-!
# Address widths

A backplane carries 16, 18 or 22 address lines.  All measures of its address
space follow from the width, so they can never disagree: words are two bytes,
and the top 8 KB, the io page, belong to device registers.
-/

namespace Backplane

/-- The number of address lines of a backplane. -/
inductive AddressWidth where
  | bits16
  | bits18
  | bits22
deriving DecidableEq

/-- Size of the io page in bytes. -/
def ioPageBytes : Nat := 8192

/-- First byte address of the io page under `bits` address lines. -/
def ioPageStartOf (bits : Nat) : Nat :=
  (1 <<< bits) - ioPageBytes

namespace AddressWidth

def bits : AddressWidth → Nat
  | bits16 => 16
  | bits18 => 18
  | bits22 => 22

/-- Number of words in the address space. -/
def wordCount (width : AddressWidth) : Nat :=
  1 <<< (width.bits - 1)

/-- Number of bytes in the address space. -/
def byteCount (width : AddressWidth) : Nat :=
  1 <<< width.bits

/-- First byte address of the io page. -/
def ioPageStart (width : AddressWidth) : Nat :=
  ioPageStartOf width.bits

/-- Highest byte address. -/
def maxAddress (width : AddressWidth) : Nat :=
  width.byteCount - 1

/-- Highest word address below the io page. -/
def memoryEnd (width : AddressWidth) : Nat :=
  width.ioPageStart - 2

theorem bits_injective {left right : AddressWidth}
    (same : left.bits = right.bits) : left = right := by
  cases left <;> cases right <;> first | rfl | cases same

end AddressWidth

end Backplane
