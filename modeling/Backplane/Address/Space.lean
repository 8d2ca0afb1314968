import Backplane.Error

/-!
# The address space of a bus

A bus belongs to a family and has an address width once one is chosen.  Where
the wiring fixes the width, it is chosen from the start.
-/

namespace Backplane

/-- A family and the width chosen for it. -/
structure AddressSpace where
  family : Family
  width? : Option AddressWidth
deriving DecidableEq

namespace AddressSpace

/-- The address space of a bus that was just opened. -/
def new (family : Family) : AddressSpace :=
  ⟨family, family.fixedWidth?⟩

/-- Choose a width by its number of address lines. -/
def configure (space : AddressSpace) (bits : Nat) :
    Except BusError AddressSpace :=
  match space.family.width? bits with
  | some width => .ok { space with width? := some width }
  | none => .error (.unsupportedWidth space.family bits)

/-- The width, or an error when none is chosen yet. -/
def configured (space : AddressSpace) : Except BusError AddressWidth :=
  match space.width? with
  | some width => .ok width
  | none => .error (.widthNotConfigured space.family)

end AddressSpace

end Backplane
