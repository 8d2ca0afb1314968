import Backplane.Address.Width
import Backplane.Text.Octal
import Backplane.Text.Operand

/-!
# Address notation

Addresses are written in octal with a fixed number of digits, and addresses of
the io page are marked by `io`.  A bus of 16 lines shows one bit more than it
has, so that an address just past its end does not look like address zero.
-/

namespace Backplane.AddressWidth

open Text

/-- Number of address bits that are shown. -/
def shownBits : AddressWidth → Nat
  | bits16 => 17
  | bits18 => 18
  | bits22 => 22

/-- Number of octal digits that are shown. -/
def shownDigits : AddressWidth → Nat
  | bits16 | bits18 => 6
  | bits22 => 8

/-- The part of an address that is shown. -/
def shown (width : AddressWidth) (address : Nat) : Nat :=
  address % (1 <<< width.shownBits)

/-- Whether the address, as shown, lies in the io page. -/
def isIo (width : AddressWidth) (address : Nat) : Bool :=
  width.ioPageStart ≤ width.shown address

/-- Write an address. -/
def formatAddress (width : AddressWidth) (address : Nat) : String :=
  let digits := octalPadded width.shownDigits (width.shown address)
  if width.isIo address then "io" ++ digits else digits

/-- The digits of an address behind the mark of the io page. -/
def unmarked : List Char → List Char
  | 'i' :: 'o' :: digits => digits
  | chars => chars

/-- Read an address up to the highest of the address space. -/
def readAddress (width : AddressWidth) (text : String) :
    Except ParseError Nat :=
  match readOctal (String.ofList (unmarked (trim text.toList))) with
  | .ok address =>
    if address ≤ width.maxAddress then
      .ok address
    else
      .error (.outOfRange text width.maxAddress)
  | .error (.outOfRange _ _) => .error (.outOfRange text width.maxAddress)
  | .error fault => .error fault

end Backplane.AddressWidth
