/-!
# Numerals

A numeral is an optional plus sign and one or more digits.  It is read from
the left, and reading stops at the first character that is no digit or at the
first digit that carries the value above the limit, whichever comes first.
-/

namespace Backplane.Text

/-- Why a text is not read as a number. -/
inductive NumeralFault where
  | notNumeral
  | tooLarge
deriving DecidableEq

/-- The value of a digit below `radix`, for a radix up to ten. -/
def digit? (radix : Nat) (c : Char) : Option Nat :=
  if '0'.toNat ≤ c.toNat ∧ c.toNat - '0'.toNat < radix then
    some (c.toNat - '0'.toNat)
  else
    none

/-- Continue reading after the digits of `value`. -/
def readDigits (radix limit : Nat) : Nat → List Char → Except NumeralFault Nat
  | value, [] => .ok value
  | value, c :: rest =>
    match digit? radix c with
    | none => .error .notNumeral
    | some digit =>
      if value * radix + digit ≤ limit then
        readDigits radix limit (value * radix + digit) rest
      else
        .error .tooLarge

/-- The digits behind an optional plus sign. -/
def unsigned : List Char → List Char
  | '+' :: digits => digits
  | chars => chars

/-- Read a numeral with a value up to `limit`. -/
def readNumeral (radix limit : Nat) (chars : List Char) :
    Except NumeralFault Nat :=
  match unsigned chars with
  | [] => .error .notNumeral
  | digits => readDigits radix limit 0 digits

end Backplane.Text
