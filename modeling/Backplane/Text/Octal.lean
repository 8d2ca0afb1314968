/-!
# Octal text

Numbers on a console are octal.  `octal` writes a number without leading
zeros, `octalPadded` its lowest digits in a fixed count, and `octalWord` a
16-bit word in six digits.
-/

namespace Backplane.Text

/-- A number in octal, without leading zeros. -/
def octal (value : Nat) : String :=
  String.ofList (Nat.toDigits 8 value)

/-- The character of a digit below eight. -/
def octalDigit (digit : Nat) : Char :=
  Char.ofNat ('0'.toNat + digit)

/-- The `count` lowest octal digits, the highest first. -/
def octalDigits : Nat → Nat → List Char
  | 0, _ => []
  | count + 1, value =>
    octalDigits count (value / 8) ++ [octalDigit (value % 8)]

/-- The `count` lowest octal digits as text. -/
def octalPadded (count value : Nat) : String :=
  String.ofList (octalDigits count value)

/-- A data word in six digits; a larger number shows question marks. -/
def octalWord (value : Nat) : String :=
  if value ≤ 0xffff then octalPadded 6 value else "??????"

@[simp] theorem length_octalDigits (count value : Nat) :
    (octalDigits count value).length = count := by
  induction count generalizing value with
  | zero => rfl
  | succ count ih => simp [octalDigits, ih]

end Backplane.Text
