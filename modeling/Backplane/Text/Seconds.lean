import Backplane.Duration

/-!
# Seconds with three decimals

A duration is shown as the double nearest to it in seconds, rounded to three
decimals with halves going to the even neighbour.
-/

namespace Backplane.Text

/-- The duration in seconds as a double: whole seconds plus the rest. -/
def secondsOf (duration : Nat) : Float :=
  Float.ofNat (duration / Duration.second) +
    Float.ofNat (duration % Duration.second) / Float.ofNat Duration.second

/-- A quotient rounded to the nearest integer, halves to the even one. -/
def divideToEven (numerator denominator : Nat) : Nat :=
  let quotient := numerator / denominator
  let rest := numerator % denominator
  if denominator < 2 * rest ∨ (2 * rest = denominator ∧ quotient % 2 = 1) then
    quotient + 1
  else
    quotient

/-- A double that is not negative, in thousandths.  It is its significand
times a power of two, which the exponent field tells. -/
def thousandths (value : Float) : Nat :=
  let bits := value.toBits.toNat
  let hidden := 1 <<< 52
  let exponent := bits / hidden % 2048
  let fraction := bits % hidden
  let significand := if exponent = 0 then fraction else hidden + fraction
  let scale := max exponent 1
  divideToEven ((significand <<< (scale - 1075)) * 1000) (1 <<< (1075 - scale))

/-- A duration in seconds. -/
def secondsText (duration : Nat) : String :=
  let count := thousandths (secondsOf duration)
  let decimals := (Nat.toDigits 10 (1000 + count % 1000)).drop 1
  s!"{count / 1000}.{String.ofList decimals} s"

end Backplane.Text
