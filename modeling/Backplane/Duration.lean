/-!
# Durations

A duration is a natural number of nanoseconds.  A clock counts seconds in 64
bits, so sums and multiples are checked: a result of 2^64 seconds or more is a
`ClockOverflow`, which no operation survives.
-/

namespace Backplane

/-- Which computation left the range of the clock. -/
inductive ClockOverflow where
  | adding
  | scaling
deriving DecidableEq

namespace ClockOverflow

def message : ClockOverflow → String
  | adding => "overflow when adding durations"
  | scaling => "overflow when multiplying duration by scalar"

end ClockOverflow

namespace Duration

def second : Nat := 1000000000

/-- The first duration that no clock can show. -/
def limit : Nat := 0x10000000000000000 * second

def micros (count : Nat) : Nat := count * 1000

def millis (count : Nat) : Nat := count * 1000000

/-- Checked sum. -/
def plus (left right : Nat) : Except ClockOverflow Nat :=
  if left + right < limit then .ok (left + right) else .error .adding

/-- Checked multiple. -/
def times (duration : Nat) (count : Nat) : Except ClockOverflow Nat :=
  if duration * count < limit then .ok (duration * count) else .error .scaling

theorem plus_eq_ok {left right sum : Nat} :
    plus left right = .ok sum ↔ left + right < limit ∧ sum = left + right := by
  unfold plus
  split
  · simp_all [eq_comm]
  · simp; omega

theorem times_eq_ok {duration product : Nat} {count : Nat} :
    times duration count = .ok product ↔
      duration * count < limit ∧ product = duration * count := by
  unfold times
  split
  · simp_all [eq_comm]
  · simp; omega

/-- The digits after the point, without the zeros at the end. -/
private def fractionText (unit value : Nat) : String :=
  let digits := (Nat.toDigits 10 (unit + value % unit)).drop 1
  let kept := (digits.reverse.dropWhile (· == '0')).reverse
  if kept.isEmpty then "" else "." ++ String.ofList kept

/-- The duration in the largest unit of which it holds at least one. -/
def text (duration : Nat) : String :=
  if second ≤ duration then
    s!"{duration / second}{fractionText second duration}s"
  else if millis 1 ≤ duration then
    s!"{duration / millis 1}{fractionText (millis 1) duration}ms"
  else if micros 1 ≤ duration then
    s!"{duration / micros 1}{fractionText (micros 1) duration}µs"
  else
    s!"{duration}ns"

end Duration

end Backplane
