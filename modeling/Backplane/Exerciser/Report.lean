import Backplane.Address.Range

/-!
# Exerciser reports

What a memory exerciser is asked to do and what it reports: the passes and
blocks it completed, why it stopped, and the words that read back wrong.
-/

namespace Backplane.Exerciser

/-- Which pattern is written. -/
inductive Mode where
  /-- Every word holds its own folded address; written once. -/
  | addressPattern
  /-- Fresh random words in every pass, in blocks of random length. -/
  | randomPattern
deriving DecidableEq

namespace Mode

def name : Mode → String
  | addressPattern => "AddressPattern"
  | randomPattern => "RandomPattern"

/-- The mode of a name on the command line. -/
def ofName? (text : String) : Except String Mode :=
  if text = "address" ∨ text = "address-pattern" then
    .ok addressPattern
  else if text = "random" ∨ text = "random-pattern" then
    .ok randomPattern
  else
    .error s!"unknown mode '{text}' (expected address or random)"

end Mode

/-- One word that read back wrong. -/
structure Mismatch where
  address : Nat
  expected : UInt16
  found : UInt16
  /-- Other addresses where the value found was written. -/
  aliases : List Nat
deriving DecidableEq

namespace Mismatch

/-- The bits that differ. -/
def diff (mismatch : Mismatch) : UInt16 :=
  mismatch.expected ^^^ mismatch.found

end Mismatch

/-- Why a run ended. -/
inductive StopReason where
  /-- Cancellation was seen between two passes. -/
  | cancelled
  /-- A block timed out at the address. -/
  | timeout (address : Nat)
  /-- The last pass found a word that differs. -/
  | mismatch
deriving DecidableEq

namespace StopReason

def text : StopReason → String
  | cancelled => "Cancelled"
  | timeout address => s!"Timeout \x7b fault_address: {address} \x7d"
  | mismatch => "Mismatch"

end StopReason

/-- Result of one run. -/
structure Report where
  mode : Mode
  /-- Completed passes of reading and comparing. -/
  passes : Nat := 0
  blocksWritten : Nat := 0
  blocksRead : Nat := 0
  stop : StopReason := .cancelled
  /-- Number of words that differ in the failing pass. -/
  mismatchCount : Nat := 0
  /-- The first of them. -/
  mismatches : List Mismatch := []
deriving DecidableEq

end Backplane.Exerciser
