/-!
# Bus cycles

The four transactions a bus master can run.  Each has a two-bit wire code, the
C1/C0 pair the master drives, and a mnemonic used on console listings.
-/

namespace Backplane

/-- One bus transaction, in wire-code order. -/
inductive Cycle where
  /-- Word read. -/
  | dataIn
  /-- Word read that holds the bus for a write to follow. -/
  | dataInPause
  /-- Word write. -/
  | dataOut
  /-- Byte write. -/
  | dataOutByte
deriving DecidableEq

namespace Cycle

/-- The C1/C0 wire code. -/
def code : Cycle → Nat
  | dataIn => 0
  | dataInPause => 1
  | dataOut => 2
  | dataOutByte => 3

/-- Decode a wire code. -/
def ofCode? : Nat → Option Cycle
  | 0 => some dataIn
  | 1 => some dataInPause
  | 2 => some dataOut
  | 3 => some dataOutByte
  | _ => none

/-- The name on console listings. -/
def mnemonic : Cycle → String
  | dataIn => "DATI"
  | dataInPause => "DATIP"
  | dataOut => "DATO"
  | dataOutByte => "DATOB"

/-- What a listing shows for a wire code; a code without a cycle has no name. -/
def describeCode (code : Nat) : String :=
  match ofCode? code with
  | some cycle => cycle.mnemonic
  | none => "???"

/-- In a read cycle the addressed device drives the data lines. -/
def isRead : Cycle → Bool
  | dataIn | dataInPause => true
  | dataOut | dataOutByte => false

@[simp] theorem ofCode?_code (cycle : Cycle) :
    ofCode? cycle.code = some cycle := by
  cases cycle <;> rfl

end Cycle

end Backplane
