import Backplane.Cycle
import Std.Data.HashMap

/-!
# Memory boards

The memory behind a bus: a row of cells from address zero on, some of which
may return stuck data bits, on a bus one of whose address lines may be shorted
high.  Blocks are moved word by word and end at the first word that selects no
cell.
-/

namespace Backplane

/-- Cells and the faults in front of them. -/
structure MemoryBoard where
  cells : Array UInt16
  /-- Bits that read as one, by word number. -/
  stuckBits : Std.HashMap Nat UInt16
  /-- The address line that is shorted high. -/
  stuckLine? : Option Nat

namespace MemoryBoard

/-- A board without memory and without faults. -/
def empty : MemoryBoard := ⟨#[], ∅, none⟩

/-- A board with all cells zero; an odd byte at the end is not installed. -/
def install (board : MemoryBoard) (bytes : Nat) : MemoryBoard :=
  { board with cells := Array.replicate (bytes / 2) 0 }

/-- Let the word at an address read with the bits of `mask` set. -/
def stick (board : MemoryBoard) (address : Nat) (mask : UInt16) : MemoryBoard :=
  let stuck := board.stuckBits.getD (address / 2) 0
  { board with
    stuckBits := board.stuckBits.insert (address / 2) (stuck ||| mask) }

/-- The address that arrives at the board. -/
def driven (board : MemoryBoard) (address : Nat) : Nat :=
  match board.stuckLine? with
  | some line => address ||| 1 <<< line
  | none => address

/-- The cell selected by an address, if it is installed. -/
def select? (board : MemoryBoard) (address : Nat) : Option Nat :=
  let cell := board.driven address / 2
  if cell < board.cells.size then some cell else none

/-- The bits that read as one at an address. -/
def stuckAt (board : MemoryBoard) (address : Nat) : UInt16 :=
  board.stuckBits.getD (address / 2) 0

/-- The content of a cell. -/
def cell (board : MemoryBoard) (index : Nat) : UInt16 :=
  board.cells.getD index 0

/-- The word in the cell of an address, without any fault. -/
def peek? (board : MemoryBoard) (address : Nat) : Option UInt16 :=
  board.cells[address / 2]?

/-- Put a word into the cell of an address, without any fault. -/
def poke (board : MemoryBoard) (address : Nat) (value : UInt16) : MemoryBoard :=
  { board with cells := board.cells.setIfInBounds (address / 2) value }

/-- What a write cycle leaves in a cell: a byte write keeps the high byte. -/
def merge (cycle : Cycle) (old value : UInt16) : UInt16 :=
  if cycle = .dataOutByte then
    (old &&& 0xff00) ||| (value &&& 0x00ff)
  else
    value

/-- Write to a cell. -/
def store (board : MemoryBoard) (cycle : Cycle) (cell : Nat) (value : UInt16) :
    MemoryBoard :=
  { board with
    cells := board.cells.setIfInBounds cell
      (merge cycle (board.cells.getD cell 0) value) }

/-- Read the words from index `done` on; the count tells how many were
acknowledged. -/
def readBlock (board : MemoryBoard) (start : Nat) (words : Array UInt16)
    (done : Nat) : Array UInt16 × Nat :=
  if h : done < words.size then
    match board.select? (start + 2 * done) with
    | some cell =>
      let value := board.cell cell ||| board.stuckAt (start + 2 * done)
      readBlock board start (words.set done value) (done + 1)
    | none => (words, done)
  else
    (words, done)
termination_by words.size - done

/-- Write the words from index `done` on; the count tells how many were
acknowledged. -/
def writeBlock (board : MemoryBoard) (cycle : Cycle) (start : Nat)
    (words : Array UInt16) (done : Nat) : MemoryBoard × Nat :=
  if h : done < words.size then
    match board.select? (start + 2 * done) with
    | some cell =>
      writeBlock (board.store cycle cell words[done]) cycle start
      words (done + 1)
    | none => (board, done)
  else
    (board, done)
termination_by words.size - done

end MemoryBoard

end Backplane
