/-!
# Grant lines

Five daisy-chained grant lines run through every slot of a backplane.  A slot
either breaks the chain or has a jumper that closes it; `GrantMask` is the set
of lines found closed, one bit for each line.
-/

namespace Backplane

/-- One daisy-chained grant line, in bit order. -/
inductive GrantLine where
  /-- Bus grant for interrupt level 4. -/
  | bg4
  /-- Bus grant for interrupt level 5. -/
  | bg5
  /-- Bus grant for interrupt level 6. -/
  | bg6
  /-- Bus grant for interrupt level 7. -/
  | bg7
  /-- Grant for a transfer without the processor. -/
  | npg
deriving DecidableEq

namespace GrantLine

/-- All lines in bit order. -/
def all : List GrantLine := [bg4, bg5, bg6, bg7, npg]

/-- Position of the line in a mask. -/
def position : GrantLine → Nat
  | bg4 => 0
  | bg5 => 1
  | bg6 => 2
  | bg7 => 3
  | npg => 4

/-- The mask value with this line alone. -/
def bit (line : GrantLine) : Nat :=
  1 <<< line.position

/-- The name printed on the backplane. -/
def name : GrantLine → String
  | bg4 => "BG4"
  | bg5 => "BG5"
  | bg6 => "BG6"
  | bg7 => "BG7"
  | npg => "NPG"

theorem mem_all (line : GrantLine) : line ∈ all := by
  cases line <;> decide

end GrantLine

/-- The set of grant lines whose jumper is closed. -/
structure GrantMask where
  bits : BitVec 5
deriving DecidableEq

namespace GrantMask

/-- All jumpers open. -/
def clear : GrantMask := ⟨0⟩

/-- The five low bits of a number; the others name no line. -/
def ofBits (bits : Nat) : GrantMask := ⟨BitVec.ofNat 5 bits⟩

/-- The set of the listed lines. -/
def ofLines (lines : List GrantLine) : GrantMask :=
  ⟨lines.foldl (fun bits line => bits ||| BitVec.ofNat 5 line.bit) 0⟩

def toNat (mask : GrantMask) : Nat := mask.bits.toNat

def isClear (mask : GrantMask) : Bool := mask.bits == 0

/-- Whether the jumper of `line` is closed. -/
def contains (mask : GrantMask) (line : GrantLine) : Bool :=
  mask.bits.getLsbD line.position

/-- The closed lines in bit order. -/
def closedLines (mask : GrantMask) : List GrantLine :=
  GrantLine.all.filter mask.contains

/-- The names of the closed lines. -/
def text (mask : GrantMask) : String :=
  if mask.isClear then
    "none"
  else
    " ".intercalate (mask.closedLines.map GrantLine.name)

theorem isClear_iff {mask : GrantMask} :
    mask.isClear = true ↔ mask = clear := by
  obtain ⟨bits⟩ := mask
  simp [isClear, clear]

theorem mem_closedLines {mask : GrantMask} {line : GrantLine} :
    line ∈ mask.closedLines ↔ mask.contains line = true := by
  simp [closedLines, GrantLine.mem_all]

/-- The lines of a mask are listed in bit order. -/
theorem closedLines_sorted (mask : GrantMask) :
    mask.closedLines.Pairwise fun line next => line.position < next.position :=
  List.Pairwise.filter _ (by decide)

end GrantMask

end Backplane
