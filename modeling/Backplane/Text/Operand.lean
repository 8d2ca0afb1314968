import Backplane.Text.Blank
import Backplane.Text.Numeral
import Backplane.Text.ParseError

/-!
# Operands

The operands typed at a console: octal numbers, data words, interrupt levels
and vectors, and priority slots.  Blanks around an operand are ignored, except
in front of the apostrophe of a character constant.
-/

namespace Backplane.Text

/-- The largest number an operand can hold. -/
def operandLimit : Nat := 0xffffffff

/-- Read a numeral of any operand size; `text` is what an error shows. -/
def readOperand (radix : Nat) (text : String) : Except ParseError Nat :=
  let chars := trim text.toList
  if chars.isEmpty then
    .error .empty
  else
    match readNumeral radix operandLimit chars with
    | .ok value => .ok value
    | .error .notNumeral => .error (.malformed text)
    | .error .tooLarge => .error (.outOfRange text operandLimit)

/-- Read an octal number. -/
def readOctal (text : String) : Except ParseError Nat :=
  readOperand 8 text

/-- Accept a value that was read only if it passes a test. -/
def accepting (text : String) (acceptable : Nat → Bool) (value : Nat) :
    Except ParseError Nat :=
  if acceptable value then .ok value else .error (.outOfRange text value)

/-- Read a data word: an octal number, or the character after an apostrophe. -/
def readWord (text : String) : Except ParseError Nat :=
  match text.toList with
  | '\'' :: [] => .error .empty
  | '\'' :: [c] =>
    if c.toNat < 128 then .ok c.toNat else .error (.malformed text)
  | '\'' :: _ => .error (.malformed text)
  | _ => do accepting text (· ≤ 0xffff) (← readOctal text)

/-- Read an interrupt level, octal 4 to 7. -/
def readInterruptLevel (text : String) : Except ParseError Nat := do
  accepting text (fun level => 4 ≤ level && level ≤ 7) (← readOctal text)

/-- Read an interrupt vector, an octal multiple of four up to `limit`. -/
def readInterruptVector (text : String) (limit : Nat) :
    Except ParseError Nat := do
  accepting text (fun vector => vector ≤ limit && vector % 4 == 0)
    (← readOctal text)

/-- Read a priority slot, decimal 1 to 31. -/
def readPrioritySlot (text : String) : Except ParseError Nat := do
  accepting text (fun slot => 1 ≤ slot && slot ≤ 31) (← readOperand 10 text)

end Backplane.Text
