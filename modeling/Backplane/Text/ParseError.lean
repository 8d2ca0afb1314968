/-!
# Reading errors

What can be wrong with a typed operand.  Where a value could still be derived
it is kept, so that a console can show it.
-/

namespace Backplane

/-- Why an operand was not accepted. -/
inductive ParseError where
  /-- Nothing to read. -/
  | empty
  /-- Not a number of the expected radix. -/
  | malformed (text : String)
  /-- A number that is not acceptable here, with the value derived for it. -/
  | outOfRange (text : String) (value : Nat)
deriving DecidableEq

namespace ParseError

def message : ParseError → String
  | empty => "empty input"
  | malformed text => s!"malformed value '{text}'"
  | outOfRange text _ => s!"value '{text}' out of range"

/-- The value derived from an operand that is out of range. -/
def bestEffort? : ParseError → Option Nat
  | outOfRange _ value => some value
  | _ => none

end ParseError

end Backplane
