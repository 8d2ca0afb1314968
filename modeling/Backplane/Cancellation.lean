/-!
# Cancellation tokens

A token asks a long run to stop.  Copies of a token share one flag, and a flag
that was raised stays raised.
-/

namespace Backplane

/-- All tokens given out: the flag of each token, and the state of each flag. -/
structure Cancellation where
  flagOf : Array Nat := #[]
  raised : Array Bool := #[]

namespace Cancellation

/-- Give out a token with a flag of its own. -/
def issue (tokens : Cancellation) : Cancellation where
  flagOf := tokens.flagOf.push tokens.raised.size
  raised := tokens.raised.push false

/-- Give out a copy of a token. -/
def copy (tokens : Cancellation) (token : Nat) : Cancellation :=
  match tokens.flagOf[token]? with
  | some flag => { tokens with flagOf := tokens.flagOf.push flag }
  | none => tokens

/-- Raise the flag of a token. -/
def cancel (tokens : Cancellation) (token : Nat) : Cancellation :=
  match tokens.flagOf[token]? with
  | some flag => { tokens with raised := tokens.raised.setIfInBounds flag true }
  | none => tokens

/-- For every token, whether its flag is raised. -/
def states (tokens : Cancellation) : Array Bool :=
  tokens.flagOf.map fun flag => tokens.raised.getD flag false

end Cancellation

end Backplane
