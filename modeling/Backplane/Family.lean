import Backplane.Address.Width
import Backplane.Duration
import Backplane.Signal

/-!
# Bus families

The two backplane families and what is wired into each: the address widths it
can carry, its reset line, and the order in which its power-fail lines
announce the loss and the return of mains power.
-/

namespace Backplane

/-- One edge of a power sequence: drive a line, then wait. -/
structure PowerStep where
  signal : Signal
  asserted : Bool
  wait : Nat
deriving DecidableEq

/-- The gap after every power edge, well above the hardware minimum. -/
def powerStepWait : Nat := Duration.millis 200

/-- Time taken by a list of steps. -/
def totalWait (steps : List PowerStep) : Nat :=
  steps.foldr (fun step total => step.wait + total) 0

/-- A backplane family. -/
inductive Family where
  | unibus
  | qbus
deriving DecidableEq

namespace Family

/-- The widths a backplane of the family can have. -/
def widths : Family → List AddressWidth
  | unibus => [.bits18]
  | qbus => [.bits16, .bits18, .bits22]

/-- The width fixed by the wiring, if there is one. -/
def fixedWidth? : Family → Option AddressWidth
  | unibus => some .bits18
  | qbus => none

/-- The supported width with this many address lines. -/
def width? (family : Family) (bits : Nat) : Option AddressWidth :=
  family.widths.find? (·.bits == bits)

/-- Loss of mains power. -/
def powerDown : Family → List PowerStep
  | unibus => [⟨.aclo, true, powerStepWait⟩, ⟨.dclo, true, powerStepWait⟩]
  | qbus => [⟨.bpok, false, powerStepWait⟩, ⟨.bdcok, false, powerStepWait⟩]

/-- Return of mains power. -/
def powerUp : Family → List PowerStep
  | unibus => [⟨.dclo, false, powerStepWait⟩, ⟨.aclo, false, powerStepWait⟩]
  | qbus => [⟨.bdcok, true, powerStepWait⟩, ⟨.bpok, true, powerStepWait⟩]

/-- The bus reset line. -/
def initSignal : Family → Signal
  | unibus => .init
  | qbus => .binit

/-- Length of a reset pulse. -/
def initPulse : Family → Nat
  | unibus => Duration.millis 10
  | qbus => Duration.micros 20

/-- The name accepted on command lines. -/
def name : Family → String
  | unibus => "unibus"
  | qbus => "qbus"

/-- The name shown in messages. -/
def title : Family → String
  | unibus => "UNIBUS"
  | qbus => "QBUS"

/-- The family of that name, in letters of either case. -/
def ofName? (text : String) : Except String Family :=
  match [unibus, qbus].find?
    (fun family => family.name == text.map Char.toLower) with
  | some family => .ok family
  | none => .error s!"unknown bus variant '{text}' (expected unibus or qbus)"

end Family

end Backplane
