import Backplane.Error

/-!
# Engine parameters

The backplane slot of the engine, its share of bus time, and the seed of its
random block lengths.  Each can be set by an environment variable; a text that
does not parse is reported before a value that is out of range.
-/

namespace Backplane.Dma

open Text

/-- Parameters of a transfer engine. -/
structure Config where
  /-- Backplane slot named in every request. -/
  slot : Nat := 31
  /-- Share of bus time, in percent. -/
  bandwidth : Nat := 50
  /-- Seed of the random generator; without one it starts anywhere. -/
  seed? : Option UInt64 := none
deriving DecidableEq

namespace Config

/-- Check the ranges of the parameters. -/
def validate (config : Config) : Except BusError Unit :=
  if ¬ (1 ≤ config.slot ∧ config.slot ≤ 31) then
    .error (.invalidConfig (.slotOutOfRange config.slot))
  else if ¬ (1 ≤ config.bandwidth ∧ config.bandwidth ≤ 100) then
    .error (.invalidConfig (.bandwidthOutOfRange config.bandwidth))
  else
    .ok ()

def slotVariable : String := "QBONE_DMA_PRIORITY_SLOT"

def bandwidthVariable : String := "QBONE_DMA_BANDWIDTH_PERCENT"

def seedVariable : String := "QBONE_DMA_SEED"

/-- The number in a variable, if the variable is set. -/
def readVariable (environment : String → Option String) (name : String)
    (limit : Nat) : Except BusError (Option Nat) :=
  match environment name with
  | none => .ok none
  | some text =>
    match readNumeral 10 limit (trim text.toList) with
    | .ok value => .ok (some value)
    | .error _ => .error (.invalidConfig (.unreadable name text))

/-- The defaults, with what the environment sets. -/
def ofEnvironment (environment : String → Option String) :
    Except BusError Config := do
  let slot? ← readVariable environment slotVariable 0xff
  let bandwidth? ← readVariable environment bandwidthVariable 0xffffffff
  let seed? ← readVariable environment seedVariable 0xffffffffffffffff
  let standard : Config := {}
  let config : Config :=
    { slot := slot?.getD standard.slot
      bandwidth := bandwidth?.getD standard.bandwidth
      seed? := seed?.map UInt64.ofNat }
  config.validate
  return config

end Config

end Backplane.Dma
