import Backplane.CommandLine.Session

/-!
# The command line

Collects the arguments, the environment and a random seed, runs one session,
and prints its texts.
-/

open Backplane

/-- What is printed when the arguments do not follow the grammar. -/
def usageText : String :=
  "Usage: qbone [--variant FAMILY] [--width BITS] [--memory-kw KW] COMMAND\n" ++
  "Commands: size, exercise FIRST LAST [--mode MODE] [--seconds SECONDS], " ++
  "power-cycle, init,\nprobe-arbitration [--no-error], format ADDRESS\n"

/-- The variables of the environment that set engine parameters. -/
def readEnvironment : IO (String → Option String) := do
  let names :=
    [Dma.Config.slotVariable, Dma.Config.bandwidthVariable,
      Dma.Config.seedVariable]
  let settings ← names.filterMapM fun name => do
    return (← IO.getEnv name).map (name, ·)
  return fun name => settings.lookup name

/-- A seed for engines without a configured one. -/
def readEntropy : IO UInt64 := do
  let bytes ← IO.getRandomBytes 8
  return bytes.foldl (fun seed byte => seed * 256 + byte.toUInt64) 0

def main (arguments : List String) : IO UInt32 := do
  let environment ← readEnvironment
  match CommandLine.run arguments environment (← readEntropy) with
  | .usage =>
    (← IO.getStderr).putStr usageText
    return 2
  | .exited code output errors =>
    (← IO.getStdout).putStr output
    (← IO.getStderr).putStr errors
    return code.toUInt32
