import Backplane.Exerciser.Report
import Backplane.Family
import Backplane.Text.Numeral

/-!
# Command-line arguments

The grammar of the command line: options of the bus, then one command with its
own operands and options.  An option is given at most once, its value follows
as the next argument or after an equals sign, and two dashes end the options
of a command.
-/

namespace Backplane.CommandLine

open Text

/-- How the bus is to be opened. -/
structure Setup where
  family : Family := .unibus
  /-- Number of address lines, as asked for. -/
  bits? : Option Nat := none
  /-- Installed memory in kilowords. -/
  memory : Nat := 124

inductive Command where
  | size
  | exercise (first last : String) (mode : Exerciser.Mode)
      (seconds? : Option Nat)
  | powerCycle
  | init
  | probeArbitration (refuseClosed : Bool)
  | format (address : String)

/-- What the arguments ask for. -/
inductive Invocation where
  | version
  | run (setup : Setup) (command : Command)

/-- An argument as it stands. -/
inductive Token where
  | endOfOptions
  /-- An option, perhaps with a value attached. -/
  | option (name : String) (value? : Option String)
  /-- One or more options of a single letter. -/
  | letters (letters : List Char)
  | operand (text : String)

/-- Split an option at its first equals sign. -/
def splitOption (chars : List Char) : Token :=
  let name := String.ofList (chars.takeWhile (· != '='))
  match chars.dropWhile (· != '=') with
  | [] => .option name none
  | _ :: value => .option name (some (String.ofList value))

/-- Classify an argument; a dash alone is an operand. -/
def tokenOf (argument : String) : Token :=
  match argument.toList with
  | ['-', '-'] => .endOfOptions
  | '-' :: '-' :: name => splitOption name
  | '-' :: c :: rest => .letters (c :: rest)
  | _ => .operand argument

/-- The value of an option and the arguments behind it. -/
def takeValue (attached? : Option String) (rest : List String) :
    Option (String × List String) :=
  match attached?, rest with
  | some value, rest => some (value, rest)
  | none, [] => none
  | none, argument :: rest =>
    match tokenOf argument with
    | .operand value => some (value, rest)
    | _ => none

/-- A number up to a limit. -/
def readNumber? (limit : Nat) (text : String) : Option Nat :=
  (readNumeral 10 limit text.toList).toOption

/-- A number up to a limit where a minus sign may stand before zero. -/
def readSigned? (limit : Nat) (text : String) : Option Nat :=
  match text.toList with
  | '-' :: '+' :: _ => none
  | '-' :: digits => (readNumeral 10 0 digits).toOption
  | chars => (readNumeral 10 limit chars).toOption

/-- The largest simulated memory, in kilowords. -/
def memoryLimit : Nat := 2048

/-- The options of the exercise command, and the operands before them. -/
structure ExerciseArguments where
  operands : List String := []
  mode? : Option Exerciser.Mode := none
  seconds? : Option Nat := none

/-- Accept an operand as long as one is missing. -/
def ExerciseArguments.addOperand (arguments : ExerciseArguments)
    (text : String) : Option ExerciseArguments :=
  if arguments.operands.length < 2 then
    some { arguments with operands := arguments.operands ++ [text] }
  else
    none

/-- Accept an option that was not given before. -/
def ExerciseArguments.addOption (arguments : ExerciseArguments)
    (name value : String) : Option ExerciseArguments :=
  match name, arguments.mode?, arguments.seconds? with
  | "mode", none, _ =>
    match Exerciser.Mode.ofName? value with
    | .ok mode => some { arguments with mode? := some mode }
    | .error _ => none
  | "seconds", _, none =>
    match readNumber? 0xffffffffffffffff value with
    | some seconds => some { arguments with seconds? := some seconds }
    | none => none
  | _, _, _ => none

/-- The command, once both operands are there. -/
def ExerciseArguments.command? (arguments : ExerciseArguments) :
    Option Command :=
  match arguments.operands with
  | [first, last] =>
    some (.exercise first last (arguments.mode?.getD .addressPattern)
      arguments.seconds?)
  | _ => none

theorem length_of_takeValue {attached? : Option String} {rest : List String}
    {found : String × List String}
    (taken : takeValue attached? rest = some found) :
    found.2.length ≤ rest.length := by
  unfold takeValue at taken
  split at taken
  · cases taken
    exact Nat.le_refl _
  · cases taken
  · split at taken
    · cases taken
      exact Nat.le_succ _
    · cases taken

/-- Read the arguments of the exercise command. -/
def readExercise (arguments : ExerciseArguments) (tokens : List String) :
    Option Command :=
  match tokens with
  | [] => arguments.command?
  | argument :: rest =>
    match tokenOf argument with
    | .letters _ => none
    | .endOfOptions =>
      (rest.foldlM ExerciseArguments.addOperand arguments).bind
        ExerciseArguments.command?
    | .operand text => do
      let arguments ← arguments.addOperand text
      readExercise arguments rest
    | .option name attached? =>
      match taken : takeValue attached? rest with
      | none => none
      | some (value, behind) => do
        have : behind.length ≤ rest.length := length_of_takeValue taken
        let arguments ← arguments.addOption name value
        readExercise arguments behind
termination_by tokens.length

/-- Read a single operand. -/
def readOperandOnly (tokens : List String) : Option String :=
  match tokens with
  | [argument] =>
    match tokenOf argument with
    | .operand text => some text
    | _ => none
  | [first, second] =>
    match tokenOf first, tokenOf second with
    | .endOfOptions, _ => some second
    | .operand text, .endOfOptions => some text
    | _, _ => none
  | _ => none

/-- Read the absence of arguments. -/
def readNothing (tokens : List String) : Bool :=
  match tokens with
  | [] => true
  | [argument] => argument == "--"
  | _ => false

/-- Read the option of the jumper probe, which turns refusal off. -/
def readProbe (tokens : List String) : Option Command :=
  match tokens with
  | "--no-error" :: rest =>
    if readNothing rest then some (.probeArbitration false) else none
  | _ => if readNothing tokens then some (.probeArbitration true) else none

/-- Read a command and its arguments. -/
def readCommand (name : String) (rest : List String) : Option Command :=
  match name with
  | "size" => if readNothing rest then some .size else none
  | "exercise" => readExercise {} rest
  | "power-cycle" => if readNothing rest then some .powerCycle else none
  | "init" => if readNothing rest then some .init else none
  | "probe-arbitration" => readProbe rest
  | "format" => (readOperandOnly rest).map .format
  | _ => none

/-- The options of the bus that were given so far. -/
structure SetupArguments where
  family? : Option Family := none
  bits? : Option Nat := none
  memory? : Option Nat := none

/-- Accept an option that was not given before. -/
def SetupArguments.addOption (arguments : SetupArguments)
    (name value : String) : Option SetupArguments :=
  match name, arguments.family?, arguments.bits?, arguments.memory? with
  | "variant", none, _, _ =>
    match Family.ofName? value with
    | .ok family => some { arguments with family? := some family }
    | .error _ => none
  | "width", _, none, _ =>
    match readSigned? 255 value with
    | some bits => some { arguments with bits? := some bits }
    | none => none
  | "memory-kw", _, _, none =>
    match readSigned? memoryLimit value with
    | some memory => some { arguments with memory? := some memory }
    | none => none
  | _, _, _, _ => none

/-- The setup, with the defaults for what was not given. -/
def SetupArguments.setup (arguments : SetupArguments) : Setup :=
  let standard : Setup := {}
  { family := arguments.family?.getD standard.family
    bits? := arguments.bits?
    memory := arguments.memory?.getD standard.memory }

/-- Whether an argument asks for the version. -/
def Token.isVersion : Token → Bool
  | option "version" none => true
  | letters ('V' :: _) => true
  | _ => false

/-- Read a command line after the options in `arguments`. -/
def readArguments (arguments : SetupArguments) (tokens : List String) :
    Option Invocation :=
  match tokens with
  | [] => none
  | argument :: rest =>
    let token := tokenOf argument
    if token.isVersion then
      some .version
    else
      match token with
      | .endOfOptions | .letters _ => none
      | .operand name => (readCommand name rest).map (.run arguments.setup)
      | .option name attached? =>
        match taken : takeValue attached? rest with
        | none => none
        | some (value, behind) => do
          have : behind.length ≤ rest.length := length_of_takeValue taken
          let arguments ← arguments.addOption name value
          readArguments arguments behind
termination_by tokens.length

/-- Read a command line; `none` if it does not follow the grammar. -/
def Invocation.ofArguments? (arguments : List String) : Option Invocation :=
  readArguments {} arguments

end Backplane.CommandLine
