import Backplane.Proofs.CommandLine.Commands
import Backplane.Proofs.Dma.Environment

/-!
# Exit codes

The exit code of a session is a function of how far the session gets.  A failure
of a command is told apart by whether it is fatal.  A failure to open the bus is
not: it ends the session before the classification, so that a fatal error exits
like any other one there.
-/

namespace Backplane.CommandLine

open Dma

/-- How far a session gets. -/
inductive Course where
  /-- The bus cannot be opened. -/
  | unopened (failure : Failure)
  /-- The command fails on the open bus. -/
  | refused (failure : Failure)
  /-- A run without a timer whose range is installed: every pass succeeds, and
  nothing ends it. -/
  | endless
  | completed

/-- The width of the bus of a setup. -/
def Setup.width (setup : Setup) : Except Failure AddressWidth :=
  match setup.bits?, setup.family.fixedWidth? with
  | some bits, _ =>
    match setup.family.width? bits with
    | some width => .ok width
    | none => .error (.bus (.unsupportedWidth setup.family bits))
  | none, some width => .ok width
  | none, none => .error (.widthRequired setup.family)

/-- How far a command gets on an open bus with so many kilowords of memory. -/
def Command.course (memory : Nat) (width : AddressWidth) : Command → Course
  | .exercise firstText lastText _ seconds? =>
    match readRange width firstText lastText with
    | .error failure => .refused failure
    | .ok range =>
      if seconds? = none ∧ range.last < memory * 2048 then .endless
      else .completed
  | .format addressText =>
    match width.readAddress addressText with
    | .error fault => .refused (.operand fault)
    | .ok _ => .completed
  | _ => .completed

/-- How far a session gets. -/
def Invocation.course (environment : String → Option String) :
    Invocation → Course
  | .version => .completed
  | .run setup command =>
    match Config.ofEnvironment environment, setup.width with
    | .error fault, _ => .unopened (.bus fault)
    | .ok _, .error failure => .unopened failure
    | .ok _, .ok width => command.course setup.memory width

/-! ## Opening the bus -/

section Opening

variable {setup : Setup} {environment : String → Option String}
  {config : Config}

/-- The bus of a setup before its width is chosen. -/
def unsizedBus (setup : Setup) (config : Config) : Bus SimulatedBus :=
  { Bus.new (SimulatedBus.install {} (setup.memory * 2048)) setup.family with
    config := config }

theorem newBus_of_read (read : Config.ofEnvironment environment = .ok config) :
    newBus setup environment = .ok (unsizedBus setup config) := by
  have welcome := Config.welcome_of_valid (Config.ofEnvironment_eq_ok.mp read).2
  rw [newBus, read]
  exact congrArg (Except.mapError Failure.bus) (welcome.bus _ _)

theorem newBus_of_unread {fault : BusError}
    (unread : Config.ofEnvironment environment = .error fault) :
    newBus setup environment = .error (.bus fault) := by
  rw [newBus, unread]
  rfl

theorem chooseWidth_of_ok {width : AddressWidth}
    (valid : config.validate = .ok ()) (chosen : setup.width = .ok width) :
    ∃ opened : Opened, opened.memory = setup.memory ∧ opened.width = width ∧
      (chooseWidth setup).run (unsizedBus setup config) =
        .ok (.ok (), opened.bus) := by
  obtain ⟨family, bits?, memory⟩ := setup
  cases bits? with
  | some bits =>
      cases supported : family.width? bits with
      | none =>
          simp only [Setup.width, supported] at chosen
          cases chosen
      | some asked =>
          simp only [Setup.width, supported, Except.ok.injEq] at chosen
          subst chosen
          have configured := @Bus.configure_of_supported SimulatedBus _
            (unsizedBus ⟨family, some bits, memory⟩ config) _ _ supported
          refine ⟨⟨family, memory, config, valid, asked,
            ((unsizedBus ⟨family, some bits, memory⟩ config).withWidth
              asked).transport.journal⟩,
            rfl, rfl, ?_⟩
          rw [chooseWidth]
          exact onBus_bind_of_ok configured _
  | none =>
      cases family with
      | unibus =>
          cases chosen
          exact ⟨⟨.unibus, memory, config, valid, .bits18, _⟩, rfl, rfl, rfl⟩
      | qbus => cases chosen

theorem chooseWidth_of_error {failure : Failure}
    (refused : setup.width = .error failure) :
    Fails (chooseWidth setup) (unsizedBus setup config) failure := by
  obtain ⟨family, bits?, memory⟩ := setup
  cases bits? with
  | some bits =>
      cases supported : family.width? bits with
      | none =>
          simp only [Setup.width, supported, Except.error.injEq] at refused
          subst refused
          have unsupported := @Bus.configure_of_unsupported SimulatedBus _
            (unsizedBus ⟨family, some bits, memory⟩ config) _ supported
          rw [chooseWidth]
          exact .of_onBus unsupported _
      | some asked =>
          simp only [Setup.width, supported] at refused
          cases refused
  | none =>
      cases family with
      | unibus => cases refused
      | qbus =>
          cases refused
          exact ⟨_, rfl⟩

end Opening

/-! ## Running the command -/

section Running

variable {opened : Opened} {entropy : UInt64} {inTime : Nat} {command : Command}

theorem perform_of_refused {failure : Failure}
    (course : command.course opened.memory opened.width = .refused failure) :
    Fails (perform entropy inTime command) opened.bus failure := by
  cases command with
  | exercise firstText lastText mode seconds? =>
      simp only [Command.course] at course
      split at course
      · rename_i refused
        cases course
        exact exercise_fails refused
      · split at course <;> cases course
  | format addressText =>
      simp only [Command.course] at course
      split at course
      · rename_i unread
        cases course
        exact format_fails unread
      · cases course
  | _ => cases course

/-- A command that nothing refuses comes to its output, except that a run can go
on until it overflows the clock. -/
theorem perform_of_completed
    (course : command.course opened.memory opened.width = .completed) :
    Completes (perform entropy inTime command) opened.bus ∨
      2 ^ 55 < inTime ∧
        ∃ overflow, (perform entropy inTime command).run opened.bus =
          .error overflow := by
  cases command with
  | size => exact .inl size_completes
  | powerCycle => exact .inl powerCycle_completes
  | init => exact .inl init_completes
  | probeArbitration refuseClosed =>
      exact .inl (probeArbitration_completes refuseClosed)
  | format addressText =>
      simp only [Command.course] at course
      split at course
      · cases course
      · rename_i read
        exact .inl (format_completes read)
  | exercise firstText lastText mode seconds? =>
      simp only [Command.course] at course
      split at course
      · cases course
      · rename_i range read
        split at course
        · cases course
        · rename_i ends
          by_cases few : inTime ≤ 2 ^ 55
          · refine .inl (exercise_completes read (fun untimed => ?_) few)
            exact Nat.not_lt.mp fun within => ends ⟨untimed, within⟩
          · rcases exercise_completes_or_overflows read with
              completes | ⟨overflow, _, overflowed⟩
            · exact .inl completes
            · exact .inr ⟨Nat.not_le.mp few, overflow, overflowed⟩

/-- Only an exerciser without a timer, over an installed range, is endless. -/
theorem Command.exercise_of_endless {memory : Nat} {width : AddressWidth}
    (endless : command.course memory width = .endless) :
    ∃ firstText lastText mode range,
      command = .exercise firstText lastText mode none ∧
      readRange width firstText lastText = .ok range ∧
      range.last < memory * 2048 := by
  cases command with
  | exercise firstText lastText mode seconds? =>
      simp only [Command.course] at endless
      split at endless
      · cases endless
      · rename_i range read
        split at endless
        · rename_i untimed
          obtain ⟨rfl, installed⟩ := untimed
          exact ⟨_, _, _, range, rfl, read, installed⟩
        · cases endless
  | format addressText =>
      simp only [Command.course] at endless
      split at endless <;> cases endless
  | _ => cases endless

end Running

/-! ## Sessions -/

section Sessions

variable {setup : Setup} {command : Command}
  {environment : String → Option String} {entropy : UInt64} {inTime : Nat}

theorem session_of_unread {fault : BusError}
    (unread : Config.ofEnvironment environment = .error fault) :
    session setup command environment entropy inTime =
      .ok (failed false (.bus fault)) := by
  rw [session, newBus_of_unread unread]
  rfl

theorem session_of_unsized {config : Config} {failure : Failure}
    (read : Config.ofEnvironment environment = .ok config)
    (refused : setup.width = .error failure) :
    session setup command environment entropy inTime =
      .ok (failed false failure) := by
  obtain ⟨next, unchosen⟩ : Fails (chooseWidth setup)
      (unsizedBus setup config) failure :=
    chooseWidth_of_error refused
  rw [session, newBus_of_read read]
  change ((chooseWidth setup).run (unsizedBus setup config) >>=
    fun reached => _) = _
  rw [unchosen]
  rfl

/-- With an open bus a session ends as its command does. -/
theorem session_of_opened {config : Config} {width : AddressWidth}
    (read : Config.ofEnvironment environment = .ok config)
    (chosen : setup.width = .ok width) :
    ∃ opened : Opened, opened.memory = setup.memory ∧ opened.width = width ∧
      session setup command environment entropy inTime =
        ((perform entropy inTime command).run opened.bus >>= fun reached =>
          .ok (match reached.1 with
            | .error failure => failed failure.isFatal failure
            | .ok output => .exited 0 output "")) := by
  obtain ⟨opened, memory, sized, chose⟩ :=
    chooseWidth_of_ok (Config.ofEnvironment_eq_ok.mp read).2 chosen
  refine ⟨opened, memory, sized, ?_⟩
  rw [session, newBus_of_read read]
  change ((chooseWidth setup).run (unsizedBus setup config) >>=
    fun reached => _) = _
  rw [chose]
  change ((perform entropy inTime command).run opened.bus >>=
    fun reached => _) = _
  refine congrArg _ (funext fun reached => ?_)
  obtain ⟨result, next⟩ := reached
  cases result <;> rfl

end Sessions

/-! ## Bus errors of a session -/

section Faults

variable {environment : String → Option String} {fault : BusError}

theorem isFatal_of_ofEnvironment
    (unread : Config.ofEnvironment environment = .error fault) :
    fault.isFatal = true := by
  obtain ⟨offender, _, rfl⟩ := Config.ofEnvironment_eq_error.mp unread
  rfl

theorem Command.course_ne_unopened (command : Command) (memory : Nat)
    (width : AddressWidth) (failure : Failure) :
    command.course memory width ≠ .unopened failure := by
  cases command with
  | exercise firstText lastText mode seconds? =>
      simp only [Command.course]
      split
      · exact nofun
      · split <;> exact nofun
  | format addressText =>
      simp only [Command.course]
      split <;> exact nofun
  | _ => exact nofun

/-- A session meets no bus error that could be recovered from. -/
theorem Invocation.isFatal_of_unopened {invocation : Invocation}
    (course : invocation.course environment = .unopened (.bus fault)) :
    fault.isFatal = true := by
  cases invocation with
  | version => cases course
  | run setup command =>
      simp only [Invocation.course] at course
      split at course
      · rename_i unread
        cases course
        exact isFatal_of_ofEnvironment unread
      · rename_i refused
        cases course
        unfold Setup.width at refused
        split at refused
        · split at refused <;> cases refused
          rfl
        · cases refused
        · cases refused
      · exact absurd course (command.course_ne_unopened _ _ _)

end Faults

/-- How a session exits on its course, if its timer leaves time for so many
requests. -/
inductive Exits (inTime : Nat) : Course → Nat → String → String → Prop where
  | unopened (failure : Failure) :
      Exits inTime (.unopened failure) 1 "" s!"Error: {failure.message}\n"
  | fatal {failure : Failure} (fatal : failure.isFatal = true) :
      Exits inTime (.refused failure) 2 "" s!"FATAL: {failure.message}\n"
  | recoverable {failure : Failure} (recoverable : failure.isFatal = false) :
      Exits inTime (.refused failure) 1 "" s!"Error: {failure.message}\n"
  | completed (output : String) : Exits inTime .completed 0 output ""
  | overflowed (overflow : ClockOverflow) (late : 2 ^ 55 < inTime) :
      Exits inTime .completed 101 "" (overflow.message ++ "\n")

theorem exits_failed (inTime : Nat) (failure : Failure) :
    ∃ code errors, failed failure.isFatal failure = .exited code "" errors ∧
      Exits inTime (.refused failure) code "" errors := by
  cases fatal : failure.isFatal with
  | true => exact ⟨2, _, rfl, .fatal fatal⟩
  | false => exact ⟨1, _, rfl, .recoverable fatal⟩

section Runs

variable {arguments : List String} {environment : String → Option String}
  {entropy : UInt64} {inTime : Nat} {invocation : Invocation}

theorem run_of_session {setup : Setup} {command : Command} {ending : Ending}
    (accepted : Invocation.ofArguments? arguments = some (.run setup command))
    (ended : session setup command environment entropy inTime = .ok ending) :
    run arguments environment entropy inTime = ending := by
  rw [run, accepted]
  simp only [ended]

theorem run_of_overflow {setup : Setup} {command : Command}
    {overflow : ClockOverflow}
    (accepted : Invocation.ofArguments? arguments = some (.run setup command))
    (overflowed : session setup command environment entropy inTime =
      .error overflow) :
    run arguments environment entropy inTime =
      .exited 101 "" (overflow.message ++ "\n") := by
  rw [run, accepted]
  simp only [overflowed]

theorem run_exits
    (accepted : Invocation.ofArguments? arguments = some invocation)
    (ends : invocation.course environment ≠ .endless) :
    ∃ code output errors,
      run arguments environment entropy inTime = .exited code output errors ∧
        Exits inTime (invocation.course environment) code output errors := by
  cases invocation with
  | version =>
      refine ⟨0, versionText, "", ?_, .completed _⟩
      rw [run, accepted]
  | run setup command =>
      cases read : Config.ofEnvironment environment with
      | error fault =>
          simp only [Invocation.course, read]
          exact ⟨1, "", _, run_of_session accepted (session_of_unread read),
            .unopened _⟩
      | ok config =>
          cases chosen : setup.width with
          | error failure =>
              simp only [Invocation.course, read, chosen]
              exact ⟨1, "", _, run_of_session accepted
                (session_of_unsized read chosen), .unopened _⟩
          | ok width =>
              obtain ⟨opened, memory, sized, ran⟩ :=
                session_of_opened read chosen
              have course : (Invocation.run setup command).course environment =
                  command.course opened.memory opened.width := by
                simp only [Invocation.course, read, chosen, memory, sized]
              rw [course] at ends ⊢
              cases known : command.course opened.memory opened.width with
              | unopened failure =>
                  exact absurd known (command.course_ne_unopened _ _ _)
              | endless => exact absurd known ends
              | refused failure =>
                  obtain ⟨next, failing⟩ :
                      Fails (perform entropy inTime command) _ _ :=
                    perform_of_refused known
                  rw [failing] at ran
                  obtain ⟨code, errors, exited, exits⟩ :=
                    exits_failed inTime failure
                  exact ⟨code, "", errors, (run_of_session accepted ran).trans
                    exited, exits⟩
              | completed =>
                  rcases perform_of_completed known with
                    ⟨output, next, completing⟩ | ⟨late, overflow, overflowing⟩
                  · rw [completing] at ran
                    exact ⟨0, output, "", run_of_session accepted ran,
                      .completed output⟩
                  · rw [overflowing] at ran
                    exact ⟨101, "", _, run_of_overflow accepted ran,
                      .overflowed overflow late⟩

/-- A session whose exerciser nothing ends: its bus opens, its range is read,
and the run goes on. -/
inductive Unending (environment : String → Option String) (entropy : UInt64) :
    Invocation → Prop where
  | exercise {setup : Setup} {firstText lastText : String}
      {mode : Exerciser.Mode} {bus : Bus SimulatedBus} {opened : Opened}
      {range : AddressRange} (built : newBus setup environment = .ok bus)
      (sized : (chooseWidth setup).run bus = .ok (.ok (), opened.bus))
      (read : readRange opened.width firstText lastText = .ok range)
      (runsOn : RunsOn entropy range mode opened.bus) :
      Unending environment entropy
        (.run setup (.exercise firstText lastText mode none))

/-- A course is endless only where nothing ends the run. -/
theorem unending_of_endless
    (endless : invocation.course environment = .endless) :
    Unending environment entropy invocation := by
  obtain _ | ⟨setup, command⟩ := invocation
  · cases endless
  · simp only [Invocation.course] at endless
    split at endless
    · cases endless
    · cases endless
    · rename_i config width read chosen
      have valid := (Config.ofEnvironment_eq_ok.mp read).2
      obtain ⟨opened, memory, sized, chose⟩ := chooseWidth_of_ok valid chosen
      rw [← memory, ← sized] at endless
      obtain ⟨firstText, lastText, mode, range, rfl, between, installed⟩ :=
        Command.exercise_of_endless endless
      exact .exercise (newBus_of_read read) chose between
        (runsOn_of_installed between installed)

/-- The exit code of every accepted command line.  A run without a timer over
installed memory never ends.  Of all others the code is 0 just when the command
completes, unless the clock overflows; 2 just when the command fails fatally on
the open bus; and 1 when it fails otherwise or when the bus cannot be opened,
although each bus error is fatal there, too.  Nothing is printed with a code
other than 0. -/
theorem run_exit_code
    (accepted : Invocation.ofArguments? arguments = some invocation) :
    (invocation.course environment = .endless →
      Unending environment entropy invocation) ∧
    (invocation.course environment ≠ .endless → ∃ code output errors,
      run arguments environment entropy inTime = .exited code output errors ∧
      (code ≠ 0 → output = "") ∧
      (invocation.course environment = .completed ↔
        code = 0 ∨ code = 101 ∧ 2 ^ 55 < inTime) ∧
      (code = 2 ↔ ∃ failure, invocation.course environment = .refused failure ∧
        failure.isFatal = true) ∧
      (code = 1 ↔
        (∃ failure, invocation.course environment = .unopened failure) ∨
        ∃ failure, invocation.course environment = .refused failure ∧
          failure.isFatal = false) ∧
      (∀ failure, invocation.course environment = .refused failure →
        errors = if failure.isFatal then s!"FATAL: {failure.message}\n"
          else s!"Error: {failure.message}\n") ∧
      (∀ failure, invocation.course environment = .unopened failure →
        errors = s!"Error: {failure.message}\n") ∧
      (∀ fault, invocation.course environment = .unopened (.bus fault) →
        fault.isFatal = true)) := by
  refine ⟨unending_of_endless, fun ends => ?_⟩
  obtain ⟨code, output, errors, exited, exits⟩ :
      ∃ code output errors, run arguments environment entropy inTime =
        .exited code output errors ∧
          Exits inTime (invocation.course environment) code output errors :=
    run_exits accepted ends
  have opening : ∀ fault, invocation.course environment =
      .unopened (.bus fault) →
      fault.isFatal = true := fun _ => Invocation.isFatal_of_unopened
  refine ⟨code, output, errors, exited, ?_⟩
  generalize invocation.course environment = course at exits opening ⊢
  cases exits with
  | unopened failure => simpa using opening
  | fatal fatal => simp [fatal]
  | recoverable recoverable => simp [recoverable]
  | completed output => simp
  | overflowed overflow late => simpa using late

/-- A run over a range whose ends are exchanged. -/
def reversedExercise : Invocation :=
  .run {} (.exercise "10" "2" .addressPattern none)

theorem reversedExercise_accepted :
    Invocation.ofArguments? ["exercise", "10", "2"] =
      some reversedExercise := by
  have first : readExercise {} ["10", "2"] =
      readExercise { operands := ["10"] } ["2"] := by
    conv => lhs; rw [readExercise]
    rfl
  have second : readExercise { operands := ["10"] } ["2"] =
      readExercise { operands := ["10", "2"] } [] := by
    conv => lhs; rw [readExercise]
    rfl
  have command : readCommand "exercise" ["10", "2"] =
      some (.exercise "10" "2" .addressPattern none) := by
    change readExercise {} ["10", "2"] = _
    rw [first, second, readExercise]
    rfl
  rw [Invocation.ofArguments?, readArguments]
  change (readCommand "exercise" ["10", "2"]).map _ = _
  rw [command]
  rfl

/-- The exchanged range is a bus error that ends the command for good. -/
theorem run_exit_code_of_reversed_range :
    Invocation.ofArguments? ["exercise", "10", "2"] = some reversedExercise ∧
    reversedExercise.course (fun _ => none) ≠ .endless ∧
    run ["exercise", "10", "2"] (fun _ => none) 0 0 =
      .exited 2 "" "FATAL: Invalid request: bad exerciser range 10..2\n" := by
  have course : reversedExercise.course (fun _ => none) =
      .refused (.bus (.invalidRequest (.badExerciseRange 8 2))) := rfl
  have ends : reversedExercise.course (fun _ => none) ≠ .endless := by
    rw [course]
    exact nofun
  obtain ⟨code, output, errors, exited, silent, _, two, _, message, _⟩ :=
    (@run_exit_code ["exercise", "10", "2"] (fun _ => none) 0 0 reversedExercise
      reversedExercise_accepted).2 ends
  have fatal : code = 2 := two.mpr ⟨_, course, rfl⟩
  have printed := message _ course
  rw [fatal, silent (by omega), printed] at exited
  exact ⟨reversedExercise_accepted, ends, exited⟩

/-- A wired bus of 18 lines is asked for 16. -/
def narrowUnibus : Invocation :=
  .run { bits? := some 16 } .size

/-- A fatal error that arises while the bus is opened exits like any other
error. -/
theorem run_of_narrowUnibus :
    Invocation.ofArguments? ["--width", "16", "size"] = some narrowUnibus ∧
    narrowUnibus.course (fun _ => none) =
      .unopened (.bus (.unsupportedWidth .unibus 16)) ∧
    (BusError.unsupportedWidth .unibus 16).isFatal = true ∧
    run ["--width", "16", "size"] (fun _ => none) 0 =
      .exited 1 ""
        "Error: UNIBUS: unsupported address width 16 (supported: [18])\n" := by
  have accepted : Invocation.ofArguments? ["--width", "16", "size"] =
      some narrowUnibus := by
    have option : readArguments {} ["--width", "16", "size"] =
        readArguments { bits? := some 16 } ["size"] := by
      conv => lhs; rw [readArguments]
      rfl
    rw [Invocation.ofArguments?, option, readArguments]
    rfl
  refine ⟨accepted, rfl, rfl, ?_⟩
  rw [run, accepted]
  rfl

end Runs

end Backplane.CommandLine
