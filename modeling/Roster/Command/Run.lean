import Roster.Command.Basic
import Roster.Command.Completion
import Roster.Command.Demo
import Roster.Command.Serve
import Roster.Settings.File

/-!
# Running a command line

A command line asks for help, runs a command, or is one that a shell wants to complete. Settings come from
flags, variables and a file. A fault ends the command; it is told twice, once as an error and once as it
is.
-/

namespace Roster.Command

/-- A command line and the variables it runs with. -/
structure Invocation where
  arguments : List Text
  environment : List (Text × Text) := []
  /-- The moment it starts. -/
  start : Instant := 0
  /-- Whether log lines start with the time. -/
  timed : Bool := false

/-- How a command ended: its exit code and what it printed. -/
structure Outcome where
  exit : Nat
  console : Console
deriving Repr, DecidableEq

/-- The outcome of a command that succeeded. -/
def succeeded (console : Console) : Outcome := { exit := 0, console }

/-- The outcome of a command that failed; `hint` stands between the two times the message is told. -/
def failed (console : Console) (message hint : Text) : Outcome :=
  let told := utf8 "Error: " ++ message ++ utf8 "\n" ++ hint ++ message ++ utf8 "\n"
  { exit := 1, console := { console with errors := console.errors ++ told } }

/-- Loads the settings and sets up the log. -/
def prepare (c : Command) (fs : Flags) (environment : List (Text × Text)) : Work Settings := do
  let path := fs.textOf "config"
  let machine := (← get).machine
  let file ←
    if path.isEmpty then pure []
    else Work.ofExcept (Settings.fileEntries environment path (machine.content? path))
  let settings ← Work.ofExcept (Settings.load { flags := fs.settings c.flags, environment, file })
  let threshold ← Work.ofExcept settings.level
  modify fun s => { s with threshold }
  if !path.isEmpty then Work.log .debug "using config file" [("path", .text path)]
  pure settings

/-- The work of a command under its settings. -/
def work (c : Command) (settings : Settings) : Work Unit :=
  match c with
  | .serve => do
    Work.ofExcept settings.checkSecret
    Serve.run settings
  | .demo => Work.perform (Demo.run settings.fetchDelay settings.counterDelay)
  | .program | .help => pure ()

/-- The answer to a request for help on what words name. -/
def helpOn (words : List Text) : Console :=
  match find words with
  | .ok (c, _) => { output := c.helpText }
  | .error _ => { errors := unknownTopic words }

/-- Runs a command with its flags. -/
def execute (m : Machine) (i : Invocation) (c : Command) (fs : Flags) : Outcome × Machine :=
  let stage : Stage := { machine := m, world := { clock := i.start }, timed := i.timed }
  let (r, stage) := (do work c (← prepare c fs i.environment)).run.run stage
  match r with
  | .ok () => (succeeded stage.console, stage.left)
  | .error f => (failed stage.console f.message [], stage.left)

/-- Runs the command that a command line names. -/
def runCommand (m : Machine) (i : Invocation) : Outcome × Machine :=
  match find i.arguments with
  | .error f =>
    let hint := utf8 "Run '" ++ path .program ++ utf8 " --help' for usage.\n"
    (failed {} f.message hint, m)
  | .ok (c, rest) =>
    match Flags.parse c.flags rest with
    | .error message => (failed {} message [], m)
    | .ok fs =>
      if fs.isOn "help" || c == .program then (succeeded { output := c.helpText }, m)
      else if c == .help then (succeeded (helpOn fs.words), m)
      else execute m i c fs

/-- Answers a shell that asks by a word how a line may go on. -/
def complete (environment : List (Text × Text)) (word : Text) (line : List Text) : Outcome :=
  match Completion.answer environment word line with
  | .ok console => succeeded console
  | .error message => failed {} message []

/-- Runs a command line on a machine, or tells a shell how it may go on. -/
def run (m : Machine) (i : Invocation) : Outcome × Machine :=
  match completionLine? i.arguments with
  | some (word, line) => (complete i.environment word line, m)
  | none => runCommand m i

/-- The file of settings that a command line names, if it names one. -/
def configFile? (arguments : List Text) : Option Text := do
  let (c, rest) ← (find arguments).toOption
  let fs ← (Flags.parse c.flags rest).toOption
  let path := fs.textOf "config"
  if path.isEmpty then none else some path

end Roster.Command
