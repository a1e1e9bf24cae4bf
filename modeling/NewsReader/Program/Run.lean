import NewsReader.Config.Overrides
import NewsReader.Environment.Definitions
import NewsReader.Program.App
import NewsReader.Program.Arguments

/-!
# Runs of the program

A run reads the file of variables, the arguments, and the settings, in this order. Settings that
cannot be read are left aside with a warning. The environment goes over the saved settings, and the
arguments go over both. Then one command runs.

Arguments that cannot be understood and a wrong environment end the run with the code 2, and a
command that fails ends it with the code 1.
-/

namespace NewsReader.Program

/-- What a run is given. -/
structure Launch where
  /-- The arguments. -/
  arguments : List String
  /-- The environment. -/
  environment : Environment
  /-- The file of variables in the working directory. -/
  definitions : Option String
  /-- What is typed. -/
  input : List UInt8
  /-- The other side. -/
  peer : Peer

/-- What a run leaves. -/
structure Ending where
  /-- The machine after the run. -/
  machine : Machine
  /-- The code of the run. -/
  exitCode : Nat
  /-- What was printed. -/
  stdout : String
  /-- What the user was told beside that. -/
  stderr : String
  /-- The requests that went out. -/
  requests : List Http.Request
  /-- What was logged. -/
  events : List Event

/-- The variable with the password. -/
def passwordVariable : String :=
  "NEWSFEED_PASSWORD"

/-- The environment with the variables of the file. -/
def Launch.fullEnvironment (l : Launch) : Environment :=
  match l.definitions with
  | none => l.environment
  | some text => l.environment.addFile text

/-- What the user is told when a run fails. -/
def errorLine (text : String) : String :=
  Listing.text ["Error: " ++ text]

/-- The saved settings, or none with a warning if they cannot be read. -/
def Machine.settings (m : Machine) : Config × String :=
  match Config.load m.configPath m.configFile with
  | .ok config => (config, "")
  | .error fault =>
    (.empty, Listing.text ["Warning: ignoring unreadable config: " ++ fault.text])

/-- Put the settings of an invocation over others. -/
def Invocation.override (i : Invocation) (c : Config) : Config :=
  { c with server := i.server.or c.server, live := i.live.or c.live }

/-- The settings of a run: saved ones, the environment over them, and the invocation over both. -/
def settingsOf (saved : Config) (env : Environment) (i : Invocation) :
    Except StoreKind.Unknown Config :=
  match saved.override env with
  | (.error unknown, _) => .error unknown
  | (.ok (), config) => .ok (i.override config)

namespace Ending

/-- A run that ends before anything is done. -/
def early (machine : Machine) (exitCode : Nat) (stderr : String) : Ending :=
  { machine, exitCode, stdout := "", stderr, requests := [], events := [] }

/-- A run whose arguments are not an invocation. -/
def ofUsage (machine : Machine) (fault : UsageFault) : Ending :=
  if fault.isAnswer then { early machine 0 "" with stdout := fault.text }
  else early machine 2 fault.text

/-- A run whose command ran. -/
def ofReport (machine : Machine) (report : Report) : Ending :=
  let ending : Ending :=
    { machine := report.app.leave machine, exitCode := 0, stdout := report.printed
      stderr := report.notices, requests := report.requests, events := report.events }
  match report.errorText? with
  | none => ending
  | some text => { ending with exitCode := 1, stderr := report.notices ++ errorLine text }

/-- Tell the user something before the rest. -/
def warn (warning : String) (e : Ending) : Ending :=
  { e with stderr := warning ++ e.stderr }

end Ending

/-- Run a command with settings. -/
def runCommand (machine : Machine) (launch : Launch) (config : Config) (i : Invocation) : Ending :=
  match App.start config machine i.json with
  | (.error fault, events) => { Ending.early machine 1 (errorLine fault.text) with events }
  | (.ok app, events) =>
    let ending := Ending.ofReport machine (app.run launch.peer launch.input i.command)
    { ending with events := events ++ ending.events }

/-- Run the program. -/
def run (machine : Machine) (launch : Launch) : Ending :=
  let env := launch.fullEnvironment
  match Invocation.ofArguments (env passwordVariable) launch.arguments with
  | .error fault => .ofUsage machine fault
  | .ok invocation =>
    let (saved, warning) := machine.settings
    Ending.warn warning <|
      match settingsOf saved env invocation with
      | .error unknown => .early machine 2 (errorLine (Config.overrideText unknown))
      | .ok config => runCommand machine launch config invocation

end NewsReader.Program
