import NewsReader.Api.Failure
import NewsReader.Config.Endpoint
import NewsReader.Config.Session
import NewsReader.Http.Request
import NewsReader.Program.LoginInput

/-!
# Running programs and their reports

A running program has its settings, the place where they are saved, a session, and the address where
news are pushed. A command leaves a report: the program as it is then, what was printed, what the
user was told beside that, and what is wrong if the command failed.
-/

namespace NewsReader.Program

/-- A program that runs. -/
structure App where
  /-- The settings, with those of this run. -/
  config : Config
  /-- What stands where the settings are saved. -/
  configFile : Files.Node
  /-- The session. -/
  session : Session
  /-- The address where news are pushed. -/
  endpoint : String
  /-- Print JSON. -/
  json : Bool

/-- A reason why a command fails. -/
inductive Complaint where
  /-- The name or the password cannot be sent. -/
  | login (cause : LoginFault)
  /-- What was typed cannot be read. -/
  | input (cause : Files.Fault)
  /-- There is no terminal to ask for the password. -/
  | noTerminal
  /-- A call failed. -/
  | call (cause : Api.Failure)
  deriving DecidableEq

/-- What is shown of a complaint when the server is at `server`. -/
def Complaint.text (server : String) : Complaint → String
  | login cause => cause.text
  | input cause => cause.message
  | noTerminal => "No such device or address (os error 6)"
  | call cause => cause.userMessage server

/-- What a command leaves. -/
structure Report where
  /-- The program after the command. -/
  app : App
  /-- What was printed. -/
  printed : String
  /-- What the user was told beside that. -/
  notices : String
  /-- Why the command failed. -/
  complaint : Option Complaint
  /-- The requests that went out. -/
  requests : List Http.Request
  /-- What was logged. -/
  events : List Event

namespace Report

/-- A command that did nothing but print. -/
def printing (app : App) (printed : String) : Report :=
  { app, printed, notices := "", complaint := none, requests := [], events := [] }

/-- A command that failed before it did anything else. -/
def failing (app : App) (printed : String) (complaint : Complaint) : Report :=
  { printing app printed with complaint := some complaint }

/-- What is shown of the complaint. -/
def errorText? (r : Report) : Option String :=
  r.complaint.map (·.text r.app.config.serverUrl)

end Report

end NewsReader.Program
