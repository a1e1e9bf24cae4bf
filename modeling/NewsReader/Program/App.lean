import NewsReader.Api.Traffic
import NewsReader.Live.Payload
import NewsReader.Program.Invocation
import NewsReader.Program.Listing
import NewsReader.Program.Peer
import NewsReader.Program.Report

/-!
# Commands

Each command is one call whose answer is printed; the listing of feeds is two calls at the same
time. A login keeps the name for the next one. To watch is to have one live connection to its end,
and to print what it hands over.

A login asks for the name if neither the invocation nor the settings have it. A password is never
asked for without a terminal.
-/

namespace NewsReader.Program

/-- A place where settings are saved, and those where a token can be kept. -/
structure Machine where
  /-- Where the settings are saved. -/
  configPath : String
  /-- What stands there. -/
  configFile : Files.Node
  /-- Where a token can be kept. -/
  places : Places

namespace App

/-- Start a program with settings. It has the session that they ask for. -/
def start (config : Config) (machine : Machine) (json : Bool) :
    Except Config.EndpointFault App × List Event :=
  let (session, events) := config.session machine.places
  (config.liveEndpoint.map fun endpoint =>
    { config, configFile := machine.configFile, session, endpoint, json }, events)

/-- The machine after the program. -/
def leave (app : App) (machine : Machine) : Machine :=
  { machine with configFile := app.configFile, places := machine.places.after app.session.vault }

/-- The report of a call that is over. -/
def reportOf {α : Type} (app : App) (outcome : Call.Outcome α) (print : α → String) : Report :=
  let after : Report :=
    { app := { app with session := outcome.session }, printed := "", notices := ""
      complaint := none, requests := outcome.request.toList, events := outcome.events }
  match outcome.result with
  | .ok a => { after with printed := print a }
  | .error failure => { after with complaint := some (.call failure) }

/-- Make a call. -/
def ask {α : Type} (app : App) (peer : Peer) (call : Call α) (print : α → String) : Report :=
  app.reportOf (call.perform app.config.serverUrl (peer.replyTo call) app.session) print

/-! ## Login -/

/-- What is printed to ask for the name. -/
def namePrompt : String :=
  "Name: "

/-- The first line of what is typed, without the blanks around it. -/
def typedName (input : List UInt8) : Except Complaint String :=
  match Text.decode? (input.takeWhile (· ≠ 0x0A)) with
  | some cs => .ok (String.ofList (Text.trimChars cs))
  | none => .error (.input .notText)

/-- The name to log in with, and what is printed to ask for it. -/
def loginName (app : App) (name : Option String) (input : List UInt8) :
    String × Except Complaint String :=
  match name.or app.config.lastUser with
  | some name => ("", .ok name)
  | none => (namePrompt, typedName input)

/-- The name and the password to send. -/
def credentials (name : Except Complaint String) (password : Option String) :
    Except Complaint (String × String) := do
  let name ← name
  let password ← (match password with
    | some password => .ok password
    | none => .error .noTerminal : Except Complaint String)
  (checkLogin name password).mapError .login
  return (name, password)

/-- Keep the name of the user in the settings and save them. It does not matter if that fails. -/
def remember (app : App) (name : String) : App :=
  let config := { app.config with lastUser := some name }
  { app with config, configFile := (config.save app.configFile).toOption.getD app.configFile }

/-- Log in. -/
def login (app : App) (peer : Peer) (input : List UInt8) (name password : Option String) : Report :=
  let (prompt, name) := app.loginName name input
  match credentials name password with
  | .error complaint => .failing app prompt complaint
  | .ok (name, password) =>
    let report :=
      app.ask peer (.login name password) fun _ => Listing.text ["Logged in as " ++ name]
    let report := { report with printed := prompt ++ report.printed }
    if report.complaint.isSome then report else { report with app := report.app.remember name }

/-! ## The other commands -/

/-- Log out, if somebody is logged in. -/
def logout (app : App) (peer : Peer) : Report :=
  if app.session.isAuthenticated then app.ask peer .logout fun () => Listing.text ["Logged out"]
  else .printing app (Listing.text ["Not logged in"])

/-- The lines for the state of the program. -/
def statusLines (app : App) : List String :=
  ["Session:  " ++ app.session.state.text, "Server:   " ++ app.config.serverUrl,
    "Live:     " ++ app.endpoint] ++ app.config.lastUser.toList.map ("Last user: " ++ ·)

/-- List the feeds and mark those that are subscribed to. -/
def feeds (app : App) (peer : Peer) : Report :=
  let outcome := Call.both app.config.serverUrl .feeds .subscriptions
    (peer.replyTo .feeds, peer.replyTo .subscriptions) peer.arrivals app.session
  let report := app.reportOf outcome.toOutcome fun (feeds, subscriptions) =>
    Listing.print app.json (Listing.feeds subscriptions) feeds
  { report with requests := report.requests ++ outcome.secondRequest.toList }

/-- The line for a pushed payload: the payload itself as JSON, else the line for the news item in
it. -/
def payloadLine? (app : App) (payload : String) : Option String :=
  if app.json then some payload else (Live.newsItem? payload).map NewsItem.line

/-- What is logged of a pushed payload. -/
def payloadEvents (app : App) (payload : String) : List Event :=
  if app.json then [] else Live.payloadEvents payload

/-- What is printed for payloads. -/
def shown (app : App) (payloads : List String) : String :=
  Listing.text (payloads.filterMap app.payloadLine?)

/-- What the user is told at the end of a live connection that was not interrupted. -/
def closingNotice (c : Live.Channel) : List String :=
  if c.isClosed && !c.cancelled then ["Live channel closed"] else []

/-- Print news as they are pushed, while a watch makes moves. -/
def listen (app : App) (moves : List Live.Watch.Move) : Report :=
  let first := Live.Watch.start app.endpoint app.session
  let (last, events) := first.listen app.payloadEvents moves
  { Report.printing { app with session := last.session } (app.shown last.channel.delivered) with
    notices :=
      Listing.text
        (("Listening on " ++ app.endpoint ++ " (Ctrl-C to stop)") :: closingNotice last.channel)
    events := first.channel.openingEvents ++ events }

/-- Print news as they are pushed. -/
def watch (app : App) (peer : Peer) : Report :=
  app.listen (peer.liveMoves app.endpoint app.session.token)

/-- Run a command. `input` is what is typed if the command asks for something. -/
def run (app : App) (peer : Peer) (input : List UInt8) : Command → Report
  | .login name password => app.login peer input name password
  | .logout => app.logout peer
  | .me => app.ask peer .me (Listing.print app.json Listing.user)
  | .status => .printing app (Listing.text app.statusLines)
  | .feeds => app.feeds peer
  | .news => app.ask peer .news (Listing.print app.json Listing.news)
  | .subscriptions => app.ask peer .subscriptions (Listing.print app.json Listing.subscriptions)
  | .subscribe feed => app.ask peer (.subscribe feed) (Listing.print app.json Listing.subscribed)
  | .unsubscribe feed =>
    app.ask peer (.unsubscribe feed) (Listing.print app.json (Listing.unsubscribed feed))
  | .watch => app.watch peer

end App

end NewsReader.Program
