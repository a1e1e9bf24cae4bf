import NewsReader.Config.StoreKind
import NewsReader.Files.Node
import NewsReader.Json.Wire

/-!
# The configuration

The configuration says which server to talk to, where it pushes news, how the token is kept, how
often to ping, how long to wait, where to log, and who logged in last. It is a JSON file. Every
setting may be missing; a missing file is a configuration without settings.
-/

namespace NewsReader

open Json (Reader Field Fields RecordShape Value Wire)

/-- The settings. -/
structure Config where
  /-- The address of the server. -/
  server : Option String
  /-- The address where news are pushed. -/
  live : Option String
  /-- How the token is kept. -/
  store : StoreKind
  /-- The time between two pings, in milliseconds. -/
  heartbeat : Option Nat
  /-- How long to wait for a reply, in seconds. -/
  timeout : Option Nat
  /-- The directory for logs. -/
  logDirectory : Option String
  /-- The name of the last login. -/
  lastUser : Option String
  deriving DecidableEq

namespace Config

/-- A configuration without settings. -/
def empty : Config :=
  ⟨none, none, .file, none, none, none, none⟩

/-- The fields of the configuration. -/
def shape : RecordShape Config where
  name := "Config"
  types :=
    [Option String, Option String, StoreKind, Option Nat, Option Nat, Option String, Option String]
  fields :=
    .cons (.optional "server_url" (.text "a string")) <|
    .cons (.optional "live_url" (.text "a string")) <|
    .cons (.defaulted "token_store" StoreKind.reader .file) <|
    .cons (.optional "heartbeat_interval_ms" .natural) <|
    .cons (.optional "request_timeout_secs" .natural) <|
    .cons (.optional "log_dir" (.text "path string")) <|
    .cons (.optional "last_username" (.text "a string")) .nil
  build
    | (server, live, store, heartbeat, timeout, logDirectory, lastUser, ()) =>
      ⟨server, live, store, heartbeat, timeout, logDirectory, lastUser⟩

/-- The written configuration. -/
def json (c : Config) : Value :=
  .object [("server_url", .ofText? c.server), ("live_url", .ofText? c.live),
    ("token_store", .text c.store.name), ("heartbeat_interval_ms", .ofNat? c.heartbeat),
    ("request_timeout_secs", .ofNat? c.timeout), ("log_dir", .ofText? c.logDirectory),
    ("last_username", .ofText? c.lastUser)]

instance : Wire Config where
  reader := shape.reader
  json := json

/-- The text of the file that holds the configuration. -/
def fileText (c : Config) : String :=
  c.json.indented

/-- A reason why the configuration cannot be loaded. -/
inductive LoadFault where
  /-- The file cannot be read. -/
  | unreadable (path : String) (cause : Files.Fault)
  /-- The file does not hold a configuration. -/
  | content (cause : Json.Fault)
  deriving DecidableEq

/-- The text of the fault. -/
def LoadFault.text : LoadFault → String
  | unreadable path cause => "Failed to read config file " ++ path ++ ": " ++ cause.message
  | content cause => "Failed to parse config file: " ++ cause.message

/-- Load the configuration from what stands at a path. -/
def load (path : String) (node : Files.Node) : Except LoadFault Config :=
  match node.readText with
  | .error cause => .error (.unreadable path cause)
  | .ok none => .ok empty
  | .ok (some text) => (Wire.decode text).mapError .content

/-- Save the configuration to a path. -/
def save (c : Config) (node : Files.Node) : Except Files.Fault Files.Node :=
  node.write c.fileText

/-- The server that is used if no other is set. -/
def defaultServer : String :=
  "http://localhost:3000"

/-- The address of the server. -/
def serverUrl (c : Config) : String :=
  c.server.getD defaultServer

/-- The time between two pings that is used if no other is set, in milliseconds. -/
def defaultHeartbeat : Nat :=
  1000

/-- A number that is set and not zero. -/
def positive? (n : Option Nat) : Option Nat :=
  n.filter (0 < ·)

/-- The time between two pings, in milliseconds. -/
def heartbeatInterval (c : Config) : Nat :=
  (positive? c.heartbeat).getD defaultHeartbeat

/-- How long to wait for a reply, in seconds, if there is a limit. -/
def requestTimeout (c : Config) : Option Nat :=
  positive? c.timeout

end Config

end NewsReader
