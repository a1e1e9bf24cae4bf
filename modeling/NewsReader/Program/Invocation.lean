/-!
# Invocations

An invocation of the program names a command and may give settings for this run. Whoever calls the
program in a way that it does not understand gets a usage fault.
-/

namespace NewsReader.Program

/-- A command with what it needs. -/
inductive Command where
  /-- Log in. The name and the password may be asked for. -/
  | login (name password : Option String)
  /-- End the session. -/
  | logout
  /-- Show who is logged in. -/
  | me
  /-- Show the state of the session and where the program talks to. -/
  | status
  /-- List the feeds. -/
  | feeds
  /-- List the news. -/
  | news
  /-- List the subscriptions. -/
  | subscriptions
  /-- Subscribe to a feed. -/
  | subscribe (feed : String)
  /-- End a subscription. -/
  | unsubscribe (feed : String)
  /-- Show news as they are pushed. -/
  | watch
  deriving DecidableEq

/-- A command and the settings for this run. -/
structure Invocation where
  /-- The address of the server. -/
  server : Option String
  /-- The address where news are pushed. -/
  live : Option String
  /-- Print JSON. -/
  json : Bool
  /-- The command. -/
  command : Command
  deriving DecidableEq

/-- An option that has a value. -/
inductive Valued where
  | server
  | live
  | name
  | password
  deriving DecidableEq

/-- The name of an option. -/
def Valued.name' : Valued → String
  | server => "server"
  | live => "live-url"
  | name => "name"
  | password => "password"

/-- The word for the value of an option. -/
def Valued.placeholder : Valued → String
  | server | live => "URL"
  | name => "NAME"
  | password => "PASSWORD"

/-- A reason why the arguments are not an invocation. -/
inductive UsageFault where
  /-- Help is asked for. -/
  | help
  /-- The version is asked for. -/
  | version
  /-- Nothing is given at all. -/
  | nothingGiven
  /-- There are options, and no command. -/
  | missingCommand
  /-- There is no such command. -/
  | unknownCommand
  /-- There is no such argument. -/
  | unknownArgument
  /-- An option has no value. -/
  | missingValue (option : Valued)
  /-- An option is given twice. -/
  | repeated
  /-- An option that has no value is given one. -/
  | surplusValue
  /-- A command needs an argument. -/
  | missingArgument
  deriving DecidableEq

/-- The version of the program. -/
def versionText : String :=
  "newsfeed 0.1.0\n"

/-- How the program is called. -/
def usageText : String :=
  "Usage: newsfeed [OPTIONS] <COMMAND>\n"

namespace UsageFault

/-- The fault is the answer to a question, and none of the caller. -/
def isAnswer : UsageFault → Bool
  | help | version => true
  | _ => false

/-- What is printed. -/
def text : UsageFault → String
  | version => versionText
  | missingValue option =>
    "error: a value is required for '--" ++ option.name' ++ " <" ++ option.placeholder ++
      ">' but none was supplied\n\nFor more information, try '--help'.\n"
  | _ => usageText

end UsageFault

end NewsReader.Program
