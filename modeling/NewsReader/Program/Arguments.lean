import NewsReader.Program.Invocation

/-!
# Reading arguments

Arguments are read from left to right on two levels: before the command and after it. The options
for the server, the live endpoint and JSON may stand on either level; what stands after the command
wins.

An option without its value waits for the next argument. Its value counts only when the wait is
over, which is when another option or a plain argument comes, or at the end; that is when an option
that has no value or is given twice is a fault. After `--` every argument is a plain one.
-/

namespace NewsReader.Program

/-- The commands by name. -/
inductive CommandName where
  | login
  | logout
  | me
  | status
  | feeds
  | news
  | subscriptions
  | subscribe
  | unsubscribe
  | watch
  deriving DecidableEq

namespace CommandName

/-- All commands. -/
def all : List CommandName :=
  [login, logout, me, status, feeds, news, subscriptions, subscribe, unsubscribe, watch]

/-- The word for a command. -/
def word : CommandName → String
  | login => "login"
  | logout => "logout"
  | me => "me"
  | status => "status"
  | feeds => "feeds"
  | news => "news"
  | subscriptions => "subscriptions"
  | subscribe => "subscribe"
  | unsubscribe => "unsubscribe"
  | watch => "watch"

/-- The command with this word. -/
def ofWord? (s : String) : Option CommandName :=
  all.find? (·.word = s)

/-- The command needs the id of a feed. -/
def needsFeed : CommandName → Bool
  | subscribe | unsubscribe => true
  | _ => false

end CommandName

/-- The word that asks for help with a command. -/
def helpWord : String :=
  "help"

/-- Where an argument stands: before the command, or after it. -/
inductive Place where
  | before
  | after (command : CommandName)
  deriving DecidableEq

/-- The options with a value that can stand at a place. -/
def Place.options : Place → List Valued
  | .after .login => [.server, .live, .name, .password]
  | _ => [.server, .live]

/-- What a value is for. -/
inductive Target where
  | option (option : Valued)
  | feed
  deriving DecidableEq

/-- What has been read at one place. -/
structure Given where
  /-- The values that count. -/
  values : List (Target × String)
  /-- JSON is asked for. -/
  json : Bool
  /-- What waits for its value, or has one that does not count yet. -/
  pending : Option (Target × Option String)
  /-- Every argument from here on is a plain one. -/
  plain : Bool
  deriving DecidableEq

namespace Given

/-- Nothing. -/
def nothing : Given :=
  ⟨[], false, none, false⟩

/-- The value of a target. -/
def value? (g : Given) (t : Target) : Option String :=
  g.values.lookup t

/-- An option waits for its value. -/
def isWaiting (g : Given) : Bool :=
  match g.pending with
  | some (_, none) => true
  | _ => false

/-- End the wait, so that the value counts. -/
def settle (g : Given) : Except UsageFault Given :=
  match g.pending with
  | none => .ok g
  | some (.option o, none) => .error (.missingValue o)
  | some (.feed, none) => .ok { g with pending := none }
  | some (t, some v) =>
    if (g.value? t).isSome then .error .repeated
    else .ok { g with values := g.values ++ [(t, v)], pending := none }

/-- Read an option that stands without its value. -/
def await (g : Given) (o : Valued) : Except UsageFault Given :=
  g.settle.map fun g => { g with pending := some (.option o, none) }

/-- Read an option that stands with its value. -/
def assign (g : Given) (o : Valued) (v : String) : Except UsageFault Given :=
  match g.settle with
  | .error fault => .error fault
  | .ok g => { g with pending := some (.option o, some v) }.settle

/-- Ask for JSON. -/
def askJson (g : Given) : Except UsageFault Given :=
  match g.settle with
  | .error fault => .error fault
  | .ok g => if g.json then .error .repeated else .ok { g with json := true }

/-- Give the value that is waited for. -/
def fill (g : Given) (v : String) : Given :=
  { g with pending := g.pending.map fun (t, _) => (t, some v) }

/-- The id of a feed has been read. -/
def hasFeed (g : Given) : Bool :=
  (g.value? .feed).isSome || g.pending.any (·.1 = .feed)

/-- A fault that is the answer to a question, once the wait is over. -/
def answer (g : Given) (fault : UsageFault) : Except UsageFault Given :=
  match g.settle with
  | .error fault => .error fault
  | .ok _ => .error fault

/-- Read a plain argument. Only the id of a feed can be one. -/
def addPlain (g : Given) (place : Place) (arg : String) : Except UsageFault Given :=
  match place with
  | .before =>
    if g.plain ∧ ((CommandName.ofWord? arg).isSome ∨ arg = helpWord) then
      .error .unknownArgument
    else .error .unknownCommand
  | .after command =>
    if command.needsFeed ∧ !g.hasFeed then
      g.settle.map fun g => { g with pending := some (.feed, some arg) }
    else .error .unknownArgument

end Given

/-- The name of a long option and the value that stands with it. -/
def splitOption (cs : List Char) : String × Option String :=
  match cs.span (· != '=') with
  | (name, []) => (String.ofList name, none)
  | (name, _ :: v) => (String.ofList name, some (String.ofList v))

/-- Read an argument that starts with two hyphens, which are left out. -/
def Given.addLong (g : Given) (place : Place) (cs : List Char) : Except UsageFault Given :=
  let (name, v) := splitOption cs
  match place.options.find? (·.name' = name), v with
  | some o, some v => g.assign o v
  | some o, none => g.await o
  | none, v =>
    let flag (act : Except UsageFault Given) : Except UsageFault Given :=
      if v.isSome then .error .surplusValue else act
    if name = "json" then flag g.askJson
    else if name = "help" then flag (g.answer .help)
    else if name = "version" ∧ place = .before then flag (g.answer .version)
    else .error .unknownArgument

/-- Read an argument that starts with one hyphen and goes on with `c`. -/
def Given.addShort (g : Given) (place : Place) (c : Char) : Except UsageFault Given :=
  if c = 'h' then g.answer .help
  else if c = 'V' ∧ place = .before then g.answer .version
  else .error .unknownArgument

/-- Read one argument that is no command. -/
def Given.add (g : Given) (place : Place) (arg : String) : Except UsageFault Given :=
  if g.plain then g.addPlain place arg
  else
    match arg.toList with
    | ['-', '-'] => .ok { g with plain := true }
    | '-' :: '-' :: cs => g.addLong place cs
    | '-' :: c :: _ => g.addShort place c
    | _ => if g.isWaiting then .ok (g.fill arg) else g.addPlain place arg

/-- Read the arguments after the command. -/
def readAfter (command : CommandName) (args : List String) : Except UsageFault Given :=
  match args.foldlM (fun g arg => g.add (.after command) arg) Given.nothing with
  | .error fault => .error fault
  | .ok g =>
    match g.settle with
    | .error fault => .error fault
    | .ok g => if command.needsFeed ∧ !g.hasFeed then .error .missingArgument else .ok g

/-- Help with commands: at most one, and one that there is. -/
def helpWith : List String → UsageFault
  | [] => .help
  | [word] =>
    if (CommandName.ofWord? word).isSome ∨ word = helpWord then .help else .unknownCommand
  | _ => .unknownCommand

/-- Read the arguments before the command, the command, and those after it. -/
def readBefore (g : Given) :
    List String → Except UsageFault (Given × Option (CommandName × Given))
  | [] => g.settle.map (·, none)
  | arg :: args =>
    if !g.plain ∧ !g.isWaiting ∧ arg = helpWord then .error (helpWith args)
    else
      match if g.plain ∨ g.isWaiting then none else CommandName.ofWord? arg with
      | some command =>
        match readAfter command args with
        | .error fault => .error fault
        | .ok after => g.settle.map (·, some (command, after))
      | none =>
        match g.add .before arg with
        | .error fault => .error fault
        | .ok g => readBefore g args

/-- The command with what was given after it. `password` is the password from the environment. -/
def commandOf (password : Option String) (command : CommandName) (g : Given) : Command :=
  let feed := (g.value? .feed).getD ""
  match command with
  | .login => .login (g.value? (.option .name)) ((g.value? (.option .password)).or password)
  | .logout => .logout
  | .me => .me
  | .status => .status
  | .feeds => .feeds
  | .news => .news
  | .subscriptions => .subscriptions
  | .subscribe => .subscribe feed
  | .unsubscribe => .unsubscribe feed
  | .watch => .watch

/-- Read the arguments of the program. `password` is the password from the environment. -/
def Invocation.ofArguments (password : Option String) (args : List String) :
    Except UsageFault Invocation :=
  match readBefore Given.nothing args with
  | .error fault => .error fault
  | .ok (before, none) =>
    .error (if before.values.isEmpty ∧ !before.json then .nothingGiven else .missingCommand)
  | .ok (before, some (command, after)) =>
    let setting (o : Valued) := (after.value? (.option o)).or (before.value? (.option o))
    .ok { server := setting .server, live := setting .live, json := before.json || after.json
          command := commandOf password command after }

end NewsReader.Program
