import NewsReader.Config.Basic
import NewsReader.Environment.Basic

/-!
# Settings from the environment

A variable of the environment that is not blank takes the place of the setting in the file. Only the
kind of vault can be wrong; the settings before it are then changed already.
-/

namespace NewsReader.Config

/-- The value of a variable, if it is not blank. -/
def given (env : Environment) (name : String) : Option String :=
  (env name).filter (!Text.isBlankText ·)

/-- The variable with the address of the server. -/
def serverVariable : String :=
  "NEWSFEED_SERVER_URL"

/-- The variable with the address where news are pushed. -/
def liveVariable : String :=
  "NEWSFEED_LIVE_URL"

/-- The variable with the kind of vault. -/
def storeVariable : String :=
  "NEWSFEED_TOKEN_STORE"

/-- The variable with the directory for logs. -/
def logVariable : String :=
  "NEWSFEED_LOG_DIR"

/-- The text of the fault of a variable with an unknown kind of vault. -/
def overrideText (cause : StoreKind.Unknown) : String :=
  "Invalid " ++ storeVariable ++ ": " ++ cause.message

/-- Put the variables of the environment over the settings. -/
def override (c : Config) (env : Environment) : Except StoreKind.Unknown Unit × Config :=
  let c := { c with
    server := (given env serverVariable).or c.server
    live := (given env liveVariable).or c.live }
  match (given env storeVariable).map StoreKind.ofText with
  | some (.error unknown) => (.error unknown, c)
  | kind =>
    (.ok (), { c with
      store := (kind.bind Except.toOption).getD c.store
      logDirectory := (given env logVariable).or c.logDirectory })

end NewsReader.Config
