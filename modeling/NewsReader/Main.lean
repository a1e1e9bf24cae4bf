import NewsReader.Program.Run

/-!
# The program on a machine

The settings, the session file, the environment and what is typed are taken from the machine, one
run is computed, and what it leaves is written back. The machine has no connection to a server and
no keychain, so requests get no reply and a vault in the keychain is locked.
-/

namespace NewsReader.Main

open Program

/-- The names of variables that a file may ask for. -/
def namesIn (text : String) : List String :=
  let runs (p : Char → Bool) : List String :=
    (Url.splitAtChar ' ' (text.toList.map fun c => if p c then c else ' ')).map String.ofList
  runs Environment.inName ++ runs Text.isAlphanumeric ++ runs fun c => c != '\x7b' && c != '\x7d'

/-- The variables that the program reads. -/
def ownNames : List String :=
  [Config.serverVariable, Config.liveVariable, Config.storeVariable, Config.logVariable,
    passwordVariable]

/-- The variables with these names. -/
def readEnvironment (names : List String) : IO Environment := do
  let pairs ← names.filterMapM fun name => do
    return (← IO.getEnv name).map (name, ·)
  return .ofPairs pairs

/-- What stands at a path. What is there and cannot be read counts as a directory. -/
def readNode (path : String) : IO Files.Node := do
  try
    return .file (← IO.FS.readBinFile path).toList
  catch
    | .noFileOrDirectory .. => return .absent
    | _ => return .directory

/-- The text of a file, if there is one and it is UTF-8. -/
def readText? (path : String) : IO (Option String) := do
  return ((← readNode path).readText.toOption).join

/-- A directory of the user: the one that a variable names, or one in the home directory. -/
def userDirectory (name fallback : String) : IO String := do
  match ← IO.getEnv name with
  | some path => return path ++ "/newsfeed"
  | none => return (← IO.getEnv "HOME").getD "." ++ "/" ++ fallback ++ "/newsfeed"

/-- The rights of a directory that only its owner can enter. -/
def ownerOnly : IO.FileRight :=
  { user := { read := true, write := true, execution := true } }

/-- Put what a run left in the place of what was there. -/
def writeNode (directory name : String) (before after : Files.Node) : IO Unit := do
  if before ≠ after then
    match after with
    | .file bytes =>
      IO.FS.createDirAll directory
      IO.FS.writeBinFile (directory ++ "/" ++ name) ⟨bytes.toArray⟩
    | .absent => IO.FS.removeFile (directory ++ "/" ++ name)
    | _ => return

/-- Write what a run left. -/
def writeBack (configDirectory : String) (before after : Machine) : IO Unit := do
  writeNode configDirectory "config.json" before.configFile after.configFile
  let cache := after.places.cache
  if before.places.cache ≠ cache then
    writeNode cache.path "session.json" before.places.cache.session cache.session
    match cache.place with
    | .directory .. => IO.setAccessRights cache.path ownerOnly
    | _ => return

/-- The machine as it is. -/
def readMachine (configDirectory cacheDirectory : String) : IO Machine := do
  let configPath := configDirectory ++ "/config.json"
  let place := match ← readNode (cacheDirectory ++ "/session.json") with
    | .absent => Vault.Place.absent
    | node => .directory Vault.privateMode node
  return {
    configPath
    configFile := ← readNode configPath
    places := ⟨⟨cacheDirectory, place⟩, ⟨[], [.create, .load, .save, .clear]⟩⟩ }

end NewsReader.Main

open NewsReader NewsReader.Main NewsReader.Program in
/-- Run the program. What is typed is read only if the program asks for it. -/
def main (args : List String) : IO UInt32 := do
  let definitions ← readText? ".env"
  let environment ← readEnvironment (ownNames ++ namesIn (definitions.getD ""))
  let configDirectory ← userDirectory "XDG_CONFIG_HOME" ".config"
  let cacheDirectory ← userDirectory "XDG_CACHE_HOME" ".cache"
  let machine ← readMachine configDirectory cacheDirectory
  let launch : Launch :=
    { arguments := args, environment, definitions, input := [], peer := .unreachable }
  let trial := run machine launch
  let ending ← if trial.stdout.startsWith App.namePrompt then do
      IO.print App.namePrompt
      let line ← (← IO.getStdin).getLine
      let ending := run machine { launch with input := Text.encode line.toList }
      pure { ending with stdout := (ending.stdout.drop App.namePrompt.length).toString }
    else pure trial
  IO.print ending.stdout
  IO.eprint ending.stderr
  writeBack configDirectory machine ending.machine
  return UInt32.ofNat ending.exitCode
