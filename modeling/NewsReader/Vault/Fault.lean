import NewsReader.Files.Node
import NewsReader.Json.Fault

/-!
# Faults of a vault

A vault keeps the token between runs. When one of its operations fails, the fault says what was
tried and why that did not work. The causes are shown one after the other, the outermost first.
-/

namespace NewsReader.Vault

/-- What is done with a vault. -/
inductive Operation where
  /-- Get at the place itself. Only a keychain does this. -/
  | create
  | load
  | save
  | clear
  deriving DecidableEq

/-- A reason why an operation of a vault fails. -/
inductive Fault where
  /-- The vault refuses. -/
  | refused
  /-- The directory cannot be made. -/
  | directory (path : String) (cause : Files.Fault)
  /-- The session file cannot be read, written or removed. -/
  | sessionFile (operation : Operation) (cause : Files.Fault)
  /-- The session file does not hold a token. -/
  | content (cause : Json.Fault)
  /-- The keychain is locked. -/
  | locked (operation : Operation)
  /-- The secret is not UTF-8. -/
  | secret
  deriving DecidableEq

namespace Fault

/-- What was tried with the session file. -/
def fileContext : Operation → String
  | .save => "Failed to write session file"
  | .clear => "Failed to remove session file"
  | _ => "Failed to read session file"

/-- What was tried with the keychain. -/
def keychainContext : Operation → String
  | .create => "Failed to create keyring entry"
  | .load => "Failed to retrieve token from keychain"
  | .save => "Failed to store token in keychain"
  | .clear => "Failed to delete token from keychain"

/-- What was tried, or why there was nothing to try. -/
def message : Fault → String
  | refused => "disk on fire"
  | directory path _ => "Failed to create directory " ++ path
  | sessionFile operation _ => fileContext operation
  | content _ => "Failed to parse session file"
  | locked operation => keychainContext operation
  | secret => keychainContext .load

/-- The causes below what was tried. -/
def causes : Fault → List String
  | refused => []
  | directory _ cause => [cause.message]
  | sessionFile _ cause => [cause.message]
  | content cause => [cause.message]
  | locked _ =>
    ["Couldn't access platform secure storage: keychain is locked", "keychain is locked"]
  | secret => ["Data is not UTF-8 encoded"]

/-- The whole text. -/
def text (f : Fault) : String :=
  ": ".intercalate (f.message :: f.causes)

end Fault

end NewsReader.Vault
