import NewsReader.Json.Wire
import NewsReader.Vault.Fault

/-!
# The session file

The token is kept in the file `session.json` of a directory that only its owner can enter. The file
is a record with the single field `token`.

Saving makes the directory if it is not there, and takes the rights of others away in any case.
-/

namespace NewsReader.Vault

open Json (RecordShape Value)
open Files (Node)

/-- What the session file holds. -/
structure SessionFile where
  /-- The token. -/
  token : String
  deriving DecidableEq

namespace SessionFile

/-- The fields of the session file. -/
def shape : RecordShape SessionFile where
  name := "SessionFile"
  types := [String]
  fields := .cons (.required "token" (.text "a string")) .nil
  build | (token, ()) => ⟨token⟩

/-- The written record. -/
def json (f : SessionFile) : Value :=
  .object [("token", .text f.token)]

/-- The text of the file. -/
def text (token : String) : String :=
  (json ⟨token⟩).indented

/-- The token in the text of a file. -/
def decode (s : String) : Except Json.Fault String :=
  (shape.reader.decode s).map (·.token)

end SessionFile

/-- What stands where the directory should be. -/
inductive Place where
  /-- Nothing. -/
  | absent
  /-- A file. -/
  | file
  /-- A directory with its access rights, and what stands in it for the session file. -/
  | directory (mode : Nat) (session : Node)
  deriving DecidableEq

/-- The access rights of a directory that only its owner can enter. -/
def privateMode : Nat :=
  0o700

/-- The access rights of a directory that everybody can enter. -/
def openMode : Nat :=
  0o755

/-- A directory for the session file. -/
structure CacheDirectory where
  /-- Where the directory is. -/
  path : String
  /-- What stands there. -/
  place : Place
  deriving DecidableEq

namespace CacheDirectory

/-- What stands for the session file. -/
def session (d : CacheDirectory) : Node :=
  match d.place with
  | .directory _ node => node
  | _ => .absent

/-- Put something in the place of the session file. A new directory is open to everybody. -/
def putSession (d : CacheDirectory) (node : Node) : CacheDirectory :=
  match d.place with
  | .directory mode _ => { d with place := .directory mode node }
  | _ => { d with place := .directory openMode node }

/-- Open the directory to everybody. -/
def loosen (d : CacheDirectory) : CacheDirectory :=
  match d.place with
  | .file => d
  | _ => { d with place := .directory openMode d.session }

/-- Put a file in the place of the directory. -/
def block (d : CacheDirectory) : CacheDirectory :=
  { d with place := .file }

/-- The token in the session file, if there is one. -/
def load (d : CacheDirectory) : Except Fault (Option String) :=
  match d.session.readText with
  | .error cause => .error (.sessionFile .load cause)
  | .ok none => .ok none
  | .ok (some text) =>
    match SessionFile.decode text with
    | .error cause => .error (.content cause)
    | .ok token => .ok (some token)

/-- Write the token to the session file. -/
def save (d : CacheDirectory) (token : String) : Except Fault Unit × CacheDirectory :=
  match d.place with
  | .file => (.error (.directory d.path .exists), d)
  | _ =>
    match d.session.write (SessionFile.text token) with
    | .error cause =>
      (.error (.sessionFile .save cause), { d with place := .directory privateMode d.session })
    | .ok node => (.ok (), { d with place := .directory privateMode node })

/-- Remove the session file. -/
def clear (d : CacheDirectory) : Except Fault Unit × CacheDirectory :=
  match d.session.remove with
  | .error cause => (.error (.sessionFile .clear cause), d)
  | .ok node =>
    match d.place with
    | .directory mode _ => (.ok (), { d with place := .directory mode node })
    | _ => (.ok (), d)

end CacheDirectory

end NewsReader.Vault
