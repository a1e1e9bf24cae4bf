import NewsReader.Json.Wire

/-!
# Accounts

The server knows each user by an id and a name. It answers a login with the token that stands for
the user from then on.
-/

namespace NewsReader

open Json (Reader Field Fields RecordShape Value Wire)

/-- A user of the server. -/
structure User where
  /-- The id. -/
  id : String
  /-- The name. -/
  name : String
  deriving DecidableEq

namespace User

/-- The fields of a user. -/
def shape : RecordShape User where
  name := "User"
  types := [String, String]
  fields :=
    .cons (.required "id" (.text "a string")) <| .cons (.required "name" (.text "a string")) .nil
  build | (id, name, ()) => ⟨id, name⟩

/-- The written user. -/
def json (u : User) : Value :=
  .object [("id", .text u.id), ("name", .text u.name)]

instance : Wire User where
  reader := shape.reader
  json := json

end User

/-- The answer to a login. -/
structure LoginReply where
  /-- The token that stands for the user. -/
  token : String
  deriving DecidableEq

namespace LoginReply

/-- The fields of an answer to a login. -/
def shape : RecordShape LoginReply where
  name := "LoginResponse"
  types := [String]
  fields := .cons (.required "token" (.text "a string")) .nil
  build | (token, ()) => ⟨token⟩

/-- The written answer. -/
def json (r : LoginReply) : Value :=
  .object [("token", .text r.token)]

instance : Wire LoginReply where
  reader := shape.reader
  json := json

end LoginReply

end NewsReader
