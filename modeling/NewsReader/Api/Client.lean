import NewsReader.Api.Exchange
import NewsReader.Text.Quoted
import NewsReader.Vault.Step

/-!
# Clients

A client makes calls to one server, over one session. Calls are made one after the other, and
incidents at the vault of the session come in between.

Of each deed something can be seen: what a call comes to, what is logged, and what is shown of the
session and of the client when a developer asks for it.
-/

namespace NewsReader

open Http (Reply Request)
open Api (Failure)

/-- What calls are made with. -/
structure Client where
  /-- What is shown of the client for HTTP below this one. It is set up once, and calls do not
  change it. -/
  http : String
  /-- The address of the server. -/
  server : String
  /-- The session. -/
  session : Session

namespace Client

/-- The address that all calls are under. -/
def base (c : Client) : String :=
  String.ofList ((c.server.toList.reverse.dropWhile (· == '/')).reverse ++ Call.root.toList)

/-- What is shown of a client. -/
def shown (c : Client) : String :=
  "ApiClient \x7b client: " ++ c.http ++ ", api_base: " ++ Text.quoted c.base ++ ", session: " ++
    c.session.shown ++ " \x7d"

/-- Something that is done with a client, or that happens around it. -/
inductive Deed : Type 1 where
  /-- A call is made. `reply` is what comes back if its request goes out. -/
  | call {α : Type} (call : Call α) (reply : Reply)
  /-- Something happens to the place that the vault of the session uses. -/
  | incident (incident : Vault.Incident)

/-- What can be seen of a deed. -/
structure Sight : Type 1 where
  /-- What the answer is, if a call was made. -/
  Answer : Type
  /-- What the call comes to. -/
  result : Option (Except Failure Answer)
  /-- What is logged. -/
  events : List Event
  /-- What is shown of the session afterwards. -/
  session : String
  /-- What is shown of the client afterwards. -/
  client : String

/-- What can be seen when the client is left like this. -/
def sight (c : Client) {α : Type} (result : Option (Except Failure α)) (events : List Event) :
    Sight :=
  { Answer := α, result, events, session := c.session.shown, client := c.shown }

/-- What a deed comes to. -/
structure Turn : Type 1 where
  /-- The client afterwards. -/
  client : Client
  /-- What can be seen. -/
  sight : Sight
  /-- The request, if one went out. -/
  request : Option Request

/-- Do one deed. -/
def act (c : Client) : Deed → Turn
  | .call call reply =>
    let o := call.perform c.server reply c.session
    let client := { c with session := o.session }
    { client, sight := client.sight (some o.result) o.events, request := o.request }
  | .incident incident =>
    let client := { c with session := { c.session with vault := c.session.vault.meet incident } }
    { client, sight := client.sight (none : Option (Except Failure Unit)) [], request := none }

/-- What deeds come to. -/
structure Course : Type 1 where
  /-- The client afterwards. -/
  client : Client
  /-- What can be seen of each deed. -/
  sights : List Sight
  /-- The requests that went out. -/
  requests : List Request

/-- Do deeds one after the other. -/
def run (c : Client) : List Deed → Course
  | [] => { client := c, sights := [], requests := [] }
  | deed :: deeds =>
    let turn := c.act deed
    let rest := turn.client.run deeds
    { client := rest.client, sights := turn.sight :: rest.sights,
      requests := turn.request.toList ++ rest.requests }

end Client

end NewsReader
