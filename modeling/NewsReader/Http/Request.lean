import NewsReader.Http.Headers
import NewsReader.Http.Method
import NewsReader.Http.Status
import NewsReader.Url.Parse

/-!
# Requests and replies

A request goes to a URL and carries headers and perhaps content. Two of the headers matter to the
server: the credential and the type of the content. A reply has a status first and then a body,
which may break off. Not every request gets a reply.
-/

namespace NewsReader.Http

/-- A character that can stand in the value of a header. -/
def isHeaderChar (c : Char) : Bool :=
  c == '\t' || 0x20 ≤ c.toNat && c.toNat != 0x7F

/-- A text that can be the value of a header. -/
def isHeaderValue (s : String) : Bool :=
  s.toList.all isHeaderChar

/-- A request. -/
structure Request where
  /-- What the request does. -/
  method : Method
  /-- Where it goes. -/
  url : Url
  /-- The headers. -/
  headers : Headers
  /-- The content. -/
  body : Option String
  deriving DecidableEq

namespace Request

/-- The name of the header with the credential. -/
def authorizationName : String :=
  "authorization"

/-- The name of the header with the type of the content. -/
def contentTypeName : String :=
  "content-type"

/-- The credential. -/
def authorization (r : Request) : String :=
  r.headers.first authorizationName

/-- The type of the content. -/
def contentType (r : Request) : String :=
  r.headers.first contentTypeName

/-- The URL as the server gets it: without the fragment. -/
def sentUrl (r : Request) : Url :=
  { r.url with fragment := none }

/-- A character that cannot stand where a request names its host. -/
def isRefusedInHost (c : Char) : Bool :=
  c == '"' || c == '\x60' || c == '\x7b' || c == '\x7d'

/-- The request can go out: its scheme is one of the web, and its host can be named. -/
def isSendable (r : Request) : Bool :=
  (r.url.scheme == "http" || r.url.scheme == "https") &&
    !(r.url.host?.map Url.Host.chars |>.getD []).any isRefusedInHost

end Request

/-- What comes after the status. -/
inductive Body where
  /-- The whole body. -/
  | complete (bytes : List UInt8)
  /-- A body that breaks off. -/
  | cutShort
  deriving DecidableEq

/-- The text of a body that is complete. Bytes that are not UTF-8 are replaced. -/
def Body.text? : Body → Option String
  | complete bytes => some (String.ofList (Text.decodeLenient bytes))
  | cutShort => none

/-- What comes back for a request. -/
inductive Reply where
  /-- Nothing, since the request cannot even be sent: the server cannot be reached. -/
  | unreachable
  /-- Nothing. -/
  | none
  /-- Nothing in time. -/
  | late
  /-- A status and a body. -/
  | head (status : Status) (body : Body)
  deriving DecidableEq

/-- A status whose replies have no body. -/
def Status.isBodiless (s : Status) : Bool :=
  s.code == 204 || s.code == 304

/-- A reply with a status and a body, as far as the status lets it have one. -/
def Reply.of (status : Status) (body : Body) : Reply :=
  .head status (if status.isBodiless then .complete [] else body)

end NewsReader.Http
