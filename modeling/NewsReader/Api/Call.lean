import NewsReader.Api.Failure
import NewsReader.Http.Request
import NewsReader.Log.Event
import NewsReader.Records.Account
import NewsReader.Records.Feed
import NewsReader.Records.NewsItem
import NewsReader.Text.Base64

/-!
# Calls

A call asks the server for something; its type says what the answer is. Every call is one request to
a path under `/api` of the server, with the held token as the credential.

The headers of a request come from three places. The user in the address of the server is written as
a credential, and content brings its type; then the headers that all calls have replace those of
their names.

`Call.request` builds the request. It fails before anything is sent if the token cannot stand in a
header, or if the address of the server is not the URL of a host.
-/

namespace NewsReader

open Json (Value Wire)

/-- A call, by the type of its answer. -/
inductive Call : Type → Type where
  /-- Log in. -/
  | login (name password : String) : Call LoginReply
  /-- End the session. -/
  | logout : Call Unit
  /-- Ask who is logged in. -/
  | me : Call User
  /-- List the feeds. -/
  | feeds : Call (List Feed)
  /-- List the news of the subscribed feeds. -/
  | news : Call (List NewsItem)
  /-- List the subscriptions. -/
  | subscriptions : Call (List Subscription)
  /-- Subscribe to a feed. -/
  | subscribe (feed : String) : Call Subscription
  /-- End a subscription; the answer is how many there were. -/
  | unsubscribe (feed : String) : Call Nat

namespace Call

/-- What the request of a call does. -/
def method {α : Type} : Call α → Http.Method
  | login .. | logout | subscribe _ => .post
  | unsubscribe _ => .delete
  | _ => .get

/-- The path of a call under the one for all calls. -/
def path {α : Type} : Call α → String
  | login .. => "/auth/login"
  | logout => "/auth/logout"
  | me => "/auth/me"
  | feeds => "/feeds"
  | news => "/news"
  | subscriptions | subscribe _ | unsubscribe _ => "/subscriptions"

/-- The content of a call. -/
def content {α : Type} : Call α → Option Value
  | login name password => some (.object [("name", .text name), ("password", .text password)])
  | subscribe feed => some (.object [("feed_id", .text feed)])
  | _ => none

/-- The URL of a call with its query. -/
def addQuery {α : Type} (call : Call α) (url : Url) : Url :=
  match call with
  | unsubscribe feed => url.addPair "feed_id".toList feed.toList
  | _ => url

/-- What is logged before a call. -/
def announcement {α : Type} : Call α → List Event
  | subscribe feed => [.subscribing feed]
  | unsubscribe feed => [.unsubscribing feed]
  | _ => []

/-- Read the answer in the body of a successful reply. The answer to a logout is that it was
successful. -/
def decode {α : Type} : Call α → String → Except Json.Fault α
  | login .. => Wire.decode
  | logout => fun _ => .ok ()
  | me => Wire.decode
  | feeds => Wire.decode
  | news => Wire.decode
  | subscriptions => Wire.decode
  | subscribe _ => Wire.decode
  | unsubscribe _ => Wire.decode

/-- The answer in its JSON form. -/
def answerJson {α : Type} : Call α → α → Value
  | login .. => Wire.json
  | logout => fun _ => .null
  | me => Wire.json
  | feeds => Wire.json
  | news => Wire.json
  | subscriptions => Wire.json
  | subscribe _ => Wire.json
  | unsubscribe _ => Wire.json

/-- The path that all calls are under. -/
def root : String :=
  "/api"

/-- The text of the address of a call: the address of the server without the slashes at its end, and
the path. -/
def address {α : Type} (server : String) (call : Call α) : String :=
  String.ofList ((server.toList.reverse.dropWhile (· == '/')).reverse ++ root.toList ++
    call.path.toList)

/-- The credential that stands for a token. -/
def credential (token : String) : String :=
  "Bearer " ++ token

/-- The type of all contents. -/
def contentType : String :=
  "application/json"

/-- The URL of a call. The user in the address of the server is left out. -/
def url {α : Type} (server : String) (call : Call α) : Except Api.TransportFault Url :=
  match Url.ofText (call.address server) with
  | .error _ => .error .badAddress
  | .ok url =>
    if url.host?.isNone then .error (.unusable url.text)
    else .ok (call.addQuery url.withoutUser)

/-- The user in the address of the server. -/
def user? {α : Type} (server : String) (call : Call α) :
    Option (List Char × Option (List Char)) :=
  (Url.ofText (call.address server)).toOption.bind Url.user?

/-- The credential that stands for a user. -/
def userCredential (name : List Char) (password : Option (List Char)) : String :=
  "Basic " ++ String.ofList (Text.Base64.encode (Text.encode (name ++ ':' :: password.getD [])))

/-- The headers that come from the address of the server and from the content. -/
def givenHeaders {α : Type} (server : String) (call : Call α) : Http.Headers :=
  let headers := match call.user? server with
    | none => .none
    | some (name, password) =>
      Http.Headers.none.add Http.Request.authorizationName (userCredential name password)
  match call.content with
  | none => headers
  | some _ => headers.supply Http.Request.contentTypeName contentType

/-- The headers that all calls over a token have. -/
def ownHeaders (token : String) : Http.Headers :=
  (Http.Headers.none.add Http.Request.authorizationName (credential token)).add
    Http.Request.contentTypeName contentType

/-- The request of a call. -/
def request {α : Type} (server token : String) (call : Call α) :
    Except Api.Failure Http.Request :=
  if !Http.isHeaderValue (credential token) then .error .invalidHeader
  else
    match call.url server with
    | .error fault => .error (.transport fault)
    | .ok url =>
      .ok
        { method := call.method
          url
          headers := (call.givenHeaders server).replace (ownHeaders token)
          body := call.content.map Value.compact }

end Call

end NewsReader
