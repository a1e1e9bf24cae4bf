import NewsReader.Http.Status
import NewsReader.Json.Wire
import NewsReader.Text.Blank
import NewsReader.Text.Excerpt

/-!
# Failures of a call

A call to the server fails in one of six ways. Each belongs to one of four kinds, has a text for
logs and a message for the terminal.

The reason for a refused login is the `message` in the body of the reply, if the body has one.
-/

namespace NewsReader.Api

open Http (Status)
open Json (Reader Field Fields RecordShape)

/-- A reason why there is no complete reply. -/
inductive TransportFault where
  /-- The address is not a URL. -/
  | badAddress
  /-- Nothing can be sent to the URL. -/
  | unusable (url : String)
  /-- No reply came. -/
  | noReply (url : String)
  /-- No reply came in time. -/
  | timedOut (url : String)
  /-- The reply broke off. -/
  | cutShort
  deriving DecidableEq

/-- The text of the fault. -/
def TransportFault.text : TransportFault → String
  | badAddress => "builder error"
  | unusable url => "builder error for url (" ++ url ++ ")"
  | noReply url => "error sending request for url (" ++ url ++ ")"
  | timedOut url => "error sending request for url (" ++ url ++ ")"
  | cutShort => "error decoding response body"

/-- A reason why a call fails. -/
inductive Failure where
  /-- The server refuses the login. -/
  | invalidCredentials (reason : String)
  /-- The server does not accept the token. -/
  | unauthorized
  /-- The server refuses the request. -/
  | requestFailed (status : Status) (body : String)
  /-- There is no complete reply. -/
  | transport (cause : TransportFault)
  /-- The token has characters that no header can carry. -/
  | invalidHeader
  /-- The reply holds something else than what is wanted. -/
  | invalidResponse (detail : String)
  deriving DecidableEq

/-- The kinds of failures. -/
inductive FailureKind where
  | invalidCredentials
  | unauthorized
  | requestFailed
  | transport
  deriving DecidableEq

/-- The reason for a refused login that gives none. -/
def fallbackReason : String :=
  "invalid username or password"

/-- What is read of the body of a refused login. -/
def refusalShape : RecordShape (Option String) where
  name := "ErrorBody"
  types := [Option String]
  fields := .cons (.optional "message" (.text "a string")) .nil
  build | (message, ()) => message

/-- The reason that the body of a refused login gives. -/
def refusalReason (body : String) : String :=
  match refusalShape.reader.decode body with
  | .ok (some message) => if message.isEmpty then fallbackReason else message
  | _ => fallbackReason

namespace Failure

/-- The failure of a refused login. -/
def ofRefusedLogin (body : String) : Failure :=
  .invalidCredentials (refusalReason body)

/-- The failure of a reply that is not successful. -/
def ofReply (status : Status) (body : String) : Failure :=
  if status = .unauthorized then .unauthorized else .requestFailed status body

/-- The kind of a failure. -/
def kind : Failure → FailureKind
  | invalidCredentials _ => .invalidCredentials
  | unauthorized => .unauthorized
  | requestFailed .. => .requestFailed
  | transport _ | invalidHeader | invalidResponse _ => .transport

/-- The text of a failure. -/
def text : Failure → String
  | invalidCredentials reason => reason
  | unauthorized => "Unauthorized - session is no longer valid"
  | requestFailed status body => "Request failed with status " ++ status.text ++ ": " ++ body
  | transport cause => "Network error: " ++ cause.text
  | invalidHeader => "Token cannot be sent as a header: failed to parse header value"
  | invalidResponse detail => "Invalid response: " ++ detail

/-- The greatest length of a reply that is shown. -/
def shownBodyLimit : Nat :=
  200

/-- The message for the terminal, when the server is at `server`. -/
def userMessage (server : String) : Failure → String
  | invalidCredentials reason => reason
  | unauthorized => "Not logged in or session expired. Run `newsfeed login`."
  | requestFailed status body =>
    let shown := Text.trim body
    "Server returned " ++ status.text ++
      if shown.isEmpty then "" else ": " ++ Text.excerpt shownBodyLimit shown
  | transport (.timedOut _) => "Connection timed out. Please try again."
  | transport _ => "Unable to connect to server at " ++ server
  | invalidHeader => "Stored session token is corrupt. Run `newsfeed login`."
  | invalidResponse detail => "Unexpected response from server: " ++ detail

end Failure

end NewsReader.Api
