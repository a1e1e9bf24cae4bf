import NewsReader.Http.Method
import NewsReader.Http.Status
import NewsReader.Json.Place
import NewsReader.Text.Excerpt

/-!
# The log

What happens is logged as events. An event says what happened; its level, its message and its fields
are read off it. Of a reply or a payload only an excerpt is logged.
-/

namespace NewsReader

/-- How much an event matters. -/
inductive Level where
  | debug
  | info
  | warn
  deriving DecidableEq

/-- The written level. -/
def Level.text : Level → String
  | debug => "DEBUG"
  | info => "INFO"
  | warn => "WARN"

/-- Something that happened. -/
inductive Event where
  /-- A request goes out. -/
  | sending (method : Http.Method) (url : String)
  /-- The server does not accept the credential. -/
  | credentialRejected (method : Http.Method) (url : String)
  /-- The kept token cannot be removed. -/
  | removalFailed (error : String)
  /-- A request was not successful. -/
  | requestFailed (method : Http.Method) (url : String) (status : Http.Status) (body : String)
  /-- A reply holds something else than what is wanted. -/
  | unexpectedBody (url error : String)
  /-- The server refuses a login. -/
  | loginRejected (user : String) (status : Http.Status)
  /-- The token cannot be kept. -/
  | keepingFailed (error : String)
  /-- A login was successful. -/
  | loggedIn (user : String)
  /-- The server ended the session. -/
  | loggedOut
  /-- A subscription is asked for. -/
  | subscribing (feed : String)
  /-- The end of a subscription is asked for. -/
  | unsubscribing (feed : String)
  /-- The kept token cannot be loaded. -/
  | loadingFailed (error : String)
  /-- A session starts from what was kept. -/
  | restored (found : Bool)
  /-- A pushed payload is not a news item. -/
  | payloadDropped (error payload : String)
  /-- A live connection is asked for. -/
  | channelOpening (endpoint : String)
  /-- A live connection is no longer wanted before it stands. -/
  | channelCancelled (endpoint : String)
  /-- A live connection cannot be made. -/
  | channelRefused (endpoint error : String)
  /-- A live connection stands. -/
  | channelOpened (endpoint : String)
  /-- The login line cannot be sent. -/
  | loginLineFailed (error : String)
  /-- A ping cannot be sent. -/
  | pingFailed (error : String)
  /-- The close frame cannot be sent. -/
  | closeFailed (error : String)
  /-- A frame is not text. -/
  | frameDropped
  /-- The server closes the connection. -/
  | channelClosed (frame : String)
  /-- The connection breaks. -/
  | channelBroken (error : String)
  /-- The connection ends. -/
  | channelEnded
  /-- Nothing more happens on the connection. -/
  | channelFinished (endpoint : String)
  deriving DecidableEq

namespace Event

/-- The greatest length of a logged reply. -/
def bodyLimit : Nat :=
  500

/-- The greatest length of a logged payload. -/
def payloadLimit : Nat :=
  200

/-- How much the event matters. -/
def level : Event → Level
  | sending .. | requestFailed .. | subscribing _ | unsubscribing _ | restored _ | channelOpening _
  | channelCancelled _ | closeFailed _ | channelFinished _ => .debug
  | loggedIn _ | loggedOut | channelOpened _ | channelClosed _ | channelEnded => .info
  | _ => .warn

/-- What is said of the event. -/
def message : Event → String
  | sending .. => "Sending request"
  | credentialRejected .. => "Server rejected the session, logging out locally"
  | removalFailed _ => "Failed to remove persisted session"
  | requestFailed .. => "Request failed"
  | unexpectedBody .. => "Response body did not match the expected shape"
  | loginRejected .. => "Login rejected"
  | keepingFailed _ => "Failed to persist session"
  | loggedIn _ => "Login successful"
  | loggedOut => "Logged out"
  | subscribing _ => "Subscribing"
  | unsubscribing _ => "Unsubscribing"
  | loadingFailed _ => "Failed to load persisted session, starting anonymous"
  | restored _ => "Session restored"
  | payloadDropped .. => "Dropping live payload that is not a news item"
  | channelOpening _ => "Opening live channel"
  | channelCancelled _ => "Live channel cancelled before it was ready"
  | channelRefused .. => "Failed to open live channel"
  | channelOpened _ => "Live channel established"
  | loginLineFailed _ => "Failed to send login directive"
  | pingFailed _ => "Heartbeat failed, dropping live channel"
  | closeFailed _ => "Error while closing live channel"
  | frameDropped => "Dropping binary live frame that is not UTF-8"
  | channelClosed _ => "Live channel closed by server"
  | channelBroken _ => "Live channel error"
  | channelEnded => "Live channel stream ended"
  | channelFinished _ => "Live channel task finished"

/-- What is known about the event, by name. -/
def fields : Event → List (String × String)
  | sending method url | credentialRejected method url => [("method", method.text), ("url", url)]
  | requestFailed method url status body =>
    [("method", method.text), ("url", url), ("status", status.text),
      ("body", Text.excerpt bodyLimit body)]
  | unexpectedBody url error => [("url", url), ("error", error)]
  | loginRejected user status => [("user", user), ("status", status.text)]
  | loggedIn user => [("user", user)]
  | subscribing feed | unsubscribing feed => [("feed_id", feed)]
  | restored found => [("restored", if found then "true" else "false")]
  | payloadDropped error payload =>
    [("error", error), ("payload", Text.excerpt payloadLimit payload)]
  | channelRefused endpoint error => [("endpoint", endpoint), ("error", error)]
  | channelOpening endpoint | channelCancelled endpoint | channelOpened endpoint
  | channelFinished endpoint => [("endpoint", endpoint)]
  | removalFailed error | keepingFailed error | loadingFailed error | loginLineFailed error
  | pingFailed error | closeFailed error | channelBroken error => [("error", error)]
  | channelClosed frame => [("frame", frame)]
  | loggedOut | frameDropped | channelEnded => []

/-- The fields as they are logged. The fault of a reply or a payload is shown with the place at
which it is met. -/
def fieldsAt (met : Json.Place) : Event → List (String × String)
  | unexpectedBody url error => [("url", url), ("error", met.shown error)]
  | payloadDropped error payload =>
    [("error", met.shown error), ("payload", Text.excerpt payloadLimit payload)]
  | event => event.fields

end Event

end NewsReader
