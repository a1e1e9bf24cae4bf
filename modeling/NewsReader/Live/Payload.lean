import NewsReader.Log.Event
import NewsReader.Records.NewsItem

/-!
# Pushed payloads

The server pushes news items as JSON texts. A payload that is no news item is logged and dropped; it
does not end the connection.
-/

namespace NewsReader.Live

/-- The news item in a payload, or the event that says why there is none. -/
def readPayload (payload : String) : Except Event NewsItem :=
  match Json.Wire.decode payload with
  | .ok item => .ok item
  | .error fault => .error (.payloadDropped fault.message payload)

/-- The news item in a payload. -/
def newsItem? (payload : String) : Option NewsItem :=
  (readPayload payload).toOption

/-- What is logged when a payload is read. -/
def payloadEvents (payload : String) : List Event :=
  match readPayload payload with
  | .ok _ => []
  | .error event => [event]

end NewsReader.Live
