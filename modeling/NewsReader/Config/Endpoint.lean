import NewsReader.Config.Basic
import NewsReader.Url.Parse

/-!
# The live endpoint

News are pushed at an address of their own. If none is set, it is the address of the server with the
scheme of web sockets, the path `/ws`, and neither query nor fragment.
-/

namespace NewsReader

/-- The scheme of web sockets that goes with a scheme of the web. -/
def Url.socketScheme? (scheme : String) : Option String :=
  if scheme = "http" ∨ scheme = "ws" then some "ws"
  else if scheme = "https" ∨ scheme = "wss" then some "wss"
  else none

/-- The address on the same host where news are pushed. -/
def Url.liveEndpoint? (u : Url) : Option Url :=
  ((socketScheme? u.scheme).bind u.setScheme?).map fun url =>
    { url with path := .segments [['w', 's']], query := none, fragment := none }

namespace Config

/-- A reason why there is no live endpoint. -/
inductive EndpointFault where
  /-- The address of the server is not a URL. -/
  | badUrl (server : String) (cause : Url.Fault)
  /-- The scheme is not one of the web. -/
  | badScheme (scheme : String)
  /-- The URL cannot have the scheme of web sockets. -/
  | underivable (server : String)
  deriving DecidableEq

/-- The text of the fault. -/
def EndpointFault.text : EndpointFault → String
  | badUrl server cause => "Invalid server URL: " ++ server ++ ": " ++ cause.message
  | badScheme scheme => "Unsupported server URL scheme: " ++ scheme
  | underivable server => "Cannot derive live endpoint from " ++ server

/-- The address where the server at `server` pushes news. -/
def endpointOf (server : String) : Except EndpointFault String :=
  match Url.ofText server with
  | .error cause => .error (.badUrl server cause)
  | .ok url =>
    match url.liveEndpoint? with
    | some endpoint => .ok endpoint.text
    | none =>
      .error (if (Url.socketScheme? url.scheme).isSome then .underivable server
        else .badScheme url.scheme)

/-- The address where news are pushed. -/
def liveEndpoint (c : Config) : Except EndpointFault String :=
  match c.live with
  | some url => .ok url
  | none => endpointOf c.serverUrl

end Config

end NewsReader
