import NewsReader.Api.Call
import NewsReader.Live.Endpoint
import NewsReader.Live.Watch

/-!
# The other side

A command talks to the server, and to the place where news are pushed. What comes back is known
beforehand: the replies to requests, which of two replies comes first, and what happens on a live
connection. If the other side cannot be reached, nothing comes back.
-/

namespace NewsReader.Program

open Http (Reply)

/-- What is at the other side while a command runs. -/
structure Peer where
  /-- The other side can be reached. -/
  isReachable : Bool
  /-- The reply to a request. -/
  reply : Reply
  /-- The reply to a request for the subscriptions. -/
  listing : Reply
  /-- Of two requests at the same time, whether the second is served next, again and again. -/
  arrivals : List Bool
  /-- What happens on a live connection that stands. A stop is the interrupt of the user. -/
  pushed : List Live.Step

namespace Peer

/-- A side that cannot be reached. -/
def unreachable : Peer :=
  ⟨false, .unreachable, .unreachable, [], []⟩

/-- A side that can be reached and gives one reply to all requests. -/
def answering (reply : Reply) : Peer :=
  ⟨true, reply, reply, [], []⟩

/-- The reply to the request of a call. -/
def replyTo {α : Type} (p : Peer) (call : Call α) : Reply :=
  if p.isReachable then
    match call with
    | .subscriptions => p.listing
    | _ => p.reply
  else .unreachable

/-- What happens when a live connection to an endpoint is asked for while a token is held. -/
def liveSteps (p : Peer) (endpoint token : String) : List Live.Step :=
  match Live.Endpoint.ofText endpoint with
  | .error fault => [.refused fault.text]
  | .ok e => if p.isReachable then .ready token none :: p.pushed else [.refused e.faultOffline.text]

/-- The moves of a watch over a live connection to an endpoint, asked for while a token is held. -/
def liveMoves (p : Peer) (endpoint token : String) : List Live.Watch.Move :=
  (p.liveSteps endpoint token).flatMap Live.Step.moves

end Peer

end NewsReader.Program
