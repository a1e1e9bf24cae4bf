import NewsReader.Log.Event
import NewsReader.Text.Utf8

/-!
# Live connections

A live connection is opened once and never again. When it stands, the login line goes out with the
token that is held then. From then on the connection waits for three things at once: the next ping
is due, a frame comes in, or the connection is no longer wanted. Each may end it.

`Channel.step` takes one step, and answers nothing where the step is not possible. Steps record what
the channel tries to send and which payloads it hands over.
-/

namespace NewsReader.Live

/-- The command that authenticates a connection. -/
def loginCommand : String :=
  "/login"

/-- The first line of a connection. -/
def loginLine (token : String) : String :=
  loginCommand ++ " " ++ token

/-- What a ping says. -/
def pingPayload : String :=
  "ping"

/-- What the channel sends. -/
inductive Frame where
  /-- A line of text. -/
  | text (s : String)
  /-- The end of the connection. -/
  | close
  deriving DecidableEq

/-- What comes in. -/
inductive Inbound where
  /-- A text. -/
  | text (s : String)
  /-- Bytes. -/
  | binary (bytes : List UInt8)
  /-- A ping or pong of the transport, which it answers itself. -/
  | control
  /-- The server closes the connection. -/
  | close (frame : String)
  /-- The connection breaks. -/
  | broken (error : String)
  /-- Nothing more comes. -/
  | ended
  deriving DecidableEq

/-- The payload of a frame: a text, or bytes that are UTF-8. -/
def Inbound.payload? : Inbound → Option String
  | text s => some s
  | binary bytes => (Text.decode? bytes).map String.ofList
  | _ => none

/-- The frame leaves the connection open. -/
def Inbound.continues : Inbound → Bool
  | text _ | binary _ | control => true
  | _ => false

/-- What is logged of a frame. -/
def Inbound.events : Inbound → List Event
  | binary bytes => if (Text.decode? bytes).isSome then [] else [.frameDropped]
  | close frame => [.channelClosed frame]
  | broken error => [.channelBroken error]
  | ended => [.channelEnded]
  | _ => []

/-- How far a connection has come. -/
inductive Phase where
  | connecting
  | looping
  | ended
  deriving DecidableEq

/-- A live connection. -/
structure Channel where
  /-- Where it goes. -/
  endpoint : String
  /-- How far it has come. -/
  phase : Phase
  /-- It is no longer wanted. -/
  cancelled : Bool
  /-- What it tried to send. -/
  sent : List Frame
  /-- The payloads that it handed over. -/
  delivered : List String
  deriving DecidableEq

/-- A step of a connection. Where something is sent, the step may name the error of a send that
fails. -/
inductive Step where
  /-- The connection stands; `token` is held. -/
  | ready (token : String) (error : Option String)
  /-- The connection cannot be made. -/
  | refused (error : String)
  /-- A ping is due. -/
  | tick (error : Option String)
  /-- A frame comes in. -/
  | inbound (frame : Inbound)
  /-- The channel sees that it is no longer wanted. -/
  | stop (error : Option String)
  deriving DecidableEq

namespace Channel

/-- A connection that is being made. -/
def opening (endpoint : String) : Channel :=
  ⟨endpoint, .connecting, false, [], []⟩

/-- What is logged when a connection is asked for. -/
def openingEvents (c : Channel) : List Event :=
  [.channelOpening c.endpoint]

/-- Nothing more will happen on the connection. -/
def isClosed (c : Channel) : Bool :=
  c.phase == .ended

/-- Want the connection no more. -/
def cancel (c : Channel) : Channel :=
  { c with cancelled := true }

/-- Try to send a frame. -/
def attempt (c : Channel) (frame : Frame) : Channel :=
  { c with sent := c.sent ++ [frame] }

/-- End the connection. -/
def finish (c : Channel) : Channel :=
  { c with phase := .ended }

/-- Hand over the payload of a frame, if it has one. -/
def deliver (c : Channel) (frame : Inbound) : Channel :=
  { c with delivered := c.delivered ++ frame.payload?.toList }

/-- A step of a connection that is being made. -/
def connectStep (c : Channel) : Step → Option (Channel × List Event)
  | .ready token error =>
    let c := c.attempt (.text (loginLine token))
    match error with
    | none => some ({ c with phase := .looping }, [.channelOpened c.endpoint])
    | some error => some (c.finish, [.channelOpened c.endpoint, .loginLineFailed error])
  | .refused error => some (c.finish, [.channelRefused c.endpoint error])
  | .stop _ => if c.cancelled then some (c.finish, [.channelCancelled c.endpoint]) else none
  | _ => none

/-- A step of a connection that stands. -/
def loopStep (c : Channel) : Step → Option (Channel × List Event)
  | .tick error =>
    let c := c.attempt (.text pingPayload)
    match error with
    | none => some (c, [])
    | some error => some (c.finish, [.pingFailed error, .channelFinished c.endpoint])
  | .inbound frame =>
    let c := c.deliver frame
    if frame.continues then some (c, frame.events)
    else some (c.finish, frame.events ++ [.channelFinished c.endpoint])
  | .stop error =>
    if c.cancelled then
      let c := c.attempt .close
      some (c.finish, (error.map Event.closeFailed).toList ++ [.channelFinished c.endpoint])
    else none
  | _ => none

/-- Take a step, with what is logged. -/
def step (c : Channel) (s : Step) : Option (Channel × List Event) :=
  match c.phase with
  | .connecting => c.connectStep s
  | .looping => c.loopStep s
  | .ended => none

end Channel

/-- What the owner of a connection has in hand, until it is released. -/
structure Handle where
  /-- The connection. -/
  channel : Channel
  /-- The end of the connection can be waited for, since no wait has seen it yet. -/
  awaitable : Bool
  /-- The owner has let go of it. -/
  released : Bool
  deriving DecidableEq

namespace Handle

/-- Ask for a connection. -/
def subscribe (endpoint : String) : Handle :=
  ⟨Channel.opening endpoint, true, false⟩

/-- Want the connection no more. -/
def cancel (h : Handle) : Handle :=
  { h with channel := h.channel.cancel }

/-- Let go of the connection, which is no longer wanted then. -/
def release (h : Handle) : Handle :=
  { h with channel := h.channel.cancel, released := true }

/-- Whether the connection is over, as long as the owner can ask. -/
def isClosed? (h : Handle) : Option Bool :=
  if h.released then none else some (!h.awaitable || h.channel.isClosed)

/-- Wait for the end of the connection. Nothing comes of it as long as the wait goes on. -/
def awaitEnd? (h : Handle) : Option Handle :=
  if !h.awaitable then some h
  else if h.channel.isClosed then some { h with awaitable := false }
  else none

/-- Take a step of the connection, if it is possible. -/
def advance (h : Handle) (s : Step) : Handle × List Event :=
  match h.channel.step s with
  | none => (h, [])
  | some (channel, events) => ({ h with channel }, events)

end Handle

end NewsReader.Live
