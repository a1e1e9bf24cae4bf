import NewsReader.Live.Channel
import NewsReader.Session.Basic
import NewsReader.Vault.Step

/-!
# Watches

Whoever watches has a live connection in hand, and a session that the rest of the program uses too.
A move is a change of the session, something that the owner does, or something that happens to the
connection. Moves of the three kinds come in any order.

The connection asks for the token at one moment only: when it stands.
-/

namespace NewsReader.Live

/-- Something that happens to a connection. Where something is sent, it may name the error of a send
that fails. -/
inductive Occurrence where
  /-- The connection stands. -/
  | connected (error : Option String)
  /-- The connection cannot be made. -/
  | refused (error : String)
  /-- A ping is due. -/
  | tick (error : Option String)
  /-- A frame comes in. -/
  | inbound (frame : Inbound)
  /-- The channel sees that it is no longer wanted. -/
  | stop (error : Option String)
  deriving DecidableEq

/-- The step of the connection while `token` is held. -/
def Occurrence.step (token : String) : Occurrence → Step
  | connected error => .ready token error
  | refused error => .refused error
  | tick error => .tick error
  | inbound frame => .inbound frame
  | stop error => .stop error

/-- A live connection in the hand of its owner, and the session. -/
structure Watch where
  /-- The session. -/
  session : Session
  /-- The connection. -/
  handle : Handle
  deriving DecidableEq

namespace Watch

/-- What may happen next. -/
inductive Move where
  /-- Another token is set. -/
  | setToken (token : String)
  /-- The token is cleared. -/
  | clear
  /-- Something happens to the place that the vault of the session uses. -/
  | incident (incident : Vault.Incident)
  /-- The owner wants the connection no more. -/
  | cancel
  /-- The owner lets go of the connection. -/
  | release
  /-- Something happens to the connection. -/
  | occurs (occurrence : Occurrence)
  deriving DecidableEq

/-- Ask for a connection. -/
def start (endpoint : String) (session : Session) : Watch :=
  ⟨session, Handle.subscribe endpoint⟩

/-- The connection. -/
def channel (w : Watch) : Channel :=
  w.handle.channel

/-- Make a move, with what the connection logs. What cannot happen to the connection changes
nothing. -/
def move (w : Watch) : Move → Watch × List Event
  | .setToken token => ({ w with session := (w.session.setToken token).2 }, [])
  | .clear => ({ w with session := w.session.clear.2 }, [])
  | .incident incident =>
    ({ w with session := { w.session with vault := w.session.vault.meet incident } }, [])
  | .cancel => ({ w with handle := w.handle.cancel }, [])
  | .release => ({ w with handle := w.handle.release }, [])
  | .occurs occurrence =>
    let (handle, events) := w.handle.advance (occurrence.step w.session.token)
    ({ w with handle }, events)

/-- Make moves one after the other. -/
def run (w : Watch) (moves : List Move) : Watch :=
  moves.foldl (fun w m => (w.move m).1) w

/-- Make moves until the connection is over, with what is logged. `heard` is what is logged of a
payload that is handed over. -/
def listen (heard : String → List Event) (w : Watch) : List Move → Watch × List Event
  | [] => (w, [])
  | m :: moves =>
    if w.channel.isClosed then (w, [])
    else
      let (next, events) := w.move m
      let (last, more) := next.listen heard moves
      (last, events ++
        (next.channel.delivered.drop w.channel.delivered.length).flatMap heard ++ more)

end Watch

/-- The moves that make a step happen. A stop takes an owner who wants the connection no more. -/
def Step.moves : Step → List Watch.Move
  | ready _ error => [.occurs (.connected error)]
  | refused error => [.occurs (.refused error)]
  | tick error => [.occurs (.tick error)]
  | inbound frame => [.occurs (.inbound frame)]
  | stop error => [.cancel, .occurs (.stop error)]

end NewsReader.Live
