import NewsReader.Live.Channel

/-!
# Held connections

A live connection has an owner, and a task that keeps it. Both act in any order: the owner cancels
the connection, asks whether it is over, waits for its end and lets go of it; the task makes the
connection, sends the login line, and takes one step after the other until it ends.

Between the moment at which the connection stands and the end of the login line, the task waits for
nothing else. What the owner does then is seen later.
-/

namespace NewsReader.Live

/-- A live connection between its owner and its task. -/
structure Holding where
  /-- What the owner has in hand. -/
  handle : Handle
  /-- The connection stands, and the login line is not sent yet. -/
  greeting : Bool
  deriving DecidableEq

/-- Something that the owner or the task does. -/
inductive Act where
  /-- The owner wants the connection no more. -/
  | cancel
  /-- The owner asks whether the connection is over. -/
  | ask
  /-- The owner looks whether a wait for the end of the connection is over. -/
  | wait
  /-- The owner lets go of the connection. -/
  | release
  /-- The connection stands. -/
  | connect
  /-- The task takes a step. Once the connection stands, the first step is to send the login
  line. -/
  | step (s : Step)
  /-- The task breaks off, whatever it is about. -/
  | breakOff
  deriving DecidableEq

/-- What an act comes to. -/
inductive Answer where
  /-- It is done. -/
  | done
  /-- The connection is over, or it is not. -/
  | isClosed (closed : Bool)
  /-- The wait is over, or it goes on. -/
  | waited (ended : Bool)
  /-- The task took a step, and this was logged. -/
  | logged (events : List Event)
  deriving DecidableEq

namespace Holding

/-- Ask for a connection. -/
def subscribe (endpoint : String) : Holding :=
  ⟨Handle.subscribe endpoint, false⟩

/-- The connection. -/
def channel (h : Holding) : Channel :=
  h.handle.channel

/-- The task waits for several things at once, and one of them is that the connection is no longer
wanted. -/
def isListening (h : Holding) : Bool :=
  !h.greeting && !h.channel.isClosed

/-- The step is one that the task may take: the login line is next exactly if the connection stands
without it. -/
def isDue (h : Holding) : Step → Bool
  | .ready .. => h.greeting
  | _ => !h.greeting

/-- An act of the owner, who must not have let go of the connection. -/
def own (h : Holding) : Act → Option (Holding × Answer)
  | .cancel => some ({ h with handle := h.handle.cancel }, .done)
  | .ask => h.handle.isClosed?.map fun closed => (h, .isClosed closed)
  | .wait =>
    match h.handle.awaitEnd? with
    | some handle => some ({ h with handle }, .waited true)
    | none => some (h, .waited false)
  | .release => some ({ h with handle := h.handle.release }, .done)
  | _ => none

/-- An act of the task. -/
def work (h : Holding) : Act → Option (Holding × Answer)
  | .connect =>
    if h.channel.phase = .connecting ∧ ¬h.greeting then
      some ({ h with greeting := true }, .logged [])
    else none
  | .step s =>
    if h.isDue s && (h.channel.step s).isSome then
      let (handle, events) := h.handle.advance s
      some (⟨handle, false⟩, .logged events)
    else none
  | .breakOff =>
    if h.channel.isClosed then none
    else some (⟨{ h.handle with channel := h.channel.finish }, false⟩, .logged [])
  | _ => none

/-- Do an act, if it is possible. -/
def act (h : Holding) (a : Act) : Option (Holding × Answer) :=
  match a with
  | .connect | .step _ | .breakOff => h.work a
  | _ => if h.handle.released then none else h.own a

end Holding

end NewsReader.Live
