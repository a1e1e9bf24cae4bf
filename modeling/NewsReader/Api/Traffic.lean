import NewsReader.Api.Exchange
import NewsReader.Vault.Step

/-!
# Calls at the same time

Any number of calls can be under way over one session. `Traffic.step` takes one step of one of them;
the steps of different calls come in any order, and incidents at the vault of the session come in
between.

`Call.both` runs two calls at the same time, as far as both are needed: when one fails, the other is
given up.
-/

namespace NewsReader

open Http (Body Reply Request Status)
open Api (Failure)

/-- A call and how far it has come. -/
structure Flight where
  /-- What the answer is. -/
  Answer : Type
  /-- The call. -/
  call : Call Answer
  /-- How far it has come. -/
  stage : Call.Stage Answer

/-- The calls under way, in the order in which they were started. -/
structure Traffic where
  /-- The session that all of them use. -/
  session : Session
  /-- The calls. -/
  flights : List Flight

namespace Traffic

/-- One step of one call, or an incident. -/
inductive Step : Type 1 where
  /-- A call is started. -/
  | dispatch {α : Type} (call : Call α)
  /-- The status of a reply comes in. -/
  | head (flight : Nat) (status : Status)
  /-- The body of a reply comes in. -/
  | body (flight : Nat) (body : Body)
  /-- A reply never comes, or its body never comes. -/
  | lose (flight : Nat) (late : Bool)
  /-- Something happens to the place that the vault of the session uses. -/
  | incident (incident : Vault.Incident)

/-- Put another stage in the place of that of a call. -/
def setStage (t : Traffic) (i : Nat) (f : Flight) (stage : Call.Stage f.Answer)
    (session : Session) : Traffic :=
  { session, flights := t.flights.set i { f with stage } }

/-- Take a step, with what is logged. A step that no call is ready for changes nothing. -/
def step (server : String) (t : Traffic) : Step → Traffic × List Event
  | .dispatch call =>
    let (stage, events) := call.dispatch server t.session.token
    ({ t with flights := t.flights ++ [⟨_, call, stage⟩] }, events)
  | .head i status =>
    match t.flights[i]? with
    | some f =>
      match f.stage with
      | .sent request =>
        let (stage, session, events) := f.call.receiveHead request status t.session
        (t.setStage i f stage session, events)
      | _ => (t, [])
    | none => (t, [])
  | .body i body =>
    match t.flights[i]? with
    | some f =>
      match f.stage with
      | .headed request status =>
        let (result, session, events) := f.call.receiveBody request status body t.session
        (t.setStage i f (.done result) session, events)
      | _ => (t, [])
    | none => (t, [])
  | .lose i late =>
    match t.flights[i]? with
    | some f => (t.setStage i f (.done (Call.lose late f.stage)) t.session, [])
    | none => (t, [])
  | .incident incident =>
    ({ t with session := { t.session with vault := t.session.vault.meet incident } }, [])

/-- Take steps one after the other. -/
def run (server : String) (t : Traffic) (steps : List Step) : Traffic :=
  steps.foldl (fun t s => (t.step server s).1) t

end Traffic

namespace Call

variable {α β : Type}

/-- Take the next step of a call whose whole reply is known. -/
def advance (call : Call α) (reply : Reply) (stage : Stage α) (s : Session) :
    Stage α × Session × List Event :=
  match stage, reply with
  | .sent request, .head status _ => call.receiveHead request status s
  | .headed request status, .head _ body =>
    let (result, s, events) := call.receiveBody request status body s
    (.done result, s, events)
  | stage, .late => (.done (lose true stage), s, [])
  | stage, _ => (.done (lose false stage), s, [])

/-- Two calls under way. -/
structure Pair (α β : Type) where
  /-- How far the first call has come. -/
  first : Stage α
  /-- How far the second call has come. -/
  second : Stage β
  /-- The session. -/
  session : Session
  /-- What was logged. -/
  events : List Event

/-- The result of two calls: a failure as soon as one fails, and both answers when both are
there. -/
def Pair.result? (p : Pair α β) : Option (Except Failure (α × β)) :=
  match p.first, p.second with
  | .done (.error failure), _ => some (.error failure)
  | _, .done (.error failure) => some (.error failure)
  | .done (.ok a), .done (.ok b) => some (.ok (a, b))
  | _, _ => none

/-- Take the next step of one of two calls, unless there is a result. -/
def Pair.step (first : Call α) (second : Call β) (replies : Reply × Reply) (p : Pair α β)
    (isSecond : Bool) : Pair α β :=
  if p.result?.isSome then p
  else if isSecond then
    let (stage, session, events) := second.advance replies.2 p.second p.session
    { p with second := stage, session, events := p.events ++ events }
  else
    let (stage, session, events) := first.advance replies.1 p.first p.session
    { p with first := stage, session, events := p.events ++ events }

/-- What two calls at the same time come to. -/
structure PairOutcome (α β : Type) extends Outcome (α × β) where
  /-- The request of the second call, if one went out. -/
  secondRequest : Option Request

/-- The request of a call that was started, if it goes out. -/
def Stage.request? (stage : Stage α) (reply : Reply) : Option Request :=
  match stage with
  | .sent request => if reply = .unreachable then none else some request
  | _ => none

/-- Run two calls at the same time. The second is not started if the first fails at once, as it does
when the server cannot be reached. `arrivals` says whose step is next; when it is used up, the first
call is run to its end and then the second. -/
def both (server : String) (first : Call α) (second : Call β) (replies : Reply × Reply)
    (arrivals : List Bool) (s : Session) : PairOutcome α β :=
  match first.dispatch server s.token with
  | (.sent request, events) =>
    if replies.1 = .unreachable then
      let fault := Api.TransportFault.noReply request.url.text
      { result := .error (.transport fault), session := s, events, request := none,
        secondRequest := none }
    else
      let (stage, more) := second.dispatch server s.token
      let start : Pair α β :=
        { first := .sent request, second := stage, session := s, events := events ++ more }
      let p := (arrivals ++ [false, false, true, true]).foldl (Pair.step first second replies) start
      { result := p.result?.getD (.error (.transport .cutShort)), session := p.session
        events := p.events, request := some request, secondRequest := stage.request? replies.2 }
  | (.done (.error failure), events) =>
    { result := .error failure, session := s, events, request := none, secondRequest := none }
  | (_, events) =>
    { result := .error (.transport .cutShort), session := s, events, request := none,
      secondRequest := none }

end Call

end NewsReader
