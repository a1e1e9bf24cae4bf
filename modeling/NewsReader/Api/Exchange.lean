import NewsReader.Api.Call
import NewsReader.Session.Basic

/-!
# Exchanges

A call runs in three steps: its request goes out, the status of the reply comes in, and then the
body. Each step is one function, so that the steps of several calls can be taken in any order over
the one session.

Only two things change the token. A status changes it if the server does not accept the credential,
or if it grants a logout; then the token is dropped before the body is read. A body changes it if it
is the answer to a login; then the new token is taken.

`Call.perform` takes the three steps of one call at once.
-/

namespace NewsReader

open Http (Body Reply Request Status)
open Api (Failure)

/-- Drop the token. That the vault fails is only logged. -/
def Session.drop (s : Session) : Session × List Event :=
  match s.clear with
  | (.ok (), s) => (s, [])
  | (.error fault, s) => (s, [.removalFailed fault.message])

/-- Take a token. That the vault fails is only logged. -/
def Session.take (s : Session) (token : String) : Session × List Event :=
  match s.setToken token with
  | (.ok (), s) => (s, [])
  | (.error fault, s) => (s, [.keepingFailed fault.message])

namespace Call

/-- How far a call has come. -/
inductive Stage (α : Type) where
  /-- The request is out. -/
  | sent (request : Request)
  /-- The status is in. -/
  | headed (request : Request) (status : Status)
  /-- The call is over. -/
  | done (result : Except Failure α)

variable {α : Type}

/-- The result of a call that is over. -/
def Stage.result? : Stage α → Option (Except Failure α)
  | done result => some result
  | _ => none

/-- Send the request of a call. -/
def dispatch (server token : String) (call : Call α) : Stage α × List Event :=
  match call.request server token with
  | .error failure => (.done (.error failure), call.announcement)
  | .ok request =>
    let events := call.announcement ++ [.sending request.method request.url.text]
    if request.isSendable then (.sent request, events)
    else (.done (.error (.transport (.unusable request.url.text))), events)

/-- The token that the answer to a call brings. -/
def newToken? : Call α → α → Option String
  | login .., reply => some reply.token
  | _, _ => none

/-- What is logged when a call was successful. -/
def successEvents : Call α → List Event
  | login name _ => [.loggedIn name]
  | logout => [.loggedOut]
  | _ => []

/-- A successful status ends the call before the body is read. -/
def endsAtHead : (call : Call α) → Option α
  | logout => some ()
  | _ => none

/-- Take the status of the reply. -/
def receiveHead (call : Call α) (request : Request) (status : Status) (s : Session) :
    Stage α × Session × List Event :=
  if status.isSuccess then
    match call.endsAtHead with
    | some answer =>
      let (s, events) := s.drop
      (.done (.ok answer), s, events ++ call.successEvents)
    | none => (.headed request status, s, [])
  else if status = .unauthorized then
    let (s, events) := s.drop
    (.headed request status, s, .credentialRejected request.method request.url.text :: events)
  else (.headed request status, s, [])

/-- The failure of a call that the server refused, and what is logged of it. -/
def refusal (call : Call α) (status : Status) (body : String) : Failure × List Event :=
  match call with
  | login name _ => (.ofRefusedLogin body, [.loginRejected name status])
  | _ => (.ofReply status body, [])

/-- Take the body of the reply. -/
def receiveBody (call : Call α) (request : Request) (status : Status) (body : Body) (s : Session) :
    Except Failure α × Session × List Event :=
  match body.text? with
  | none => (.error (.transport .cutShort), s, [])
  | some text =>
    if status.isSuccess then
      match call.decode text with
      | .error fault =>
        let url := request.url.text
        (.error (.invalidResponse (fault.message ++ " (from " ++ url ++ ")")), s,
          [.unexpectedBody url fault.message])
      | .ok answer =>
        match call.newToken? answer with
        | none => (.ok answer, s, call.successEvents)
        | some token =>
          let (s, events) := s.take token
          (.ok answer, s, events ++ call.successEvents)
    else
      let (failure, events) := call.refusal status text
      (.error failure, s, .requestFailed request.method request.url.text status text :: events)

/-- The reply never comes, or its body never comes. -/
def lose (late : Bool) : Stage α → Except Failure α
  | .sent request =>
    .error (.transport (if late then .timedOut request.url.text else .noReply request.url.text))
  | .headed .. => .error (.transport .cutShort)
  | .done result => result

/-- What a whole call comes to. -/
structure Outcome (α : Type) where
  /-- The answer, or why there is none. -/
  result : Except Failure α
  /-- The session after the call. -/
  session : Session
  /-- What was logged. -/
  events : List Event
  /-- The request, if one went out. -/
  request : Option Request

/-- Take the reply of a call whose request is out. -/
def receive (call : Call α) (request : Request) (reply : Reply) (s : Session) :
    Except Failure α × Session × List Event :=
  match reply with
  | .unreachable | .none => (lose false (.sent request), s, [])
  | .late => (lose true (.sent request), s, [])
  | .head status body =>
    match call.receiveHead request status s with
    | (.done result, s, events) => (result, s, events)
    | (_, s, events) =>
      let (result, s, more) := call.receiveBody request status body s
      (result, s, events ++ more)

/-- Run a call to its end. `reply` is what comes back if the request goes out. -/
def perform (server : String) (call : Call α) (reply : Reply) (s : Session) : Outcome α :=
  match call.dispatch server s.token with
  | (.sent request, events) =>
    let (result, session, more) := call.receive request reply s
    { result, session, events := events ++ more
      request := if reply = .unreachable then none else some request }
  | (stage, events) => { result := lose false stage, session := s, events, request := none }

end Call

end NewsReader
