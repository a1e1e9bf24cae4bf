import NewsReader.Api.Client
import NewsReader.Proofs.Api.Sent
import NewsReader.Proofs.Api.Settled

/-!
# Secrets stay hidden

Two kinds of secrets go through a client: the token of the session, and the passwords of logins.
They go to the server, and nowhere else. So nobody who sees the results, the log and what is shown
of session and client can tell which secrets they come from.

This is a statement about two runs. They do the same over sessions that differ in their secrets
alone, with any two passwords for each login. A call asks the session for the token when it goes
out, and then changes it at most once, at the event that the reply is (`Settles`). The first of
these shows only whether the token can be sent, and the second does not depend on the token at all.
So each deed leaves sessions that still differ in their secrets alone (`Client.alike_act`), and what
can be seen of it is the same; by induction this goes for whole runs.

* `Call.perform_alike` — one call, with two tokens and two passwords.
* `Client.secrets_stay_hidden` — the main result.
-/

namespace NewsReader

open Http (Body Reply Request Status)
open Api (Failure)
open Json (Value)

/-! ### What may differ -/

/-- Two calls differ at most in the password of a login. -/
inductive Call.Alike : {α : Type} → Call α → Call α → Prop where
  | refl {α : Type} (call : Call α) : Alike call call
  | login (name password password' : String) : Alike (.login name password) (.login name password')

/-- A line of the headers, without the credential if that is in it. -/
def Http.Request.hideCredential (line : String × String) : String × String :=
  if line.1 = authorizationName then (line.1, "") else line

/-- Two requests differ at most in their credentials, and in the password if they are logins. -/
structure Http.Request.Alike (r r' : Request) : Prop where
  /-- They do the same. -/
  method_eq : r.method = r'.method
  /-- They go to the same URL. -/
  url_eq : r.url = r'.url
  /-- They have the same headers but for the credentials in them. -/
  headers_eq : r.headers.lines.map Request.hideCredential =
    r'.headers.lines.map Request.hideCredential
  /-- They have the content of alike calls. -/
  body_alike : ∃ (α : Type) (call call' : Call α), call.Alike call' ∧
    r.body = call.content.map Value.compact ∧ r'.body = call'.content.map Value.compact

/-- Two outcomes differ at most in secrets. -/
structure Call.Outcome.Alike {α : Type} (o o' : Outcome α) : Prop where
  /-- The results are the same. -/
  result_eq : o.result = o'.result
  /-- The same is logged. -/
  events_eq : o.events = o'.events
  /-- The sessions differ in their secrets alone. -/
  redacted_eq : o.session.redacted = o'.session.redacted
  /-- The requests are alike, or none went out. -/
  request_alike : Option.Rel Request.Alike o.request o'.request

namespace Call

variable {α : Type}

/-! ### Calls that differ in a password -/

section

variable {call call' : Call α} (h : call.Alike call')

include h

theorem Alike.url_eq (server : String) : call.url server = call'.url server := by
  have hpath : call.path = call'.path := by cases h <;> rfl
  have hquery (url : Url) : call.addQuery url = call'.addQuery url := by cases h <;> rfl
  simp only [Call.url, address, hpath, hquery]

theorem Alike.announcement_eq : call.announcement = call'.announcement := by
  cases h <;> rfl

theorem Alike.replyEvent?_eq (reply : Reply) :
    call.replyEvent? reply = call'.replyEvent? reply := by
  cases h with
  | refl => rfl
  | login name password password' =>
    cases reply with
    | head status body => cases body <;> rfl
    | _ => rfl

/-- The requests of alike calls to one URL are alike, whatever the tokens are. -/
theorem Alike.requestTo_alike (url : Url) (token token' : String) :
    (call.requestTo url token).Alike (call'.requestTo url token') where
  method_eq := by cases h <;> rfl
  url_eq := rfl
  headers_eq := by
    simp [requestTo, ownHeaders, Http.Headers.add, Http.Headers.none, Request.hideCredential]
  body_alike := ⟨α, call, call', h, rfl, rfl⟩

/-- Alike calls take a reply to alike requests in the same way. -/
theorem Alike.receive_eq {request request' : Request} (hrequest : request.Alike request')
    (reply : Reply) : call.receive request reply = call'.receive request' reply := by
  -- Of the request, only what it does and where it goes is used.
  obtain ⟨method, url, headers, body⟩ := request
  obtain ⟨method', url', headers', body'⟩ := request'
  obtain ⟨rfl, rfl, -, -⟩ := hrequest
  cases reply with
  | head status body =>
    funext s
    have hend : call.endsAtHead = call'.endsAtHead := by cases h <;> rfl
    have hdecode : call.decode = call'.decode := by cases h <;> rfl
    have htoken : call.newToken? = call'.newToken? := by cases h <;> rfl
    have hevents : call.successEvents = call'.successEvents := by cases h <;> rfl
    have hrefusal : call.refusal = call'.refusal := by cases h <;> rfl
    simp only [receive, receiveHead, receiveBody, hend, hdecode, htoken, hevents, hrefusal]
    -- The request is only handed on from the status to the body.
    by_cases hsuccess : status.isSuccess
    · simp only [if_pos hsuccess]
      cases call'.endsAtHead <;> rfl
    · simp only [if_neg hsuccess]
      by_cases hrejected : status = .unauthorized
      · simp only [if_pos hrejected]
      · simp only [if_neg hrejected]
  | _ => rfl

variable (server : String) {token token' : String} (htoken : redact token = redact token')

include htoken

/-- Alike calls are dispatched alike: the same is logged, and either alike requests go out or both
fail in one way. -/
theorem Alike.dispatch_cases :
    ∃ events,
      (∃ request request',
        request.Alike request' ∧ call.dispatch server token = (.sent request, events) ∧
        call'.dispatch server token' = (.sent request', events)) ∨
      ∃ failure, call.dispatch server token = (.done (.error failure), events) ∧
        call'.dispatch server token' = (.done (.error failure), events) := by
  -- Whether a token can be sent is not secret, nor is whether the server can be reached.
  by_cases hsendable : Session.CanBeSent token
  · have hsendable' : Session.CanBeSent token' := (canBeSent_congr htoken).mp hsendable
    rw [dispatch_eq_of_canBeSent hsendable, dispatch_eq_of_canBeSent hsendable', h.url_eq,
      h.announcement_eq]
    cases call'.url server with
    | error fault => exact ⟨_, .inr ⟨_, rfl, rfl⟩⟩
    | ok url =>
      have hrequest := h.requestTo_alike url token token'
      have hsent : (call.requestTo url token).isSendable =
          (call'.requestTo url token').isSendable :=
        isSendable_congr rfl rfl
      simp only [hsent, show call.method = call'.method from hrequest.method_eq]
      split
      · exact ⟨_, .inl ⟨_, _, hrequest, rfl, rfl⟩⟩
      · exact ⟨_, .inr ⟨_, rfl, rfl⟩⟩
  · have hkept' : ¬Session.CanBeSent token' := mt (canBeSent_congr htoken).mpr hsendable
    refine ⟨call'.announcement,
      .inr ⟨.invalidHeader, ?_, dispatch_of_not_canBeSent hkept' server call'⟩⟩
    rw [dispatch_of_not_canBeSent hsendable, h.announcement_eq]

end

/-! ### Whole calls -/

section

variable {call call' : Call α} (h : call.Alike call') (server : String) (reply : Reply)
  {s s' : Session} (hs : s.redacted = s'.redacted)

include h hs

/-- Alike calls over sessions that differ in their secrets alone come to alike outcomes. -/
theorem perform_alike : (call.perform server reply s).Alike (call'.perform server reply s') := by
  have htoken : redact s.token = redact s'.token := by
    rw [← Session.token_redacted, ← Session.token_redacted, hs]
  -- The token is needed only to dispatch the call. What comes after that is settled but for its
  -- event.
  obtain ⟨events, ⟨request, request', hrequest, hdispatch, hdispatch'⟩ |
      ⟨failure, hdispatch, hdispatch'⟩⟩ :=
    h.dispatch_cases server htoken
  · obtain ⟨result, before, after, hreceive'⟩ := call'.settles_receive request' reply
    have hreceive (t : Session) : call.receive request reply t = _ :=
      (congrFun (h.receive_eq hrequest reply) t).trans (hreceive' t)
    obtain ⟨hevents, hredacted⟩ := Session.follow?_congr hs (call'.replyEvent? reply)
    simp only [perform, hdispatch, hdispatch', hreceive, hreceive']
    refine ⟨rfl, by rw [hevents], hredacted, ?_⟩
    split
    · exact .none
    · exact .some hrequest
  · simp only [perform, hdispatch, hdispatch']
    exact ⟨rfl, rfl, hs, .none⟩

/-- The events are the same. -/
theorem event?_perform_alike :
    (call.perform server reply s).event? call reply =
      (call'.perform server reply s').event? call' reply := by
  have hrequest := (perform_alike h server reply hs).request_alike
  rw [Outcome.event?, Outcome.event?, h.replyEvent?_eq]
  generalize (call.perform server reply s).request = request at hrequest ⊢
  generalize (call'.perform server reply s').request = request' at hrequest ⊢
  cases hrequest <;> rfl

end

end Call

/-! ### Clients -/

namespace Client

/-- Two clients differ in the secrets of their sessions alone. -/
structure Alike (c c' : Client) : Prop where
  /-- They use one client for HTTP. -/
  http_eq : c.http = c'.http
  /-- They make calls to one server. -/
  server_eq : c.server = c'.server
  /-- Their sessions differ in their secrets alone. -/
  redacted_eq : c.session.redacted = c'.session.redacted

/-- Two deeds are the same, but for the passwords. -/
inductive Deed.Alike : Deed → Deed → Prop where
  | call {α : Type} {call call' : Call α} (h : call.Alike call') (reply : Reply) :
    Alike (.call call reply) (.call call' reply)
  | incident (incident : Vault.Incident) : Alike (.incident incident) (.incident incident)

/-- Two turns differ at most in secrets, and what can be seen of them is the same. -/
structure Turn.Alike (t t' : Turn) : Prop where
  /-- The clients differ in secrets alone. -/
  client_alike : t.client.Alike t'.client
  /-- What can be seen is the same. -/
  sight_eq : t.sight = t'.sight
  /-- The requests are alike, or none went out. -/
  request_alike : Option.Rel Request.Alike t.request t'.request

/-- The event that a deed is. -/
def event? (c : Client) : Deed → Option CredentialEvent
  | .call call reply => (call.perform c.server reply c.session).event? call reply
  | .incident _ => none

/-- The events in deeds, the earliest first. -/
def credentialEvents (c : Client) : List Deed → List CredentialEvent
  | [] => []
  | deed :: deeds => (c.event? deed).toList ++ (c.act deed).client.credentialEvents deeds

/-- There is an event among the deeds whose change reaches the vault: nothing is logged of a
failure. -/
def Renews (c : Client) : List Deed → Prop
  | [] => False
  | deed :: deeds =>
    (c.event? deed).isSome ∧ (∀ logged ∈ (c.act deed).sight.events, ¬logged.isVaultFault) ∨
      (c.act deed).client.Renews deeds

variable {c c' : Client} {deed deed' : Deed} {deeds deeds' : List Deed}

theorem Alike.session_shown_eq (h : c.Alike c') : c.session.shown = c'.session.shown := by
  rw [← Session.shown_redacted, h.redacted_eq, Session.shown_redacted]

theorem Alike.shown_eq (h : c.Alike c') : c.shown = c'.shown := by
  have hbase : c.base = c'.base := by rw [base, base, h.server_eq]
  unfold shown
  rw [h.http_eq, hbase, h.session_shown_eq]

/-- What can be seen of alike clients is the same. -/
theorem Alike.sight_eq (h : c.Alike c') {α : Type} (result : Option (Except Failure α))
    (events : List Event) : c.sight result events = c'.sight result events := by
  rw [sight, sight, h.session_shown_eq, h.shown_eq]

/-- One deed comes to the same, and leaves clients that differ in secrets alone. -/
theorem alike_act (h : c.Alike c') (hdeed : deed.Alike deed') :
    (c.act deed).Alike (c'.act deed') := by
  obtain ⟨http, server, s⟩ := c
  obtain ⟨http', server', s'⟩ := c'
  obtain ⟨rfl, rfl, hredacted⟩ := h
  cases hdeed with
  | @call α call call' hcall reply =>
    have houtcome := Call.perform_alike hcall server reply hredacted
    have hclient : Client.Alike ⟨http, server, (call.perform server reply s).session⟩
        ⟨http, server, (call'.perform server reply s').session⟩ :=
          ⟨rfl, rfl, houtcome.redacted_eq⟩
    refine ⟨hclient, ?_, houtcome.request_alike⟩
    simp only [act, houtcome.result_eq, houtcome.events_eq]
    exact hclient.sight_eq ..
  | incident incident =>
    have hclient : Client.Alike ⟨http, server, { s with vault := s.vault.meet incident }⟩
        ⟨http, server, { s' with vault := s'.vault.meet incident }⟩ :=
      ⟨rfl, rfl, Session.meet_congr hredacted incident⟩
    exact ⟨hclient, hclient.sight_eq .., .none⟩

/-- Alike deeds are the same event. -/
theorem event?_eq (h : c.Alike c') (hdeed : deed.Alike deed') :
    c.event? deed = c'.event? deed' := by
  cases hdeed with
  | call hcall reply =>
    rw [event?, event?, ← h.server_eq]
    exact Call.event?_perform_alike hcall c.server reply h.redacted_eq
  | incident incident => rfl

/-- The event of a deed decides which token is held. -/
theorem held_act (c : Client) (deed : Deed) :
    (c.act deed).client.session.held =
      (c.event? deed).elim c.session.held CredentialEvent.held := by
  cases deed with
  | call call reply => exact call.held_perform c.server reply c.session
  | incident incident => rfl

/-- The latest event decides which token is held. -/
theorem held_course (c : Client) (deeds : List Deed) :
    (c.run deeds).client.session.held =
      (c.credentialEvents deeds).getLast?.elim c.session.held CredentialEvent.held := by
  induction deeds generalizing c with
  | nil => rfl
  | cons deed deeds ih =>
    rw [credentialEvents, List.getLast?_append]
    refine (ih (c.act deed).client).trans ?_
    rw [held_act]
    -- What this deed decides counts only if no later one is an event.
    cases ((c.act deed).client.credentialEvents deeds).getLast? with
    | some event => rfl
    | none => cases c.event? deed <;> rfl

/-- After a deed there is one session in both runs, if there was one before, or if the deed is an
event and its change reaches the vault. -/
theorem session_act_eq (h : c.Alike c') (hdeed : deed.Alike deed')
    (hone : c.session = c'.session ∨
      (c.event? deed).isSome ∧ ∀ logged ∈ (c.act deed).sight.events, ¬logged.isVaultFault) :
    (c.act deed).client.session = (c'.act deed').client.session := by
  have hevent := event?_eq h hdeed
  cases hdeed with
  | @call α call call' hcall reply =>
    obtain ⟨hsession, hlogged⟩ := call.session_perform c.server reply c.session
    obtain ⟨hsession', -⟩ := call'.session_perform c'.server reply c'.session
    show (call.perform c.server reply c.session).session =
      (call'.perform c'.server reply c'.session).session
    rw [hsession, hsession']
    -- Both sessions follow one event, so only the vaults can still make a difference.
    show (c.session.follow? (c.event? (.call call reply))).1 =
      (c'.session.follow? (c'.event? (.call call' reply))).1
    rw [← hevent]
    rcases hone with hsame | ⟨hsome, hquiet⟩
    · rw [hsame]
    · exact Session.follow?_eq h.redacted_eq hsome fun logged hmem => hquiet logged (hlogged hmem)
  | incident incident =>
    rcases hone with hsame | ⟨hsome, -⟩
    · simp only [act, hsame]
    · cases hsome

/-- Alike courses: what can be seen of them is the same, and the clients differ in secrets alone. -/
structure Course.Alike (course course' : Course) : Prop where
  /-- The clients differ in secrets alone. -/
  client_alike : course.client.Alike course'.client
  /-- What can be seen is the same. -/
  sights_eq : course.sights = course'.sights
  /-- The requests are alike, one by one. -/
  requests_alike : List.Forall₂ Request.Alike course.requests course'.requests

/-- Alike requests stay so with one more in front of them, if one went out. -/
theorem forall₂_toList_append {request request' : Option Request}
    (h : Option.Rel Request.Alike request request') {requests requests' : List Request}
    (hlater : List.Forall₂ Request.Alike requests requests') :
    List.Forall₂ Request.Alike (request.toList ++ requests) (request'.toList ++ requests') := by
  cases h with
  | none => exact hlater
  | some hfirst => exact .cons hfirst hlater

/-- Alike deeds take alike courses, and they are the same events. -/
theorem alike_run (h : c.Alike c') (hdeeds : List.Forall₂ Deed.Alike deeds deeds') :
    (c.run deeds).Alike (c'.run deeds') ∧
      c.credentialEvents deeds = c'.credentialEvents deeds' := by
  induction hdeeds generalizing c c' with
  | nil => exact ⟨⟨h, rfl, .nil⟩, rfl⟩
  | cons hdeed _ ih =>
    -- A deed keeps what carries the induction: the clients differ in secrets alone.
    obtain ⟨hclient, hsight, hrequest⟩ := alike_act h hdeed
    obtain ⟨⟨hlast, hsights, hrequests⟩, hevents⟩ := ih hclient
    refine ⟨⟨hlast, ?_, ?_⟩, ?_⟩
    · exact congrArg₂ List.cons hsight hsights
    · exact forall₂_toList_append hrequest hrequests
    · exact congrArg₂ (· ++ ·) (congrArg Option.toList (event?_eq h hdeed)) hevents

/-- After deeds there is one session in both runs, if there was one before, or if the change of an
event reached the vault. -/
theorem session_run_eq (h : c.Alike c') (hdeeds : List.Forall₂ Deed.Alike deeds deeds')
    (hone : c.session = c'.session ∨ c.Renews deeds) :
    (c.run deeds).client.session = (c'.run deeds').client.session := by
  induction hdeeds generalizing c c' with
  | nil => exact hone.resolve_right id
  | cons hdeed _ ih =>
    refine ih (alike_act h hdeed).client_alike ?_
    -- Once there is one session in both runs, no password makes it two again.
    rcases hone with hsame | hnow | hlater
    · exact .inl (session_act_eq h hdeed (.inl hsame))
    · exact .inl (session_act_eq h hdeed (.inr hnow))
    · exact .inr hlater

/-! ### Main result -/

/-- Secrets stay hidden. Let two clients differ only in which useful tokens their sessions hold and
keep, and let the same be done with them, but for the passwords of logins. Then:

* what is shown of clients and sessions, at the start and after each deed, what calls come to and
  what is logged is all the same in both runs;
* the requests are alike: they may differ in credentials, and in passwords if they are logins;
* the sessions in the end differ in their secrets alone, and the events that decide about the token
  are the same;
* after such an event both hold the same token, and if its change reached the vault, then they keep
  the same too;
* and starts from vaults that differ in their secrets alone are logged alike, and lead to such
  sessions. -/
theorem secrets_stay_hidden (h : c.Alike c') (hdeeds : List.Forall₂ Deed.Alike deeds deeds') :
    let course := c.run deeds
    let course' := c'.run deeds'
    (c.shown = c'.shown ∧ c.session.shown = c'.session.shown ∧
      course.sights = course'.sights) ∧
    List.Forall₂ Request.Alike course.requests course'.requests ∧
    course.client.Alike course'.client ∧
    c.credentialEvents deeds = c'.credentialEvents deeds' ∧
    (c.credentialEvents deeds ≠ [] →
      course.client.session.held = course'.client.session.held) ∧
    (c.Renews deeds → course.client.session = course'.client.session) ∧
    ∀ v v' : Vault, v.mapToken redact = v'.mapToken redact →
      (Session.restore v).2 = (Session.restore v').2 ∧
        (Session.restore v).1.redacted = (Session.restore v').1.redacted := by
  intro course course'
  obtain ⟨⟨hclient, hsights, hrequests⟩, hevents⟩ := alike_run h hdeeds
  refine ⟨⟨h.shown_eq, h.session_shown_eq, hsights⟩, hrequests, hclient, hevents,
    fun hne => ?_, fun hrenews => ?_, fun v v' hvault => Session.restore_congr hvault⟩
  · -- The latest event is the same in both runs, and it is all that the held token depends on.
    simp only [course, course', held_course, ← hevents]
    rw [List.getLast?_eq_getLast_of_ne_nil hne]
    rfl
  · exact session_run_eq h hdeeds (.inr hrenews)

/-- A login that fails and a rejected credential show nothing of two tokens and two passwords, and
after the rejection there is nothing left to show. -/
theorem secrets_stay_hidden_of_rejected :
    let client (token : String) : Client :=
      ⟨"Client", "http://news.test", ((Session.new (.memory none)).setToken token).2⟩
    let deeds (password : String) : List Deed :=
      [.call (.login "alice" password) (.head ⟨500, by decide⟩ (.complete [])),
        .call .me (.head .unauthorized .cutShort)]
    let course := (client "T1").run (deeds "a")
    let course' := (client "T2").run (deeds "b")
    (client "T1").session ≠ (client "T2").session ∧ course.requests ≠ course'.requests ∧
      course.sights = course'.sights ∧ course.client.session = course'.client.session := by
  intro client deeds course course'
  have hclients : (client "T1").Alike (client "T2") :=
    ⟨rfl, rfl, Session.redacted_setToken (.new (.memory none)) (by decide : IsSecret "T1")
      (by decide : IsSecret "T2")⟩
  have hdeeds : List.Forall₂ Deed.Alike (deeds "a") (deeds "b") :=
    .cons (.call (.login "alice" "a" "b") _) (.cons (.call (.refl .me) _) .nil)
  obtain ⟨⟨-, -, hsights⟩, -, -, -, -, hsession, -⟩ := secrets_stay_hidden hclients hdeeds
  refine ⟨by decide, by decide +kernel, hsights, hsession ?_⟩
  exact .inr (.inl ⟨by decide +kernel, by decide +kernel⟩)

end Client

end NewsReader
