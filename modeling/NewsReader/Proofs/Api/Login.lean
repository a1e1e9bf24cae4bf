import NewsReader.Proofs.Api.Credential
import NewsReader.Proofs.Json.Written
import NewsReader.Proofs.Text.Utf8

/-!
# Recovering by a login

A login carries the held token as every call does, although the server has no use for it there. A
token with a character that no header can carry keeps every call back, and a call that is kept back
leaves the session. So a login does not recover from such a token, although the message for it asks
the user to log in.

* `Call.perform_of_not_canBeSent` — what becomes of every call over such a token.
* `Call.perform_login` — what becomes of a login over any other token.
* `Call.login_recovers_iff` — the tokens from which a login recovers.
-/

namespace NewsReader

open Http (Body Reply Request Status)
open Json (Value Wire)

/-! ### Tokens that can be sent -/

/-- A header can carry the token: tabs are the only control characters in it. -/
def Session.CanBeSent (token : String) : Prop :=
  ∀ c ∈ token.toList, c = '\t' ∨ 0x20 ≤ c.toNat ∧ c.toNat ≠ 0x7F

-- Only the characters of the token are gone through. With all of Mathlib imported, the instance
-- that is found for the statement goes through all characters that there are.
instance : DecidablePred Session.CanBeSent := fun token =>
  List.decidableBAll (fun c => c = '\t' ∨ 0x20 ≤ c.toNat ∧ c.toNat ≠ 0x7F) token.toList

/-- The credential can stand in a header exactly if the token can. -/
theorem Session.isHeaderValue_credential_iff (token : String) :
    Http.isHeaderValue (Call.credential token) ↔ CanBeSent token := by
  have hlead : ("Bearer ".toList.all Http.isHeaderChar) = true := by decide
  rw [Http.isHeaderValue, Call.credential, String.toList_append, List.all_append, hlead,
    Bool.true_and, List.all_eq_true]
  simp [CanBeSent, Http.isHeaderChar]

/-! ### Answers -/

/-- The member of an answer to a login is read back as its field. -/
theorem LoginReply.writes_members (l : Json.Layout) (reply : LoginReply) :
    shape.fields.Writes l (reply.token, ()) [("token", .text reply.token)] :=
  .member (Json.Layout.reads_text _ reply.token) .nil

/-- The written answer to a login is read back, whatever its token is. -/
theorem LoginReply.decode_compact (reply : LoginReply) :
    Wire.decode reply.json.compact = .ok reply :=
  Json.RecordShape.decode_compact (reply.writes_members .compact) (by decide)

namespace Call

variable {α : Type}

/-! ### Requests -/

/-- A call can be sent to the server over HTTP: its address is the URL of a host, and a request can
name the host. -/
structure IsUsable (call : Call α) (server : String) (url : Url) : Prop where
  /-- The address is this URL. -/
  url_eq : call.url server = .ok url
  /-- The scheme is the one without encryption. -/
  scheme_eq : url.scheme = "http"
  /-- The host can be named. -/
  host : ((url.host?.map Url.Host.chars).getD []).any Request.isRefusedInHost = false

/-- The headers of all calls have one credential. -/
@[simp]
theorem values_authorizationName_ownHeaders (token : String) :
    (ownHeaders token).values Request.authorizationName = [credential token] := by
  simp [ownHeaders, Http.Headers.values, Http.Headers.add, Http.Headers.none,
    Request.authorizationName, Request.contentTypeName]

/-- The headers of all calls have one type of the content. -/
@[simp]
theorem values_contentTypeName_ownHeaders (token : String) :
    (ownHeaders token).values Request.contentTypeName = [contentType] := by
  simp [ownHeaders, Http.Headers.values, Http.Headers.add, Http.Headers.none,
    Request.authorizationName, Request.contentTypeName]

/-- The names of the headers that the address of the server and the content bring. -/
theorem name_of_mem_givenHeaders {server : String} {call : Call α} :
    ∀ line ∈ (call.givenHeaders server).lines,
      line.1 = Request.authorizationName ∨ line.1 = Request.contentTypeName := by
  unfold givenHeaders
  rcases call.user? server with _ | ⟨name, password⟩ <;>
    rcases call.content with _ | content <;>
    simp [Http.Headers.none, Http.Headers.add, Http.Headers.supply, Http.Headers.values,
      Request.authorizationName, Request.contentTypeName]

/-- Of the headers that the address of the server and the content bring, none is left in a
request. -/
theorem givenHeaders_replace (server : String) (call : Call α) (token : String) :
    (call.givenHeaders server).replace (ownHeaders token) = ownHeaders token := by
  refine Http.Headers.replace_eq_right fun line hline => ?_
  rcases name_of_mem_givenHeaders line hline with hname | hname <;> simp [hname]

/-- The request of a call to a URL. -/
def requestTo (call : Call α) (url : Url) (token : String) : Request where
  method := call.method
  url := url
  headers := ownHeaders token
  body := call.content.map Value.compact

@[simp]
theorem authorization_requestTo (call : Call α) (url : Url) (token : String) :
    (call.requestTo url token).authorization = credential token := by
  simp [Request.authorization, Http.Headers.first, requestTo]

/-- A call has a request if its token can be sent and its address is a URL, and that is where the
request goes. -/
theorem request_eq_ok_iff {call : Call α} {server token : String} {sent : Request} :
    call.request server token = .ok sent ↔
      Session.CanBeSent token ∧
        ∃ url, call.url server = .ok url ∧ sent = call.requestTo url token := by
  rw [← Session.isHeaderValue_credential_iff]
  unfold request
  -- The credential is looked at before the URL.
  cases Http.isHeaderValue (credential token) with
  | false => simp
  | true => cases call.url server <;> simp [givenHeaders_replace, requestTo, eq_comm]

/-- The request of a call goes out if it can be sent. -/
theorem dispatch_eq_sent_iff {call : Call α} {server token : String} {sent : Request} :
    (call.dispatch server token).1 = .sent sent ↔
      (Session.CanBeSent token ∧
        ∃ url, call.url server = .ok url ∧ sent = call.requestTo url token) ∧
        sent.isSendable := by
  rw [← request_eq_ok_iff]
  unfold dispatch
  cases call.request server token with
  | error failure => simp
  | ok request =>
    by_cases hsendable : request.isSendable
    · simp only [hsendable, ↓reduceIte, Stage.sent.injEq, Except.ok.injEq, iff_self_and]
      rintro rfl
      exact hsendable
    · simp only [hsendable, Bool.false_eq_true, ↓reduceIte, reduceCtorEq, Except.ok.injEq,
        false_iff, not_and]
      rintro rfl
      exact hsendable

/-- The request of a call goes out if the server is usable and a header can carry the token. -/
theorem dispatch_of_canBeSent {call : Call α} {server token : String} {url : Url}
    (hserver : call.IsUsable server url) (htoken : Session.CanBeSent token) :
    (call.dispatch server token).1 = .sent (call.requestTo url token) := by
  refine dispatch_eq_sent_iff.mpr ⟨⟨htoken, url, hserver.url_eq, rfl⟩, ?_⟩
  simp only [Request.isSendable, requestTo, hserver.scheme_eq, hserver.host]
  rfl

/-- How a call over a token that a header can carry is dispatched. The token is in the request, and
that is all it is needed for. -/
theorem dispatch_eq_of_canBeSent {token : String} (htoken : Session.CanBeSent token)
    (server : String) (call : Call α) :
    call.dispatch server token =
      match call.url server with
      | .error fault => (.done (.error (.transport fault)), call.announcement)
      | .ok url =>
        let request := call.requestTo url token
        (if request.isSendable then .sent request
          else .done (.error (.transport (.unusable url.text))),
          call.announcement ++ [.sending call.method url.text]) := by
  have hheader : Http.isHeaderValue (credential token) :=
    (Session.isHeaderValue_credential_iff token).mpr htoken
  cases hurl : call.url server with
  | error fault => simp [dispatch, request, hheader, hurl]
  | ok url =>
    have hrequest : call.request server token = .ok (call.requestTo url token) :=
      request_eq_ok_iff.mpr ⟨htoken, url, hurl, rfl⟩
    rw [dispatch, hrequest]
    by_cases hsendable : (call.requestTo url token).isSendable <;> simp only [hsendable] <;> rfl

/-- A call over a token that no header can carry is over at once. -/
theorem dispatch_of_not_canBeSent {token : String} (htoken : ¬Session.CanBeSent token)
    (server : String) (call : Call α) :
    call.dispatch server token = (.done (.error .invalidHeader), call.announcement) := by
  have hheader : Http.isHeaderValue (credential token) = false := by
    simpa using mt (Session.isHeaderValue_credential_iff token).mp htoken
  -- The credential is looked at before the URL, so it makes no difference which server it is.
  have hrequest : call.request server token = .error .invalidHeader := by simp [request, hheader]
  rw [dispatch, hrequest]

/-- A token that no header can carry keeps every call back, whatever the reply would be, and the
session stays as it is. -/
theorem perform_of_not_canBeSent {s : Session} (htoken : ¬Session.CanBeSent s.token)
    (server : String) (call : Call α) (reply : Reply) :
    call.perform server reply s =
      { result := .error .invalidHeader, session := s, events := call.announcement,
        request := none } := by
  rw [perform, dispatch_of_not_canBeSent htoken]
  rfl

/-! ### Logins -/

section

variable {server name password text : String} {url : Url} {status : Status} {body : Body}
  {reply : LoginReply} {s : Session}

/-- A login whose request is out takes the token of the reply. -/
theorem receive_login (hstatus : status.isSuccess) (htext : body.text? = some text)
    (hreply : Wire.decode text = .ok reply) (request : Request) :
    (login name password).receive request (.head status body) s =
      (.ok reply, (s.take reply.token).1, (s.take reply.token).2 ++ [.loggedIn name]) := by
  have hhead : (login name password).receiveHead request status s =
      (.headed request status, s, []) := by
    simp [receiveHead, hstatus, endsAtHead]
  have hbody : (login name password).receiveBody request status body s =
      (.ok reply, (s.take reply.token).1, (s.take reply.token).2 ++ [.loggedIn name]) := by
    simp [receiveBody, htext, hstatus, Call.decode, hreply, newToken?, successEvents]
  simp [receive, hhead, hbody]

/-- A login over a token that a header can carry is sent, gives the answer of the server, and leaves
the token of the answer. -/
theorem perform_login (hserver : (login name password).IsUsable server url)
    (hstatus : status.isSuccess) (htext : body.text? = some text)
    (hreply : Wire.decode text = .ok reply) (htoken : Session.CanBeSent s.token) :
    let o := (login name password).perform server (.head status body) s
    o.request = some ((login name password).requestTo url s.token) ∧ o.result = .ok reply ∧
      o.session = (s.take reply.token).1 := by
  have hsent := dispatch_of_canBeSent hserver htoken
  have hreceive (request : Request) :
      (login name password).receive request (.head status body) s = _ :=
    receive_login hstatus htext hreply request
  rcases hdispatch : (login name password).dispatch server s.token with ⟨stage, events⟩
  obtain rfl : stage = .sent ((login name password).requestTo url s.token) := by
    rw [hdispatch] at hsent
    exact hsent
  simp [perform, hdispatch, hreceive]

/-- A result is the value that it has. -/
theorem eq_ok_of_toOption_eq_some {ε β : Type} {x : Except ε β} {b : β}
    (h : x.toOption = some b) : x = .ok b := by
  cases x with
  | error _ => exact absurd h (by simp [Except.toOption])
  | ok _ => exact congrArg Except.ok (Option.some.inj h)

/-- There is a server that a login can be sent to. -/
theorem isUsable_login :
    (login "alice" "secret").IsUsable "http://news.test"
      ⟨"http", some (.ofHost (.name "news.test".toList) none),
        .segments ["api".toList, "auth".toList, "login".toList], none, none⟩ where
  url_eq := eq_ok_of_toOption_eq_some (by decide +kernel)
  scheme_eq := rfl
  host := by decide

/-- A login recovers exactly from the tokens that a header can carry. The server is usable and
answers the login in full; then the login is sent, succeeds and leaves the new token if a header can
carry the held one, and otherwise it is kept back and the session stays as it is. -/
theorem login_recovers_iff (hserver : (login name password).IsUsable server url)
    (hstatus : status.isSuccess) (htext : body.text? = some text)
    (hreply : Wire.decode text = .ok reply) (s : Session) :
    let o := (login name password).perform server (.head status body) s
    (o.request = some ((login name password).requestTo url s.token) ∧ o.result = .ok reply ∧
        o.session.held = some reply.token ↔ Session.CanBeSent s.token) ∧
      (¬Session.CanBeSent s.token →
        o.request = none ∧ o.result = .error .invalidHeader ∧ o.session = s) := by
  intro o
  by_cases htoken : Session.CanBeSent s.token
  · obtain ⟨hrequest, hresult, hsession⟩ := perform_login hserver hstatus htext hreply htoken
    refine ⟨⟨fun _ => htoken, fun _ => ⟨hrequest, hresult, ?_⟩⟩, absurd htoken⟩
    rw [hsession]
    exact s.held_take reply.token
  · have ho : o = _ :=
      perform_of_not_canBeSent htoken server (login name password) (.head status body)
    refine ⟨⟨fun h => ?_, fun h => absurd h htoken⟩, fun _ => ?_⟩
    · rw [ho] at h
      cases h.1
    · rw [ho]
      exact ⟨rfl, rfl, rfl⟩

/-- A first login leaves the token of the answer. -/
theorem login_recovers_iff_of_new :
    let body := Body.complete (Text.encode (LoginReply.json ⟨"T1"⟩).compact.toList)
    let o :=
      (login "alice" "secret").perform "http://news.test" (.head .ok body) (.new (.memory none))
    o.request.isSome ∧ o.result = .ok ⟨"T1"⟩ ∧ o.session.held = some "T1" := by
  intro body o
  have htext : body.text? = some (LoginReply.json ⟨"T1"⟩).compact := by simp [body, Body.text?]
  have hrecovers := login_recovers_iff isUsable_login (rfl : Status.ok.isSuccess) htext
    (LoginReply.decode_compact ⟨"T1"⟩) (.new (.memory none))
  obtain ⟨hrequest, hresult, hheld⟩ := hrecovers.1.mpr (by decide)
  exact ⟨Option.isSome_of_eq_some hrequest, hresult, hheld⟩

/-- A login that brings a token with a line break keeps the next login back, although the server
would answer that one too; and so does such a token that was kept. -/
theorem login_kept_back_after_login :
    let reply (token : String) :=
      Reply.head .ok (.complete (Text.encode (LoginReply.json ⟨token⟩).compact.toList))
    let first :=
      (login "alice" "secret").perform "http://news.test" (reply "bad\ntoken") (.new (.memory none))
    let second := (login "alice" "secret").perform "http://news.test" (reply "T1") first.session
    let restored := (login "alice" "secret").perform "http://news.test" (reply "T1")
      (Session.restore (.memory (some "bad\ntoken"))).1
    first.result = .ok ⟨"bad\ntoken"⟩ ∧
    second.request = none ∧ second.result = .error .invalidHeader ∧
    second.session.held = some "bad\ntoken" ∧
    restored.request = none ∧ restored.result = .error .invalidHeader ∧
    restored.session.held = some "bad\ntoken" := by
  intro reply first second restored
  have htext (token : String) :
      (Body.complete (Text.encode (LoginReply.json ⟨token⟩).compact.toList)).text? =
      some (LoginReply.json ⟨token⟩).compact := by
    simp [Body.text?]
  obtain ⟨-, hresult, hsession⟩ := perform_login isUsable_login
    (rfl : Status.ok.isSuccess) (htext "bad\ntoken") (LoginReply.decode_compact ⟨"bad\ntoken"⟩)
    (by decide : Session.CanBeSent (Session.new (.memory none)).token)
  have hheld : first.session.held = some "bad\ntoken" := by
    rw [hsession]
    exact Session.held_take ..
  have hsecond : second = _ := perform_of_not_canBeSent (by rw [Session.token, hheld]; decide) ..
  have hrestored : restored = _ := perform_of_not_canBeSent (by decide) ..
  rw [hsecond, hrestored]
  exact ⟨hresult, rfl, rfl, hheld, rfl, rfl, rfl⟩

end

end Call

end NewsReader
