import NewsReader.Proofs.Api.Endpoint
import NewsReader.Proofs.Api.Replies
import NewsReader.Proofs.Session.Restart

/-!
# What a login leaves

A login takes whatever token the server brings. Two other parts of the program ask more of a token:
nobody is logged in with the empty one, and no call can be sent with one that a header cannot carry.
So a login may succeed and leave a session that is of no use.

* `Call.held_of_login` — a login that succeeds leaves the token of its answer.
* `Call.login_leaves_usable_iff` — with which tokens the session can be used then.
-/

namespace NewsReader

open Http (Reply)

namespace Call

section

variable {server name password : String} {reply : Reply} {answer : LoginReply} {s : Session}

/-- The token of the answer is held after a login, even if the vault fails. -/
theorem held_of_login
    (hlogin : ((login name password).perform server reply s).result = .ok answer) :
    ((login name password).perform server reply s).session.held = some answer.token := by
  rcases (login name password).perform_cases server reply s with
    ⟨request, -, -, hresult, hsession, -⟩ | ⟨-, -, failure, hfailed⟩
  · rw [hresult] at hlogin
    rw [hsession]
    -- There is an answer only if there is a status with a body.
    cases reply with
    | head status body => exact held_receive_of_newToken? hlogin rfl
    | _ => cases hlogin
  · rw [hfailed] at hlogin
    cases hlogin

/-- What a login that succeeds is good for. Its token is held; somebody is logged in exactly if that
is not the empty text, and the next call, to a server that can be used, goes out with that token
exactly if a header can carry it. If no header can, then every next call is kept back, and the
session stays. -/
theorem login_leaves_usable_iff
    (hlogin : ((login name password).perform server reply s).result = .ok answer) :
    let after := ((login name password).perform server reply s).session
    after.held = some answer.token ∧ (after.state = .authenticated ↔ answer.token ≠ "") ∧
    ∀ {β : Type} (next : Call β) (url : Url) (nextReply : Reply), next.IsUsable server url →
      nextReply ≠ .unreachable →
      let o := next.perform server nextReply after
      ((∃ request ∈ o.request,
        request.url = url ∧ request.authorization = "Bearer " ++ answer.token) ↔
        Session.CanBeSent answer.token) ∧
      (¬Session.CanBeSent answer.token →
        o.request = none ∧ o.result = .error .invalidHeader ∧ o.session = after) := by
  intro after
  have hheld : after.held = some answer.token := held_of_login hlogin
  have htoken : after.token = answer.token := by rw [Session.token, hheld]; rfl
  refine ⟨hheld, ?_, fun next url nextReply hserver hreply => ?_⟩
  · rw [Session.state_eq_authenticated_iff, htoken]
  · intro o
    have hkept (hbad : ¬Session.CanBeSent answer.token) : o = _ :=
      perform_of_not_canBeSent (htoken ▸ hbad : ¬Session.CanBeSent after.token) server
        next nextReply
    refine ⟨⟨?_, fun hgood => ?_⟩, fun hbad => ?_⟩
    · -- A request went out, so the token was not one that keeps calls back.
      rintro ⟨request, hrequest, -⟩
      by_contra hbad
      rw [hkept hbad] at hrequest
      cases hrequest
    · rw [← htoken] at hgood
      have hsent := dispatch_of_canBeSent hserver hgood
      refine ⟨_, mem_request_perform_iff.mpr ⟨hsent, hreply⟩, rfl, ?_⟩
      rw [authorization_requestTo, htoken]
      rfl
    · rw [hkept hbad]
      exact ⟨rfl, rfl, rfl⟩

/-- What a server answers to a login that it grants. -/
def granting (token : String) : Reply :=
  .head .ok (.complete (Text.encode (LoginReply.json ⟨token⟩).compact.toList))

/-- A server can grant a login with any token. -/
theorem perform_granting (token : String) (hsendable : Session.CanBeSent s.token) :
    ((login "alice" "secret").perform "http://news.test" (granting token) s).result =
      .ok ⟨token⟩ := by
  have htext :
      (Http.Body.complete (Text.encode (LoginReply.json ⟨token⟩).compact.toList)).text? =
      some (LoginReply.json ⟨token⟩).compact := by
    simp [Http.Body.text?]
  exact (perform_login isUsable_login (rfl : Http.Status.ok.isSuccess) htext
    (LoginReply.decode_compact ⟨token⟩) hsendable).2.1

/-- After a login that brings a token of letters and digits, the next call goes out with it. -/
theorem login_leaves_usable_iff_of_letters :
    let after :=
      ((login "alice" "secret").perform "http://news.test" (granting "T1")
        (.new (.memory none))).session
    after.state = .authenticated ∧
      ∃ request ∈ (me.perform "http://news.test" .none after).request,
        request.authorization = "Bearer T1" := by
  intro after
  have hserver :
      me.IsUsable "http://news.test" ⟨"http", some (.ofHost (.name "news.test".toList) none),
      .segments ["api".toList, "auth".toList, "me".toList], none, none⟩ :=
    { url_eq := eq_ok_of_toOption_eq_some (by decide +kernel)
      scheme_eq := rfl
      host := by decide }
  have hlogin := perform_granting (s := .new (.memory none)) "T1" (by decide)
  obtain ⟨-, hstate, hnext⟩ := login_leaves_usable_iff hlogin
  obtain ⟨request, hrequest, -, hcredential⟩ :=
    (hnext me _ .none hserver Reply.noConfusion).1.mpr (by decide : Session.CanBeSent "T1")
  exact ⟨hstate.mpr (by decide), request, hrequest, hcredential⟩

/-- A login that brings the empty token succeeds, and nobody is logged in. A login that brings a
token with a line break succeeds, and the next call is kept back. -/
theorem login_leaves_unusable :
    let first (token : String) :=
      (login "alice" "secret").perform "http://news.test" (granting token) (.new (.memory none))
    ((first "").result = .ok ⟨""⟩ ∧ (first "").session.state = .anonymous) ∧
    (first "bad\ntoken").result = .ok ⟨"bad\ntoken"⟩ ∧
    (first "bad\ntoken").session.state = .authenticated ∧
      let next := me.perform "http://news.test" .none (first "bad\ntoken").session
      next.request = none ∧ next.result = .error .invalidHeader := by
  intro first
  have hresult (token : String) : (first token).result = .ok ⟨token⟩ :=
    perform_granting token (by decide)
  have htoken (token : String) : (first token).session.token = token := by
    rw [Session.token, held_of_login (hresult token)]
    rfl
  have hnext := perform_of_not_canBeSent (s := (first "bad\ntoken").session)
    (by rw [htoken]; decide) "http://news.test" me .none
  refine ⟨⟨hresult "", ?_⟩, hresult "bad\ntoken", ?_, ?_⟩
  · rw [Session.state, htoken]
    rfl
  · rw [Session.state_eq_authenticated_iff, htoken]
    decide
  · rw [hnext]
    exact ⟨rfl, rfl⟩

end

end Call

end NewsReader
