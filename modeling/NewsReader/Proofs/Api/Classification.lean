import NewsReader.Proofs.Api.Login

/-!
# What becomes of a reply

Every reply to a call comes to one result, and which one is a matter of the call, the status and the
body alone: `Call.Verdict` has a rule for each case. Two calls are apart from the others. A login is
never told that its credential is rejected, since a refused login has a failure of its own; and a
granted logout is over before its body is read.

A status that rejects the credential drops the token before the body is read. So the token is gone
whatever the body is, even if there is no complete one.

* `Call.verdict_receive` and `Call.Verdict.unique` — the rules give the result, and no other one.
* `Call.perform_classified` — the result of a call that was sent, and the token that is held after
  it.
-/

namespace NewsReader

open Http (Body Reply Request Status)
open Api (Failure refusalReason)

namespace Call

variable {α : Type}

/-- The call is a login. -/
def isLogin : Call α → Bool
  | login .. => true
  | _ => false

/-- The call is a logout. -/
def isLogout : Call α → Bool
  | logout => true
  | _ => false

/-- The text in the bytes of a body. What is not UTF-8 is replaced, and nothing is left out. -/
def textOf (bytes : List UInt8) : String :=
  String.ofList (Text.decodeLenient bytes)

/-- The rules for the result of a call to a URL when a status and a body come back. -/
inductive Verdict (call : Call α) (url : Url) (status : Status) :
    Body → Except Failure α → Prop where
  /-- A logout is granted by its status, whatever the body is. There is only one answer to it. -/
  | loggedOut (hcall : call.isLogout)
    (hstatus : 200 ≤ status.code ∧ status.code ≤ 299) {body : Body}
    {answer : α} : Verdict call url status body (.ok answer)
  /-- The body of a success holds the answer. -/
  | answered (hcall : ¬call.isLogout) (hstatus : 200 ≤ status.code ∧ status.code ≤ 299)
    {bytes : List UInt8} {answer : α} (hdecode : call.decode (textOf bytes) = .ok answer) :
    Verdict call url status (.complete bytes) (.ok answer)
  /-- The body of a success holds something else. -/
  | unexpected (hcall : ¬call.isLogout) (hstatus : 200 ≤ status.code ∧ status.code ≤ 299)
    {bytes : List UInt8} {fault : Json.Fault}
      (hdecode : call.decode (textOf bytes) = .error fault) :
    Verdict call url status (.complete bytes)
      (.error (.invalidResponse (fault.message ++ " (from " ++ url.text ++ ")")))
  /-- A login is refused, whatever the status is. -/
  | loginRefused (hcall : call.isLogin) (hstatus : ¬(200 ≤ status.code ∧ status.code ≤ 299))
    {bytes : List UInt8} :
    Verdict call url status (.complete bytes)
      (.error (.invalidCredentials (refusalReason (textOf bytes))))
  /-- The credential of another call is rejected. -/
  | rejected (hcall : ¬call.isLogin) (hcode : status.code = 401) {bytes : List UInt8} :
    Verdict call url status (.complete bytes) (.error .unauthorized)
  /-- Another call is refused for another reason. -/
  | refused (hcall : ¬call.isLogin) (hstatus : ¬(200 ≤ status.code ∧ status.code ≤ 299))
    (hcode : status.code ≠ 401) {bytes : List UInt8} :
    Verdict call url status (.complete bytes) (.error (.requestFailed status (textOf bytes)))
  /-- The body breaks off, and the call is not over by then. -/
  | cutShort (hcall : ¬(call.isLogout ∧ 200 ≤ status.code ∧ status.code ≤ 299)) :
    Verdict call url status .cutShort (.error (.transport .cutShort))

/-! ### One result for each reply -/

/-- A logout has only one answer. -/
theorem answer_eq_of_isLogout {call : Call α} (h : call.isLogout) (answer answer' : α) :
    answer = answer' := by
  cases call with
  | logout => rfl
  | _ => cases h

section

variable {call : Call α} {url : Url} {status : Status} {body : Body}
  {result result' : Except Failure α}

/-- The rules give no two results. -/
theorem Verdict.unique (h : call.Verdict url status body result)
    (h' : call.Verdict url status body result') : result = result' := by
  have hrejection : status.code = 401 →
      ¬(200 ≤ status.code ∧ status.code ≤ 299) := by omega
  -- Two rules for one reply need different calls or statuses, or read different things in one body.
  cases h with
  | loggedOut hcall hstatus =>
    cases h' with
    | loggedOut => exact congrArg Except.ok (answer_eq_of_isLogout hcall ..)
    | _ => simp_all
  | answered hcall hstatus hdecode => cases h' <;> simp_all
  | unexpected hcall hstatus hdecode => cases h' <;> simp_all
  | loginRefused hcall hstatus => cases h' <;> simp_all
  | rejected hcall hcode => cases h' <;> simp_all
  | refused hcall hstatus hcode => cases h' <;> simp_all
  | cutShort hcall => cases h' <;> simp_all

end

/-! ### The result follows the rules -/

section

variable {call : Call α} {request : Request} {status : Status} {body : Body}

/-- A status ends no call but a logout that it grants. -/
theorem stage_receiveHead
    (hcall : ¬(call.isLogout ∧ 200 ≤ status.code ∧ status.code ≤ 299)) (request : Request)
    (s : Session) : (call.receiveHead request status s).1 = .headed request status := by
  by_cases hsuccess : status.isSuccess
  · have hrange := status.isSuccess_iff.mp hsuccess
    cases call with
    | logout => exact absurd ⟨rfl, hrange⟩ hcall
    | _ => simp [receiveHead, hsuccess, endsAtHead]
  · rw [receiveHead, if_neg hsuccess]
    split <;> rfl

/-- A call that its status did not end goes on to its body. -/
theorem receive_of_headed {s : Session}
    (h : (call.receiveHead request status s).1 = .headed request status) (body : Body) :
    (call.receive request (.head status body) s).1 =
        (call.receiveBody request status body (call.receiveHead request status s).2.1).1 ∧
      (call.receive request (.head status body) s).2.1 =
        (call.receiveBody request status body (call.receiveHead request status s).2.1).2.1 := by
  rcases hhead : call.receiveHead request status s with ⟨stage, s', events⟩
  rw [hhead] at h
  subst h
  simp [receive, hhead]

/-- A granted logout is over at its status, without a token. -/
theorem receive_of_isLogout (hcall : call.isLogout)
    (hstatus : 200 ≤ status.code ∧ status.code ≤ 299) (request : Request) (body : Body)
    (s : Session) :
    (∃ answer, (call.receive request (.head status body) s).1 = .ok answer) ∧
      (call.receive request (.head status body) s).2.1.held = none := by
  have hsuccess : status.isSuccess := status.isSuccess_iff.mpr hstatus
  cases call with
  | logout => simp [receive, receiveHead, hsuccess, endsAtHead]
  | _ => cases hcall

/-- A login has a failure of its own when it is refused. -/
theorem refusal_of_isLogin (hcall : call.isLogin) (status : Status) (text : String) :
    (call.refusal status text).1 = .invalidCredentials (refusalReason text) := by
  cases call with
  | login name password => rfl
  | _ => cases hcall

/-- The failure of any other call that is refused tells the status. -/
theorem refusal_of_not_isLogin (hcall : ¬call.isLogin) (status : Status) (text : String) :
    (call.refusal status text).1 =
      if status.code = 401 then .unauthorized else .requestFailed status text := by
  have hreply : Failure.ofReply status text =
      if status.code = 401 then .unauthorized else .requestFailed status text := by
    simp only [Failure.ofReply, status.eq_unauthorized_iff]
  rw [← hreply]
  cases call with
  | login name password => exact absurd rfl hcall
  | _ => rfl

/-- What a body comes to follows the rules. -/
theorem verdict_receiveBody
    (hcall : ¬(call.isLogout ∧ 200 ≤ status.code ∧ status.code ≤ 299)) (s : Session) :
    call.Verdict request.url status body (call.receiveBody request status body s).1 := by
  cases body with
  | cutShort => exact .cutShort hcall
  | complete bytes =>
    have htext : (Body.complete bytes).text? = some (textOf bytes) := rfl
    by_cases hsuccess : status.isSuccess
    · have hrange := status.isSuccess_iff.mp hsuccess
      have hlogout : ¬call.isLogout := fun h => hcall ⟨h, hrange⟩
      cases hdecode : call.decode (textOf bytes) with
      | error fault =>
        simp only [receiveBody, htext, hsuccess, hdecode, ↓reduceIte]
        exact .unexpected hlogout hrange hdecode
      | ok answer =>
        -- Whether the answer brings a token makes no difference to the result.
        cases htoken : call.newToken? answer <;>
          simp only [receiveBody, htext, hsuccess, hdecode, htoken, ↓reduceIte] <;>
          exact .answered hlogout hrange hdecode
    · have hrange := mt status.isSuccess_iff.mpr hsuccess
      have hrefused : (call.receiveBody request status (.complete bytes) s).1 =
          .error (call.refusal status (textOf bytes)).1 := by
        simp [receiveBody, htext, hsuccess]
      rw [hrefused]
      by_cases hlogin : call.isLogin
      · rw [refusal_of_isLogin hlogin]
        exact .loginRefused hlogin hrange
      · rw [refusal_of_not_isLogin hlogin]
        by_cases hcode : status.code = 401
        · rw [if_pos hcode]
          exact .rejected hlogin hcode
        · rw [if_neg hcode]
          exact .refused hlogin hrange hcode

/-- What a reply comes to follows the rules, whatever the session is. -/
theorem verdict_receive (call : Call α) (request : Request) (status : Status) (body : Body)
    (s : Session) :
    call.Verdict request.url status body (call.receive request (.head status body) s).1 := by
  by_cases hcall : call.isLogout ∧ 200 ≤ status.code ∧ status.code ≤ 299
  · obtain ⟨⟨answer, hanswer⟩, -⟩ := receive_of_isLogout hcall.1 hcall.2 request body s
    rw [hanswer]
    exact .loggedOut hcall.1 hcall.2
  · rw [(receive_of_headed (stage_receiveHead hcall request s) body).1]
    exact verdict_receiveBody hcall _

end

/-! ### The token after a reply -/

section

variable {call : Call α} {request : Request} {status : Status} {body : Body}

/-- A rejected credential is dropped before the body is read. -/
theorem held_receive_of_rejected (hcode : status.code = 401) (s : Session) :
    (call.receive request (.head status body) s).2.1.held = none := by
  have hrange : ¬(200 ≤ status.code ∧ status.code ≤ 299) := by omega
  have hevent : call.headEvent? status = some .rejected := by
    cases call <;> simp [headEvent?, hcode]
  have hbody : call.bodyEvent? status body = none := by
    cases call <;> cases body <;> simp [bodyEvent?, hrange]
  rw [(receive_of_headed (stage_receiveHead (fun h => hrange h.2) request s) body).2,
    held_receiveBody, hbody, Option.elim_none, held_receiveHead, hevent]
  rfl

/-- A status that neither rejects the credential nor grants a logout leaves the session. -/
theorem session_receiveHead (hcode : status.code ≠ 401)
    (hcall : ¬(call.isLogout ∧ 200 ≤ status.code ∧ status.code ≤ 299)) (s : Session) :
    (call.receiveHead request status s).2.1 = s := by
  have haccepted : status ≠ .unauthorized := mt status.eq_unauthorized_iff.mp hcode
  by_cases hsuccess : status.isSuccess
  · have hrange := status.isSuccess_iff.mp hsuccess
    cases call with
    | logout => exact absurd ⟨rfl, hrange⟩ hcall
    | _ => simp [receiveHead, hsuccess, endsAtHead]
  · simp [receiveHead, hsuccess, haccepted]

/-- Only an answer with a token changes the session when a body comes in: the token is taken. -/
theorem session_receiveBody (call : Call α) (request : Request) (status : Status) (body : Body)
    (s : Session) :
    (call.receiveBody request status body s).2.1 =
      (((call.receiveBody request status body s).1.toOption.bind call.newToken?).elim s fun token =>
        (s.take token).1) := by
  cases htext : body.text? with
  | none => simp [receiveBody, htext, Except.toOption]
  | some text =>
    by_cases hsuccess : status.isSuccess
    · cases hdecode : call.decode text with
      | error fault => simp [receiveBody, htext, hsuccess, hdecode, Except.toOption]
      | ok answer =>
        cases htoken : call.newToken? answer <;>
          simp [receiveBody, htext, hsuccess, hdecode, htoken, Except.toOption]
    · simp [receiveBody, htext, hsuccess, Except.toOption]

/-- Only the answer to a login brings a token. -/
theorem isLogin_of_newToken? {answer : α} {token : String}
    (h : call.newToken? answer = some token) : call.isLogin := by
  cases call with
  | login name password => rfl
  | _ => cases h

/-- No login is a logout. -/
theorem not_isLogout_of_isLogin (h : call.isLogin) : ¬call.isLogout := by
  cases call with
  | login name password => exact Bool.false_ne_true
  | _ => cases h

/-- The token of an answer is held. -/
theorem held_receive_of_newToken? {s : Session} {answer : α} {token : String}
    (hresult : (call.receive request (.head status body) s).1 = .ok answer)
    (htoken : call.newToken? answer = some token) :
    (call.receive request (.head status body) s).2.1.held = some token := by
  have hlogout := not_isLogout_of_isLogin (isLogin_of_newToken? htoken)
  obtain ⟨hbody, hsession⟩ :=
    receive_of_headed (stage_receiveHead (fun h => hlogout h.1) request s) body
  rw [hbody] at hresult
  rw [hsession, session_receiveBody, hresult]
  simp [Except.toOption, htoken]

/-- A reply that is neither a rejection nor the success of a login or a logout leaves the
session. -/
theorem session_receive_of_kept {s : Session} (hcode : status.code ≠ 401)
    (hresult : ∀ answer, (call.receive request (.head status body) s).1 = .ok answer →
      ¬call.isLogin ∧ ¬call.isLogout) :
    (call.receive request (.head status body) s).2.1 = s := by
  have hlogout : ¬(call.isLogout ∧ 200 ≤ status.code ∧ status.code ≤ 299) := by
    rintro ⟨hcall, hstatus⟩
    obtain ⟨⟨answer, hanswer⟩, -⟩ := receive_of_isLogout hcall hstatus request body s
    exact (hresult answer hanswer).2 hcall
  obtain ⟨hbody, hsession⟩ := receive_of_headed (stage_receiveHead hlogout request s) body
  rw [hsession, session_receiveBody, session_receiveHead hcode hlogout]
  rw [hbody, session_receiveHead hcode hlogout] at hresult
  -- A token would come from the answer to a login.
  cases hanswer : (call.receiveBody request status body s).1 with
  | error failure => rfl
  | ok answer =>
    cases htoken : call.newToken? answer with
    | none => simp [Except.toOption, htoken]
    | some token => exact absurd (isLogin_of_newToken? htoken) (hresult answer hanswer).1

end

/-! ### Main result -/

section

variable {server : String} {call : Call α} {request : Request} {s : Session}

/-- A call whose request is out comes to what the reply comes to. -/
theorem perform_of_sent (hsent : (call.dispatch server s.token).1 = .sent request) (reply : Reply) :
    (call.perform server reply s).result = (call.receive request reply s).1 ∧
      (call.perform server reply s).session = (call.receive request reply s).2.1 := by
  rcases hdispatch : call.dispatch server s.token with ⟨stage, events⟩
  rw [hdispatch] at hsent
  subst hsent
  simp [perform, hdispatch]

/-- Every reply to a call that was sent comes to the one result that the rules give. Only a login is
refused for its credentials, and it is never told anything else about them. A failure that tells the
status tells the one that came, which is neither a success nor a rejection. Whoever is told that the
credential was rejected is logged out already. Other than by a rejection or by the success of a
login or a logout, the held token never changes. -/
theorem perform_classified (hsent : (call.dispatch server s.token).1 = .sent request)
    (status : Status) (body : Body) :
    let o := call.perform server (.head status body) s
    (∀ result, o.result = result ↔ call.Verdict request.url status body result) ∧
    (call.isLogin → o.result ≠ .error .unauthorized ∧
      ∀ told text, o.result ≠ .error (.requestFailed told text)) ∧
    (¬call.isLogin → ∀ reason, o.result ≠ .error (.invalidCredentials reason)) ∧
    (∀ told text, o.result = .error (.requestFailed told text) →
      told = status ∧ ¬(200 ≤ told.code ∧ told.code ≤ 299) ∧ told.code ≠ 401) ∧
    (o.result = .error .unauthorized → o.session.state = .anonymous) ∧
    (status.code = 401 → o.session.held = none) ∧
    (call.isLogout → 200 ≤ status.code ∧ status.code ≤ 299 → o.session.held = none) ∧
    (∀ answer token, o.result = .ok answer → call.newToken? answer = some token →
      o.session.held = some token) ∧
    (status.code ≠ 401 →
      (∀ answer, o.result = .ok answer → ¬call.isLogin ∧ ¬call.isLogout) →
      o.session = s) := by
  intro o
  obtain ⟨hresult, hsession⟩ := perform_of_sent hsent (.head status body)
  have hverdict : call.Verdict request.url status body o.result := by
    rw [hresult]
    exact verdict_receive ..
  have hrejected : status.code = 401 → o.session.held = none := by
    intro hcode
    rw [hsession]
    exact held_receive_of_rejected hcode s
  refine ⟨fun result => ⟨fun h => h ▸ hverdict, fun h => hverdict.unique h⟩, ?_, ?_, ?_, ?_,
    hrejected, ?_, ?_, ?_⟩
  -- The first four are about the result alone, so they are read off the rules; the others are about
  -- the session.
  · intro hlogin
    refine ⟨fun h => ?_, fun told text h => ?_⟩ <;> rw [h] at hverdict <;>
      cases hverdict <;> contradiction
  · intro hlogin reason h
    rw [h] at hverdict
    cases hverdict
    contradiction
  · intro told text h
    rw [h] at hverdict
    cases hverdict with
    | refused hcall hstatus hcode => exact ⟨rfl, hstatus, hcode⟩
  · intro h
    rw [h] at hverdict
    cases hverdict with
    | rejected hcall hcode => simp [Session.state, Session.token, hrejected hcode]
  · intro hlogout hstatus
    rw [hsession]
    exact (receive_of_isLogout hlogout hstatus request body s).2
  · intro answer token hanswer htoken
    rw [hsession]
    exact held_receive_of_newToken? (hresult ▸ hanswer) htoken
  · intro hcode hanswer
    rw [hsession]
    exact session_receive_of_kept hcode fun answer h => hanswer answer (hresult.trans h)

/-- A login whose credential is rejected and whose body breaks off is told so, and the token is
gone. -/
theorem perform_classified_cutShort :
    let s : Session := ⟨some "T0", .memory (some "T0")⟩
    (∃ request, ((login "alice" "secret").dispatch "http://news.test" s.token).1 =
      .sent request) ∧
    let o := (login "alice" "secret").perform "http://news.test" (.head .unauthorized .cutShort) s
    o.result = .error (.transport .cutShort) ∧ o.session.held = none := by
  intro s
  have hsent := dispatch_of_canBeSent isUsable_login (by decide : Session.CanBeSent s.token)
  obtain ⟨hverdict, -, -, -, -, hrejected, -⟩ :=
    perform_classified hsent .unauthorized .cutShort
  refine ⟨⟨_, hsent⟩, (hverdict _).mpr ?_, hrejected rfl⟩
  exact .cutShort fun h => absurd h.1 Bool.false_ne_true

end

end Call

end NewsReader
