import NewsReader.Api.Traffic

/-!
# The credential, whatever the order of the replies

Calls that are under way at the same time use one session, and any of their replies may change the
token. A reply does so at one of three events: a login is answered in full, a status says that the
credential is rejected, or a status grants a logout. The events are read off the call and the reply
alone. Neither the vault nor the other calls have a say in them.

The held token is the one that the latest event decided. That is a matter of single steps
(`Traffic.held_step`), so no order of the steps is special.

* `Call.held_receiveHead`, `Call.held_receiveBody` — the two phases of a call that can be events.
* `Traffic.held_step` — the step lemma.
* `Traffic.held_run` — the latest event decides, in every run.
-/

namespace NewsReader

open Http (Body Request Status)
open Json (Wire)

/-- An event that decides which token is held. -/
inductive CredentialEvent where
  /-- A login is answered with a token. -/
  | loggedIn (token : String)
  /-- The server does not accept the credential. -/
  | rejected
  /-- The server grants a logout. -/
  | loggedOut
  deriving DecidableEq

/-- The token that is held after an event. -/
def CredentialEvent.held : CredentialEvent → Option String
  | loggedIn token => some token
  | rejected | loggedOut => none

namespace Call

variable {α : Type}

/-- The event that the status of a reply to a call is. -/
def headEvent? (call : Call α) (status : Status) : Option CredentialEvent :=
  match call with
  | logout =>
    if status.code = 401 then some .rejected
    else if 200 ≤ status.code ∧ status.code ≤ 299 then some .loggedOut
    else none
  | _ => if status.code = 401 then some .rejected else none

/-- The event that the body of a reply to a call is. -/
def bodyEvent? (call : Call α) (status : Status) (body : Body) : Option CredentialEvent :=
  match call, body with
  | login .., .complete bytes =>
    if 200 ≤ status.code ∧ status.code ≤ 299 then
      match (Wire.decode (String.ofList (Text.decodeLenient bytes)) : Except _ LoginReply) with
      | .ok reply => some (.loggedIn reply.token)
      | .error _ => none
    else none
  | _, _ => none

end Call

namespace Traffic

/-- The event that a step is. A reply that no call is waiting for is none. -/
def credentialEvent? (t : Traffic) : Step → Option CredentialEvent
  | .head i status =>
    match t.flights[i]? with
    | some ⟨_, call, .sent _⟩ => call.headEvent? status
    | _ => none
  | .body i body =>
    match t.flights[i]? with
    | some ⟨_, call, .headed _ status⟩ => call.bodyEvent? status body
    | _ => none
  | .dispatch _ | .lose .. | .incident _ => none

/-- The events in steps, the earliest first. -/
def credentialEvents (server : String) (t : Traffic) : List Step → List CredentialEvent
  | [] => []
  | step :: steps =>
    (t.credentialEvent? step).toList ++ (t.step server step).1.credentialEvents server steps

end Traffic

/-! ### Phases of a call -/

/-- No token is held after it was dropped, even if the vault fails. -/
@[simp]
theorem Session.held_drop (s : Session) : s.drop.1.held = none := by
  rw [← held_clear s, drop]
  rcases s.clear with ⟨_ | _, _⟩ <;> rfl

/-- A token is held after it was taken, even if the vault fails. -/
@[simp]
theorem Session.held_take (s : Session) (token : String) : (s.take token).1.held = some token := by
  rw [← held_setToken s token, take]
  rcases s.setToken token with ⟨_ | _, _⟩ <;> rfl

namespace Http.Status

/-- The numbers of success. -/
theorem isSuccess_iff (s : Status) : s.isSuccess ↔ 200 ≤ s.code ∧ s.code ≤ 299 := by
  simp [isSuccess]
  omega

/-- The number of a rejected credential. -/
theorem eq_unauthorized_iff (s : Status) : s = .unauthorized ↔ s.code = 401 := by
  cases s
  simp [unauthorized]

end Http.Status

namespace Call

variable {α : Type}

/-- What a status does to the held token. -/
theorem held_receiveHead (call : Call α) (request : Request) (status : Status) (s : Session) :
    (call.receiveHead request status s).2.1.held =
      (call.headEvent? status).elim s.held CredentialEvent.held := by
  by_cases hsuccess : status.isSuccess
  · -- A success is no rejection, so only a logout is an event.
    have hrange := status.isSuccess_iff.mp hsuccess
    have hne : status.code ≠ 401 := by omega
    cases call <;>
      simp [receiveHead, headEvent?, endsAtHead, hsuccess, hrange, hne, CredentialEvent.held]
  · have hrange : ¬(200 ≤ status.code ∧ status.code ≤ 299) :=
      mt status.isSuccess_iff.mpr hsuccess
    by_cases hcode : status.code = 401
    · have hrejected : status = .unauthorized := status.eq_unauthorized_iff.mpr hcode
      have hevent : call.headEvent? status = some .rejected := by
        cases call <;> simp [headEvent?, hcode]
      rw [hevent, receiveHead, if_neg hsuccess, if_pos hrejected]
      exact s.held_drop
    · have haccepted : status ≠ .unauthorized := mt status.eq_unauthorized_iff.mp hcode
      have hevent : call.headEvent? status = none := by
        cases call <;> simp [headEvent?, hcode, hrange]
      simp [receiveHead, hsuccess, haccepted, hevent]

/-- Only the answer to a login brings a token. -/
theorem held_receiveBody_of_newToken? {call : Call α}
    (h : ∀ answer, call.newToken? answer = none) (request : Request) (status : Status)
    (body : Body) (s : Session) : (call.receiveBody request status body s).2.1 = s := by
  cases htext : body.text? with
  | none => simp [receiveBody, htext]
  | some text =>
    by_cases hsuccess : status.isSuccess
    · cases hdecode : call.decode text <;> simp [receiveBody, htext, hsuccess, hdecode, h]
    · simp [receiveBody, htext, hsuccess]

/-- What a body does to the held token. -/
theorem held_receiveBody (call : Call α) (request : Request) (status : Status) (body : Body)
    (s : Session) :
    (call.receiveBody request status body s).2.1.held =
      (call.bodyEvent? status body).elim s.held CredentialEvent.held := by
  -- A login is the only call that a body can be an event for.
  cases call with
  | login name password =>
    cases body with
    | cutShort => rfl
    | complete bytes =>
      by_cases hsuccess : status.isSuccess
      · have hrange := status.isSuccess_iff.mp hsuccess
        cases hdecode :
          (Wire.decode (String.ofList (Text.decodeLenient bytes)) : Except _ LoginReply) <;>
          simp [receiveBody, Body.text?, Call.decode, newToken?, bodyEvent?, hsuccess,
            hrange, hdecode, CredentialEvent.held]
      · have hrange : ¬(200 ≤ status.code ∧ status.code ≤ 299) :=
          mt status.isSuccess_iff.mpr hsuccess
        simp [receiveBody, Body.text?, bodyEvent?, hsuccess, hrange]
  | _ => rw [held_receiveBody_of_newToken? fun _ => rfl]; rfl

end Call

/-! ### Steps -/

namespace Traffic

/-- The step lemma: an event decides which token is held, and no other step changes it. -/
theorem held_step (server : String) (t : Traffic) (step : Step) :
    (t.step server step).1.session.held =
      (t.credentialEvent? step).elim t.session.held CredentialEvent.held := by
  -- A reply counts only for a call that waits for it; otherwise the step is no event and changes
  -- nothing.
  cases step with
  | dispatch call => rfl
  | head i status =>
    cases hflight : t.flights[i]? with
    | none => simp [Traffic.step, credentialEvent?, hflight]
    | some f =>
      obtain ⟨_, call, stage⟩ := f
      cases stage with
      | sent request =>
        simp only [Traffic.step, credentialEvent?, hflight, setStage]
        exact call.held_receiveHead request status t.session
      | _ => simp [Traffic.step, credentialEvent?, hflight]
  | body i body =>
    cases hflight : t.flights[i]? with
    | none => simp [Traffic.step, credentialEvent?, hflight]
    | some f =>
      obtain ⟨_, call, stage⟩ := f
      cases stage with
      | headed request status =>
        simp only [Traffic.step, credentialEvent?, hflight, setStage]
        exact call.held_receiveBody request status body t.session
      | _ => simp [Traffic.step, credentialEvent?, hflight]
  | lose i late =>
    cases hflight : t.flights[i]? <;> simp [Traffic.step, credentialEvent?, hflight, setStage]
  | incident incident => rfl

/-! ### Main result -/

/-- The held token is the one that the latest event decided, in every run of any calls over any
vault, whatever the replies and their order and whatever happens to the vault. Before the first
event it is the one from the start. -/
theorem held_run (server : String) (t : Traffic) (steps : List Step) :
    (t.run server steps).session.held =
      (t.credentialEvents server steps).getLast?.elim t.session.held CredentialEvent.held := by
  induction steps generalizing t with
  | nil => rfl
  | cons step steps ih =>
    rw [credentialEvents, List.getLast?_append]
    refine (ih (t.step server step).1).trans ?_
    rw [held_step]
    -- The events of the later steps come first; what this step decides counts only if there are
    -- none.
    cases ((t.step server step).1.credentialEvents server steps).getLast? with
    | some event => rfl
    | none => cases t.credentialEvent? step <;> rfl

end Traffic

end NewsReader
