import NewsReader.Proofs.Api.Replies
import NewsReader.Proofs.Session.Redacted

/-!
# What a reply settles

A call changes the session at most once, at the event that its reply is. All else that comes of the
reply, its result and what is logged before and after the change, is settled by the call, the
request and the reply alone: it is the same whatever the session is.

* `Settles` — a part of a call with at most one change of the session in it.
* `Call.settles_receive` — a whole reply is such a part.
* `Call.session_perform` — the session after a call.
-/

namespace NewsReader

open Http (Body Reply Request Status)

/-- What comes of something is settled, whatever the session is, but for the change that an event
is. -/
def Settles {ρ : Type} (event? : Option CredentialEvent)
    (f : Session → ρ × Session × List Event) : Prop :=
  ∃ result before after, ∀ s,
    f s = (result, (s.follow? event?).1, before ++ (s.follow? event?).2 ++ after)

/-- What leaves the session as it is and always comes to the same is settled. -/
theorem Settles.const {ρ : Type} (result : ρ) (events : List Event) :
    Settles none fun s => (result, s, events) :=
  ⟨result, events, [], fun s => by simp [Session.follow?]⟩

namespace Call

variable {α : Type}

section

variable (call : Call α) (request : Request) (status : Status) (body : Body) (reply : Reply)

/-- The event of a status: a success is one if it ends the call, and another status if it is a
rejection. -/
theorem headEvent?_eq :
    call.headEvent? status =
      if status.isSuccess then call.endsAtHead.map fun _ => .loggedOut
      else if status = .unauthorized then some .rejected else none := by
  -- No status is a success and a rejection, so it does not matter which of the two is asked for
  -- first.
  have hdisjoint : 200 ≤ status.code ∧ status.code ≤ 299 → status.code ≠ 401 := by omega
  by_cases hsuccess : 200 ≤ status.code ∧ status.code ≤ 299
  · cases call <;>
      simp [headEvent?, endsAtHead, status.isSuccess_iff, hsuccess, hdisjoint hsuccess]
  · cases call <;> simp [headEvent?, status.isSuccess_iff, hsuccess, status.eq_unauthorized_iff]

/-- The event of a body: it is one if it is the answer to a call that brings a token. -/
theorem bodyEvent?_eq (bytes : List UInt8) :
    call.bodyEvent? status (.complete bytes) =
      if status.isSuccess then
        ((call.decode (textOf bytes)).toOption.bind call.newToken?).map .loggedIn
      else none := by
  -- The calls other than logins are dealt with at once: whatever their answers are, these bring no
  -- token.
  have hnone (h : ∀ answer, call.newToken? answer = none) :
      (call.decode (textOf bytes)).toOption.bind call.newToken? = none := by
    cases call.decode (textOf bytes) <;> simp [Except.toOption, h]
  cases call with
  | login name password =>
    simp only [bodyEvent?, status.isSuccess_iff, Call.decode, textOf]
    cases (Json.Wire.decode (String.ofList (Text.decodeLenient bytes)) : Except _ LoginReply) <;>
      rfl
  | _ => rw [hnone fun _ => rfl]; exact (ite_self none).symm

/-- A status settles all but its event. -/
theorem settles_receiveHead :
    Settles (call.headEvent? status) (call.receiveHead request status) := by
  rw [headEvent?_eq]
  unfold receiveHead
  by_cases hsuccess : status.isSuccess
  · simp only [hsuccess, ↓reduceIte]
    cases call.endsAtHead with
    | none => exact .const _ _
    | some answer => exact ⟨.done (.ok answer), [], call.successEvents, fun s => rfl⟩
  · simp only [hsuccess]
    by_cases hrejected : status = .unauthorized
    · simp only [hrejected, ↓reduceIte]
      exact ⟨.headed request .unauthorized,
        [.credentialRejected request.method request.url.text], [],
        fun s => by simp [Session.follow?, Session.follow]⟩
    · simp only [hrejected, ↓reduceIte]
      exact .const _ _

/-- A body settles all but its event. -/
theorem settles_receiveBody :
    Settles (call.bodyEvent? status body) (call.receiveBody request status body) := by
  cases body with
  | cutShort =>
    have hevent : call.bodyEvent? status .cutShort = none := by cases call <;> rfl
    rw [hevent]
    exact .const _ _
  | complete bytes =>
    have htext : (Body.complete bytes).text? = some (textOf bytes) := rfl
    rw [bodyEvent?_eq]
    unfold receiveBody
    simp only [htext]
    by_cases hsuccess : status.isSuccess
    · simp only [hsuccess, ↓reduceIte]
      cases call.decode (textOf bytes) with
      | error fault => exact .const _ _
      | ok answer =>
        -- The session matters only for a new token, and its change is the event.
        cases htoken : call.newToken? answer with
        | none =>
          simp only [htoken, Except.toOption, Option.bind_some, Option.map_none]
          exact .const _ _
        | some token =>
          simp only [htoken, Except.toOption, Option.bind_some, Option.map_some]
          exact ⟨.ok answer, [], call.successEvents, fun s => rfl⟩
    · simp only [hsuccess]
      exact .const _ _

/-- A status is the only event of a reply, or its body is. -/
theorem headEvent?_or_bodyEvent?_eq_none :
    call.headEvent? status = none ∨ call.bodyEvent? status body = none := by
  cases call with
  | login name password =>
    by_cases hcode : status.code = 401
    · exact .inr (by cases body <;> simp [bodyEvent?, hcode])
    · exact .inl (by simp [headEvent?, hcode])
  | _ => exact .inr (by cases body <;> rfl)

/-- A reply settles all but its event. -/
theorem settles_receive : Settles (call.replyEvent? reply) (call.receive request reply) := by
  cases reply with
  | head status body =>
    rw [replyEvent?]
    by_cases hcall : call.isLogout ∧ 200 ≤ status.code ∧ status.code ≤ 299
    · -- A granted logout is over before its body is read.
      have hsuccess : status.isSuccess := status.isSuccess_iff.mpr hcall.2
      cases call with
      | logout =>
        have hbody : logout.bodyEvent? status body = none := by cases body <;> rfl
        rw [hbody, headEvent?_eq, if_pos hsuccess]
        exact ⟨.ok (), [], [.loggedOut], fun s => by
          simp [receive, receiveHead, hsuccess, endsAtHead, successEvents, Session.follow?,
            Session.follow]⟩
      | _ => cases hcall.1
    · obtain ⟨stage, before, after, hhead⟩ := call.settles_receiveHead request status
      obtain ⟨result, before', after', hbody⟩ := call.settles_receiveBody request status body
      obtain rfl : stage = .headed request status := by
        have hstage := stage_receiveHead hcall request ⟨none, .memory none⟩
        rw [hhead] at hstage
        exact hstage
      -- What the part without an event settles goes to what is logged before the event, or to what
      -- is after it.
      rcases call.headEvent?_or_bodyEvent?_eq_none status body with hnone | hnone
      · refine ⟨result, before ++ after ++ before', after', fun s => ?_⟩
        simp [receive, hhead, hbody, hnone, Session.follow?]
      · refine ⟨result, before, after ++ before' ++ after', fun s => ?_⟩
        simp [receive, hhead, hbody, hnone, Session.follow?]
  | _ => exact .const _ _

end

/-! ### Whole calls -/

/-- The event that a whole call is. The reply counts only if a request went out. -/
def Outcome.event? (o : Outcome α) (call : Call α) (reply : Reply) : Option CredentialEvent :=
  if o.request.isSome then call.replyEvent? reply else none

/-- The session after a call is a matter of its event, and what the vault says to that is logged. -/
theorem session_perform (call : Call α) (server : String) (reply : Reply) (s : Session) :
    let o := call.perform server reply s
    o.session = (s.follow? (o.event? call reply)).1 ∧
      (s.follow? (o.event? call reply)).2 ⊆ o.events := by
  intro o
  rcases call.perform_cases server reply s with
    ⟨request, -, hrequest, -, hsession, hevents⟩ | ⟨hrequest, hsession, -⟩
  · obtain ⟨result, before, after, hreceive⟩ := call.settles_receive request reply
    -- A request that cannot reach the server is not counted as sent, but then there is no reply to
    -- be an event.
    have hevent : o.event? call reply = call.replyEvent? reply := by
      rw [Outcome.event?, hrequest]
      cases reply <;> simp [replyEvent?]
    rw [hreceive] at hsession hevents
    rw [hevent]
    refine ⟨hsession, fun event hmem => hevents ?_⟩
    simp [hmem]
  · have hevent : o.event? call reply = none := by
      rw [Outcome.event?, hrequest]
      rfl
    rw [hevent]
    exact ⟨hsession, List.nil_subset _⟩

end Call

end NewsReader
