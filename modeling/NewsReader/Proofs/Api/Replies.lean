import NewsReader.Proofs.Api.Classification
import NewsReader.Proofs.Session.Filed

/-!
# Whole calls

A call carries the token that is held when it starts. What it does to the session is a matter of its
reply: the token is changed by the events of the reply (`Call.replyEvent?`) alone, and the session
file follows the held token if the vault does not fail.

For two calls at the same time, the statuses that come in are those that one of them waits for while
there is no result yet (`Call.bothStatuses`). If neither call is a login or a logout, the token is
dropped exactly if one of these statuses rejects it.
-/

namespace NewsReader

open Http (Body Reply Request Status)

/-- The token that is held after an event. The empty text stands for none. -/
def CredentialEvent.token (event : CredentialEvent) : String :=
  event.held.getD ""

namespace Http.Reply

/-- The status of a reply, if one comes back. -/
def status? : Reply → Option Status
  | head status _ => some status
  | _ => Option.none

/-- The token that a reply to a login brings. -/
def newToken? : Reply → Option String
  | head _ (.complete bytes) =>
    (Json.Wire.decode (Call.textOf bytes) : Except _ LoginReply).toOption.map (·.token)
  | _ => Option.none

end Http.Reply

namespace Call

variable {α β : Type}

/-! ### Requests -/

/-- A call either sends a request with the token as its credential, or it fails at once. -/
theorem dispatch_cases (call : Call α) (server token : String) :
    (∃ request, (call.dispatch server token).1 = .sent request ∧
      request.authorization = credential token) ∨
      ∃ failure, (call.dispatch server token).1 = .done (.error failure) := by
  unfold dispatch
  cases hrequest : call.request server token with
  | error failure => exact .inr ⟨failure, rfl⟩
  | ok request =>
    by_cases hsendable : request.isSendable
    · obtain ⟨-, url, -, rfl⟩ := request_eq_ok_iff.mp hrequest
      exact .inl ⟨call.requestTo url token, by simp [hsendable], authorization_requestTo ..⟩
    · simp [hsendable]

/-! ### The session file -/

section

variable (call : Call α) (request : Request) (status : Status) (body : Body) (reply : Reply)
  (s : Session)

/-- A status keeps the session file. -/
theorem keeps_receiveHead :
    s.Keeps (call.receiveHead request status s).2.1 (call.receiveHead request status s).2.2 := by
  unfold receiveHead
  split
  · cases call.endsAtHead with
    | none => exact .refl s []
    | some answer => exact s.keeps_drop.mono (List.subset_append_left ..)
  · split
    · exact s.keeps_drop.mono (List.subset_cons_self ..)
    · exact .refl s []

/-- A body keeps the session file. -/
theorem keeps_receiveBody :
    s.Keeps (call.receiveBody request status body s).2.1
      (call.receiveBody request status body s).2.2 := by
  unfold receiveBody
  cases body.text? with
  | none => exact .refl s []
  | some text =>
    dsimp only
    split
    · cases call.decode text with
      | error fault => exact .refl s _
      | ok answer =>
        -- Only an answer with a token reaches the vault.
        cases htoken : call.newToken? answer with
        | none =>
          simp only [htoken]
          exact .refl s _
        | some token =>
          simp only [htoken]
          exact (s.keeps_take token).mono (List.subset_append_left ..)
    · exact .refl s _

/-- A reply keeps the session file. -/
theorem keeps_receive :
    s.Keeps (call.receive request reply s).2.1 (call.receive request reply s).2.2 := by
  cases reply with
  | head status body =>
    have hhead := call.keeps_receiveHead request status s
    rcases hresult : call.receiveHead request status s with ⟨stage, s', events⟩
    rw [hresult] at hhead
    cases stage with
    | done result => simpa [receive, hresult] using hhead
    | sent _ | headed _ _ =>
      simp only [receive, hresult]
      exact hhead.trans (call.keeps_receiveBody request status body s')
  | _ => exact .refl s []

/-- The next step of a call keeps the session file. -/
theorem keeps_advance (stage : Stage α) :
    s.Keeps (call.advance reply stage s).2.1 (call.advance reply stage s).2.2 := by
  unfold advance
  split
  · exact call.keeps_receiveHead _ _ s
  · exact call.keeps_receiveBody _ _ _ s
  · exact .refl s []
  · exact .refl s []

/-! ### The token after a reply -/

/-- The event that decides which token is held after a whole reply. -/
def replyEvent? (call : Call α) : Reply → Option CredentialEvent
  | .head status body => (call.bodyEvent? status body).or (call.headEvent? status)
  | _ => none

/-- The held token after a reply. -/
theorem held_receive :
    (call.receive request reply s).2.1.held =
      (call.replyEvent? reply).elim s.held CredentialEvent.held := by
  cases reply with
  | head status body =>
    rw [replyEvent?]
    by_cases hcall : call.isLogout ∧ 200 ≤ status.code ∧ status.code ≤ 299
    · -- A granted logout is over before its body is read, but then the body is no event either.
      have hevent : (call.bodyEvent? status body).or (call.headEvent? status) =
          some .loggedOut := by
        have hcode : status.code ≠ 401 := by omega
        cases call with
        | logout => cases body <;> simp [bodyEvent?, headEvent?, hcall.2, hcode]
        | _ => cases hcall.1
      rw [(receive_of_isLogout hcall.1 hcall.2 request body s).2, hevent]
      rfl
    · rw [(receive_of_headed (stage_receiveHead hcall request s) body).2, held_receiveBody,
        held_receiveHead]
      cases call.bodyEvent? status body <;> rfl
  | _ => rfl

end

/-! ### Calls that run to their end -/

section

variable (call : Call α) (server : String) (reply : Reply) (s : Session)

/-- A call either takes the reply to its request, which carried the token, or it fails and changes
nothing. -/
theorem perform_cases :
    let o := call.perform server reply s
    (∃ request, request.authorization = credential s.token ∧
        o.request = (if reply = .unreachable then none else some request) ∧
        o.result = (call.receive request reply s).1 ∧
        o.session = (call.receive request reply s).2.1 ∧
        (call.receive request reply s).2.2 ⊆ o.events) ∨
      o.request = none ∧ o.session = s ∧ ∃ failure, o.result = .error failure := by
  intro o
  rcases hdispatch : call.dispatch server s.token with ⟨stage, events⟩
  rcases call.dispatch_cases server s.token with
    ⟨request, hsent, hcredential⟩ | ⟨failure, hfailed⟩
  · obtain rfl : stage = .sent request := by rw [← hsent, hdispatch]
    refine .inl ⟨request, hcredential, ?_⟩
    simp only [o, perform, hdispatch, true_and]
    exact List.subset_append_right ..
  · obtain rfl : stage = .done (.error failure) := by rw [← hfailed, hdispatch]
    simp [o, perform, hdispatch, lose]

/-- The request of a call carries the token. -/
theorem authorization_perform :
    ∀ request ∈ (call.perform server reply s).request,
      request.authorization = credential s.token := by
  rcases call.perform_cases server reply s with
    ⟨sent, hcredential, hrequest, -⟩ | ⟨hrequest, -⟩
  · rw [hrequest]
    intro request hmem
    split at hmem
    · cases hmem
    · obtain rfl := Option.some.inj hmem
      exact hcredential
  · rw [hrequest]
    exact fun _ hmem => by cases hmem

/-- A call keeps the session file. -/
theorem keeps_perform :
    s.Keeps (call.perform server reply s).session (call.perform server reply s).events := by
  rcases call.perform_cases server reply s with
    ⟨request, -, -, -, hsession, hevents⟩ | ⟨-, hsession, -⟩
  · rw [hsession]
    exact (call.keeps_receive request reply s).mono hevents
  · rw [hsession]
    exact .refl s _

/-- The held token after a call: the reply decides, if a request went out. -/
theorem held_perform :
    (call.perform server reply s).session.held =
      (if (call.perform server reply s).request.isSome then call.replyEvent? reply else none).elim
        s.held CredentialEvent.held := by
  rcases call.perform_cases server reply s with
    ⟨request, -, hrequest, -, hsession, -⟩ | ⟨hrequest, hsession, -⟩
  · rw [hrequest, hsession, held_receive]
    cases reply <;> simp [replyEvent?]
  · rw [hrequest, hsession]
    rfl

end

/-! ### Which replies change the token -/

/-- The statuses that come in during a call, if `reply` is what comes back. -/
def Outcome.statuses (o : Outcome α) (reply : Reply) : List Status :=
  if o.request.isSome then reply.status?.toList else []

section

variable (server : String) (reply : Reply) (s : Session)

/-- A call that is neither a login nor a logout changes the token only if it is rejected. -/
theorem held_perform_of_plain {call : Call α} (hlogin : ¬call.isLogin)
    (hlogout : ¬call.isLogout) :
    let o := call.perform server reply s
    o.session.held =
      (if ∃ status ∈ o.statuses reply, status.code = 401 then some .rejected else none).elim
        s.held CredentialEvent.held := by
  intro o
  -- Nothing in the body is an event, and no status but a rejection is one.
  have hevent : call.replyEvent? reply =
      if ∃ status ∈ reply.status?.toList, status.code = 401 then some .rejected else none := by
    cases reply with
    | head status body =>
      have hevents : call.bodyEvent? status body = none ∧
          call.headEvent? status = if status.code = 401 then some .rejected else none := by
        cases call with
        | login name password => exact absurd rfl hlogin
        | logout => exact absurd rfl hlogout
        | _ => exact ⟨rfl, rfl⟩
      simp [replyEvent?, Reply.status?, hevents]
    | _ => rfl
  rw [held_perform, hevent, Outcome.statuses]
  by_cases hsent : o.request.isSome <;> simp [o, hsent]

/-- A logout changes the token if it is rejected or granted. -/
theorem held_perform_logout :
    let o := logout.perform server reply s
    o.session.held =
      (if ∃ status ∈ o.statuses reply, status.code = 401 then some .rejected
        else if ∃ status ∈ o.statuses reply, 200 ≤ status.code ∧ status.code ≤ 299 then
          some .loggedOut
        else none).elim s.held CredentialEvent.held := by
  intro o
  -- The body of a logout does not matter, so the status alone is the event.
  have hevent : logout.replyEvent? reply =
      if ∃ status ∈ reply.status?.toList, status.code = 401 then some .rejected
      else if ∃ status ∈ reply.status?.toList, 200 ≤ status.code ∧ status.code ≤ 299 then
        some .loggedOut
      else none := by
    cases reply with
    | head status body =>
      have hbody : logout.bodyEvent? status body = none := by cases body <;> rfl
      simp [replyEvent?, Reply.status?, hbody, headEvent?]
    | _ => rfl
  rw [held_perform, hevent, Outcome.statuses]
  by_cases hsent : o.request.isSome <;> simp [o, hsent]

/-- The reply to a login decides about the token by its status, or by its token if the login
succeeds. -/
theorem replyEvent?_login (name password : String) (request : Request) :
    (login name password).replyEvent? reply =
      if ∃ status ∈ reply.status?.toList, status.code = 401 then some .rejected
      else if ((login name password).receive request reply s).1.isOk then
        reply.newToken?.map .loggedIn
      else none := by
  cases reply with
  | head status body =>
    have hverdict := (login name password).verdict_receive request status body s
    have hrejection : 200 ≤ status.code ∧ status.code ≤ 299 →
        status.code ≠ 401 := by omega
    have hhead : (login name password).headEvent? status =
        if status.code = 401 then some .rejected else none := rfl
    -- Each rule for the result says what the body is, and so which event it is.
    generalize ((login name password).receive request (.head status body) s).1 =
      result at hverdict ⊢
    cases hverdict with
    | loggedOut hcall => cases hcall
    | answered hcall hstatus hdecode =>
      simp_all [replyEvent?, bodyEvent?, Reply.status?, Reply.newToken?, Call.decode,
        textOf, Except.isOk, Except.toBool, Except.toOption]
    | unexpected hcall hstatus hdecode =>
      simp_all [replyEvent?, bodyEvent?, Reply.status?, Call.decode, textOf, Except.isOk,
        Except.toBool]
    | loginRefused hcall hstatus =>
      simp [replyEvent?, bodyEvent?, Reply.status?, hstatus, hhead, Except.isOk, Except.toBool]
    | rejected hcall => exact absurd rfl hcall
    | refused hcall => exact absurd rfl hcall
    | cutShort => simp [replyEvent?, bodyEvent?, Reply.status?, hhead, Except.isOk, Except.toBool]
  | _ => rfl

/-- A login changes the token if it is rejected, or if it succeeds. -/
theorem held_perform_login (name password : String) :
    let o := (login name password).perform server reply s
    o.session.held =
      (if ∃ status ∈ o.statuses reply, status.code = 401 then some .rejected
        else if o.result.isOk then reply.newToken?.map .loggedIn
        else none).elim s.held CredentialEvent.held := by
  intro o
  rw [held_perform]
  rcases (login name password).perform_cases server reply s with
    ⟨request, -, hrequest, hresult, -⟩ | ⟨hrequest, -, failure, hfailed⟩
  · simp only [o, Outcome.statuses, hrequest, hresult,
      replyEvent?_login reply s name password request]
    -- A reply to a request that cannot be sent has no status, and the login fails.
    by_cases hreply : reply = .unreachable
    · subst hreply
      rfl
    · simp [hreply]
  · simp only [o, Outcome.statuses, hrequest, hfailed]
    rfl

end

/-! ### Two calls at the same time -/

/-- The status that the next step of a call takes in. -/
def Stage.incoming? (stage : Stage α) (reply : Reply) : Option Status :=
  match stage, reply with
  | .sent _, .head status _ => some status
  | _, _ => none

/-- The status that the next step of two calls takes in. -/
def Pair.incoming? (replies : Reply × Reply) (p : Pair α β) (isSecond : Bool) : Option Status :=
  if p.result?.isSome then none
  else if isSecond then p.second.incoming? replies.2
  else p.first.incoming? replies.1

/-- The statuses that come in during steps of two calls. -/
def Pair.statuses (first : Call α) (second : Call β) (replies : Reply × Reply) (p : Pair α β) :
    List Bool → List Status
  | [] => []
  | isSecond :: steps =>
    (p.incoming? replies isSecond).toList ++
      (p.step first second replies isSecond).statuses first second replies steps

/-- The statuses that come in while two calls run at the same time. -/
def bothStatuses (server : String) (first : Call α) (second : Call β) (replies : Reply × Reply)
    (arrivals : List Bool) (s : Session) : List Status :=
  match first.dispatch server s.token with
  | (.sent request, events) =>
    if replies.1 = .unreachable then []
    else
      let (stage, more) := second.dispatch server s.token
      let start : Pair α β :=
        { first := .sent request, second := stage, session := s, events := events ++ more }
      start.statuses first second replies (arrivals ++ [false, false, true, true])
  | _ => []

/-- The token after statuses came in: it is dropped if one of them rejects it. -/
def heldAfter (statuses : List Status) (held : Option String) : Option String :=
  if ∃ status ∈ statuses, status.code = 401 then none else held

/-- The statuses come in one after the other. -/
theorem heldAfter_append (statuses more : List Status) (held : Option String) :
    heldAfter (statuses ++ more) held = heldAfter more (heldAfter statuses held) := by
  unfold heldAfter
  by_cases hmore : ∃ status ∈ more, status.code = 401
  · rw [if_pos hmore, if_pos]
    obtain ⟨status, hmem, hcode⟩ := hmore
    exact ⟨status, List.mem_append_right _ hmem, hcode⟩
  · have hiff : (∃ status ∈ statuses ++ more, status.code = 401) ↔
        ∃ status ∈ statuses, status.code = 401 := by
      simp only [List.mem_append, or_and_right, exists_or]
      exact or_iff_left hmore
    rw [if_neg hmore]
    simp only [hiff]

/-- Dropping the token is the one thing that statuses decide. -/
theorem heldAfter_eq (statuses : List Status) (held : Option String) :
    heldAfter statuses held =
      (if ∃ status ∈ statuses, status.code = 401 then some .rejected else none).elim held
        CredentialEvent.held := by
  unfold heldAfter
  split <;> rfl

/-- What the next step of a call does to the token, if the call is no login and no logout. -/
theorem held_advance {call : Call α} (hlogin : ¬call.isLogin) (hlogout : ¬call.isLogout)
    (reply : Reply) (stage : Stage α) (s : Session) :
    (call.advance reply stage s).2.1.held = heldAfter (stage.incoming? reply).toList s.held := by
  have hhead (status : Status) :
      call.headEvent? status = if status.code = 401 then some .rejected else none := by
    cases call with
    | logout => exact absurd rfl hlogout
    | _ => rfl
  have hbody (status : Status) (body : Body) : call.bodyEvent? status body = none := by
    cases call with
    | login name password => exact absurd rfl hlogin
    | _ => rfl
  -- A call takes in the status or the body of a reply; without a reply it fails and leaves the
  -- session.
  cases stage with
  | sent request =>
    cases reply with
    | head status body =>
      change (call.receiveHead request status s).2.1.held = _
      rw [held_receiveHead, hhead]
      by_cases hcode : status.code = 401 <;>
        simp [Stage.incoming?, heldAfter, hcode, CredentialEvent.held]
    | _ => rfl
  | headed request status =>
    cases reply with
    | head _ body =>
      change (call.receiveBody request status body s).2.1.held = _
      rw [held_receiveBody, hbody]
      rfl
    | _ => rfl
  | done result => cases reply <;> rfl

section

variable {first : Call α} {second : Call β}

/-- Two calls come from one stage to another while statuses come in: the token is dropped if one of
them rejects it, and the session file follows. -/
structure Pair.Reaches (p q : Pair α β) (statuses : List Status) : Prop where
  /-- The session file is kept, as far as the log of the meantime goes. -/
  keeps : ∃ more, q.events = p.events ++ more ∧ p.session.Keeps q.session more
  /-- The held token. -/
  held : q.session.held = heldAfter statuses p.session.held

/-- One stage after the other. -/
theorem Pair.Reaches.trans {p q r : Pair α β} {statuses more : List Status}
    (h : p.Reaches q statuses) (h' : q.Reaches r more) : p.Reaches r (statuses ++ more) := by
  obtain ⟨events, hevents, hkeeps⟩ := h.keeps
  obtain ⟨events', hevents', hkeeps'⟩ := h'.keeps
  refine ⟨⟨events ++ events', ?_, hkeeps.trans hkeeps'⟩, ?_⟩
  · rw [hevents', hevents, List.append_assoc]
  · rw [h'.held, h.held, heldAfter_append]

variable (hfirst : ¬first.isLogin ∧ ¬first.isLogout)
  (hsecond : ¬second.isLogin ∧ ¬second.isLogout) (replies : Reply × Reply)

include hfirst hsecond

/-- The step lemma for two calls that are neither logins nor logouts. -/
theorem Pair.reaches_step (p : Pair α β) (isSecond : Bool) :
    p.Reaches (p.step first second replies isSecond) (p.incoming? replies isSecond).toList := by
  by_cases hresult : p.result?.isSome
  · -- Nothing happens any more.
    rw [step, incoming?, if_pos hresult, if_pos hresult]
    exact ⟨⟨[], (List.append_nil _).symm, .refl _ []⟩, rfl⟩
  · rw [step, incoming?, if_neg hresult, if_neg hresult]
    cases isSecond with
    | true =>
      exact ⟨⟨_, rfl, second.keeps_advance replies.2 p.session p.second⟩,
        held_advance hsecond.1 hsecond.2 ..⟩
    | false =>
      exact ⟨⟨_, rfl, first.keeps_advance replies.1 p.session p.first⟩,
        held_advance hfirst.1 hfirst.2 ..⟩

/-- The run lemma for two calls that are neither logins nor logouts. -/
theorem Pair.reaches_foldl (p : Pair α β) (steps : List Bool) :
    p.Reaches (steps.foldl (step first second replies) p)
      (p.statuses first second replies steps) := by
  induction steps generalizing p with
  | nil => exact ⟨⟨[], (List.append_nil _).symm, .refl _ []⟩, rfl⟩
  | cons isSecond steps ih =>
    exact (reaches_step hfirst hsecond replies p isSecond).trans
      (ih (p.step first second replies isSecond))

/-- Two calls at the same time that are neither logins nor logouts. Both requests carry the token
that is held at the start, and the token is dropped exactly if one of the statuses that come in
rejects it. -/
theorem both_spec (server : String) (arrivals : List Bool) (s : Session) :
    let o := both server first second replies arrivals s
    (∀ request ∈ o.request.toList ++ o.secondRequest.toList,
      request.authorization = credential s.token) ∧ s.Keeps o.session o.events ∧
      o.session.held = heldAfter (bothStatuses server first second replies arrivals s) s.held := by
  intro o
  rcases hdispatch : first.dispatch server s.token with ⟨stage, events⟩
  rcases first.dispatch_cases server s.token with
    ⟨request, hsent, hcredential⟩ | ⟨failure, hfailed⟩
  · obtain rfl : stage = .sent request := by rw [← hsent, hdispatch]
    -- The second call is started only if the server can be reached.
    by_cases hreply : replies.1 = .unreachable
    · simp only [o, both, bothStatuses, hdispatch, hreply, if_true]
      exact ⟨List.forall_mem_nil _, .refl s _, rfl⟩
    · rcases hmore : second.dispatch server s.token with ⟨stage', more⟩
      let start : Pair α β :=
        { first := .sent request, second := stage', session := s, events := events ++ more }
      have hreaches :=
        Pair.reaches_foldl hfirst hsecond replies start (arrivals ++ [false, false, true, true])
      obtain ⟨logged, hevents, hkeeps⟩ := hreaches.keeps
      simp only [o, both, bothStatuses, hdispatch, hreply, hmore, if_false]
      refine ⟨?_, ?_, hreaches.held⟩
      · intro r hmem
        rcases List.mem_append.mp hmem with hmem | hmem
        · obtain rfl := List.mem_singleton.mp hmem
          exact hcredential
        · -- The second request goes out only if the second call was started.
          rcases second.dispatch_cases server s.token with
            ⟨request', hsent', hcredential'⟩ | ⟨failure, hfailed⟩
          · obtain rfl : stage' = .sent request' := by rw [← hsent', hmore]
            unfold Stage.request? at hmem
            dsimp only at hmem
            split at hmem
            · cases hmem
            · obtain rfl := List.mem_singleton.mp hmem
              exact hcredential'
          · obtain rfl : stage' = .done (.error failure) := by rw [← hfailed, hmore]
            cases hmem
      · exact hkeeps.mono (hevents ▸ List.subset_append_right ..)
  · obtain rfl : stage = .done (.error failure) := by rw [← hfailed, hdispatch]
    simp only [o, both, bothStatuses, hdispatch]
    exact ⟨List.forall_mem_nil _, .refl s _, rfl⟩

end

end Call

end NewsReader
