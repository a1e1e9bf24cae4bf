import NewsReader.Proofs.Api.Classification
import NewsReader.Proofs.Vault.Content

/-!
# Calls that are given up

When one of two calls at the same time fails, the other one is given up. If the server has rejected
the credential of the other call, it depends on the order whether this is heard: the status has to
come in before the first call has failed. `Call.Stage.At` says how far a call has come after so many
steps of its own, and `Call.ahead` counts the steps that one of the calls takes before the other
takes any.

* `Call.Pair.dropped_of_heard` — a rejection that is heard drops the token for good.
* `Call.Pair.session_of_not_heard` — nothing else changes the session.
* `Call.session_both` — two calls at the same time.
-/

namespace NewsReader

open Http (Body Reply Request Status)

/-! ### Dropped tokens -/

namespace Session

variable {s s' : Session}

/-- The token of the session `s` was dropped: none is held, and none is kept if the vault works. -/
structure Dropped (s s' : Session) : Prop where
  /-- No token is held. -/
  held : s'.held = none
  /-- No token is kept. -/
  kept : s.vault.clear.1 = .ok () → s'.vault.kept = .ok none

/-- The vault after the token was dropped. -/
theorem vault_drop (s : Session) : s.drop.1.vault = s.vault.clear.2 := by
  unfold drop clear
  rcases s.vault.clear with ⟨_ | _, _⟩ <;> rfl

/-- Dropping the token drops it. -/
theorem dropped_drop (s : Session) : s.Dropped s.drop.1 where
  held := s.held_drop
  kept hworks := by rw [vault_drop, Vault.kept_of_clear_ok hworks]

/-- A token that was dropped stays dropped if it is dropped once more. -/
theorem Dropped.drop (h : s.Dropped s') : s.Dropped s'.drop.1 where
  held := s'.held_drop
  kept hworks := by
    rw [vault_drop, Vault.kept_clear, h.kept hworks]
    split <;> rfl

/-- A session that is the same, or whose token was dropped, drops its token. -/
theorem dropped_drop_of_eq_or (h : s' = s ∨ s.Dropped s') : s.Dropped s'.drop.1 := by
  rcases h with rfl | h
  · exact dropped_drop s'
  · exact h.drop

/-- Nobody is logged in once the token was dropped. -/
theorem Dropped.state_eq (h : s.Dropped s') : s'.state = .anonymous := by
  simp [state, token, h.held]

end Session

/-! ### One call on its own -/

/-- The reply rejects the credential. -/
def Http.Reply.Rejects (reply : Reply) : Prop :=
  ∃ status body, reply = .head status body ∧ status.code = 401

/-- The steps in which a reply is taken: its status and its body, or that there is none. -/
def Http.Reply.steps : Reply → Nat
  | .head .. => 2
  | _ => 1

/-- A reply takes a step at least. -/
theorem Http.Reply.steps_pos (reply : Reply) : 0 < reply.steps := by
  cases reply <;> simp [steps]

namespace Call

variable {α β : Type}

/-- The reply holds an answer to the call. -/
def IsAnsweredBy (call : Call α) (reply : Reply) : Prop :=
  ∃ status bytes answer, reply = .head status (.complete bytes) ∧ 200 ≤ status.code ∧
    status.code ≤ 299 ∧ call.decode (textOf bytes) = .ok answer

/-- The call is neither a login nor a logout. -/
structure IsPlain (call : Call α) : Prop where
  not_isLogin : ¬call.isLogin
  not_isLogout : ¬call.isLogout

/-- The call has failed after so many steps of its own. -/
def FailsWithin (call : Call α) (reply : Reply) (steps : Nat) : Prop :=
  ¬call.IsAnsweredBy reply ∧ reply.steps ≤ steps

/-- How far a call has come after so many steps. -/
inductive Stage.At (call : Call α) (reply : Reply) (request : Request) :
    Nat → Stage α → Prop where
  | sent : At call reply request 0 (.sent request)
  | headed {status : Status} {body : Body} (hreply : reply = .head status body) :
    At call reply request 1 (.headed request status)
  | ended {n : Nat} {result : Except Api.Failure α} (hsteps : reply.steps ≤ n)
    (hresult : (∃ answer, result = .ok answer) ↔ call.IsAnsweredBy reply) :
      At call reply request n (.done result)

section

variable {call : Call α} {reply : Reply} {request : Request} {stage : Stage α} {n : Nat}
  {s s' : Session}

/-- A body brings an answer if the reply holds one. -/
theorem receiveBody_isOk_iff (hcall : call.IsPlain) (request : Request) (status : Status)
    (body : Body) (s : Session) :
    (∃ answer, (call.receiveBody request status body s).1 = .ok answer) ↔
      call.IsAnsweredBy (.head status body) := by
  have hverdict : call.Verdict request.url status body (call.receiveBody request status body s).1 :=
    verdict_receiveBody (fun h => hcall.not_isLogout h.1) s
  generalize (call.receiveBody request status body s).1 = result at hverdict
  constructor
  · rintro ⟨answer, rfl⟩
    cases hverdict with
    | loggedOut h => exact absurd h hcall.not_isLogout
    | answered _ hstatus hdecode =>
      exact ⟨status, _, answer, rfl, hstatus.1, hstatus.2, hdecode⟩
  · rintro ⟨_, _, answer, hreply, hlow, hhigh, hdecode⟩
    cases hreply
    exact ⟨answer, hverdict.unique (.answered hcall.not_isLogout ⟨hlow, hhigh⟩ hdecode)⟩

/-- A call to which no reply comes has failed after one step. -/
theorem Stage.at_of_not_head (hnone : ∀ status body, reply ≠ .head status body)
    (failure : Api.Failure) : (Stage.done (.error failure)).At call reply request 1 := by
  refine .ended ?_ ⟨by rintro ⟨_, ⟨⟩⟩, ?_⟩
  · cases reply with
    | head status body => exact absurd rfl (hnone status body)
    | _ => exact Nat.le_refl 1
  · rintro ⟨status, bytes, _, hreply, -⟩
    exact absurd hreply (hnone status (.complete bytes))

/-- The step lemma for one call. -/
theorem Stage.At.advance (h : stage.At call reply request n) (hcall : call.IsPlain) (s : Session) :
    (call.advance reply stage s).1.At call reply request (n + 1) := by
  cases h with
  | sent =>
    cases reply with
    | head status body =>
      have hstage : (call.receiveHead request status s).1 = .headed request status :=
        stage_receiveHead (fun h => hcall.not_isLogout h.1) request s
      rw [Call.advance, hstage]
      exact .headed rfl
    | _ => exact Stage.at_of_not_head (by rintro _ _ ⟨⟩) _
  | headed hreply =>
    subst hreply
    exact .ended (Nat.le_refl 2) (receiveBody_isOk_iff hcall ..)
  -- A call that is over stays as it is, and the count goes on.
  | ended hsteps hresult => cases reply <;> exact .ended (Nat.le_succ_of_le hsteps) hresult

/-- A call is over with a failure if it fails within the steps that it has taken. -/
theorem Stage.At.isFailed_iff (h : stage.At call reply request n) :
    (∃ failure, stage = .done (.error failure)) ↔ call.FailsWithin reply n := by
  unfold FailsWithin
  cases h with
  | sent =>
    have hsteps := reply.steps_pos
    simp only [reduceCtorEq, exists_false, false_iff]
    omega
  | headed hreply =>
    subst hreply
    simp [Http.Reply.steps]
  | @ended _ result hsteps hresult =>
    rw [← hresult]
    cases result <;> simp [hsteps]

/-- The status that rejects the credential drops the token. -/
theorem session_advance_sent (hreply : reply.Rejects) (request : Request) (s : Session) :
    (call.advance reply (.sent request) s).2.1 = s.drop.1 := by
  obtain ⟨status, body, rfl, hcode⟩ := hreply
  have hrange : ¬status.isSuccess := by
    rw [status.isSuccess_iff]
    omega
  change (call.receiveHead request status s).2.1 = _
  rw [receiveHead, if_neg hrange, if_pos (status.eq_unauthorized_iff.mpr hcode)]

/-- All other steps of a plain call leave the session. -/
theorem session_advance (hcall : call.IsPlain)
    (h : reply.Rejects → ∀ request, stage ≠ .sent request) (s : Session) :
    (call.advance reply stage s).2.1 = s := by
  cases stage with
  | sent request =>
    cases reply with
    | head status body =>
      have hcode : status.code ≠ 401 := fun hcode => h ⟨status, body, rfl, hcode⟩ request rfl
      exact session_receiveHead hcode (fun h => hcall.not_isLogout h.1) s
    | _ => rfl
  | headed request status =>
    cases reply with
    | head _ body =>
      change (call.receiveBody request status body s).2.1 = s
      rw [session_receiveBody]
      cases (call.receiveBody request status body s).1 with
      | error failure => rfl
      | ok answer =>
        -- Only a login takes a token out of its answer.
        cases htoken : call.newToken? answer with
        | none => simp [Except.toOption, htoken]
        | some token => exact absurd (isLogin_of_newToken? htoken) hcall.not_isLogin
    | _ => rfl
  | done result => cases reply <;> rfl

end

/-- A step of a plain call leaves the session or drops its token. -/
theorem session_advance_eq_or_drop {call : Call α} (hcall : call.IsPlain) (reply : Reply)
    (stage : Stage α) (s : Session) :
    (call.advance reply stage s).2.1 = s ∨ (call.advance reply stage s).2.1 = s.drop.1 := by
  by_cases h : reply.Rejects → ∀ request, stage ≠ .sent request
  · exact .inl (session_advance hcall h s)
  · obtain ⟨hreply, h⟩ := Classical.not_imp.mp h
    obtain ⟨request, h⟩ := Classical.not_forall.mp h
    obtain rfl := Classical.not_not.mp h
    exact .inr (session_advance_sent hreply request s)

/-! ### Two calls at the same time -/

/-- How many steps of the one call come before the first step of the other. -/
def ahead (isSecond : Bool) (order : List Bool) : Nat :=
  (order.takeWhile (· == isSecond)).length

/-- A rejection is heard: it is the reply to a call, and the other call does not fail before. -/
def IsHeard (first : Call α) (second : Call β) (replies : Reply × Reply) (order : List Bool) :
    Prop :=
  (replies.1.Rejects ∧ ¬second.FailsWithin replies.2 (ahead true order)) ∨
    (replies.2.Rejects ∧ ¬first.FailsWithin replies.1 (ahead false order))

namespace Pair

variable {first : Call α} {second : Call β} {replies : Reply × Reply} {p : Pair α β}
  {order : List Bool}

/-- Nothing happens once there is a result. -/
theorem foldl_step_of_isSome (h : p.result?.isSome) :
    order.foldl (step first second replies) p = p := by
  induction order with
  | nil => rfl
  | cons isSecond order ih => rw [List.foldl_cons, step, if_pos h, ih]

/-- While the second call waits for its status, there is a result if the first call has failed. -/
theorem isSome_result?_iff {request : Request} (h : p.second = .sent request) :
    p.result?.isSome ↔ ∃ failure, p.first = .done (.error failure) := by
  unfold result?
  rw [h]
  rcases p.first with _ | _ | (_ | _) <;> simp

/-- A step of the first call while there is no result. -/
theorem step_first (h : ¬p.result?.isSome) :
    p.step first second replies false =
      { p with first := (first.advance replies.1 p.first p.session).1
               session := (first.advance replies.1 p.first p.session).2.1
               events := p.events ++ (first.advance replies.1 p.first p.session).2.2 } := by
  rw [step, if_neg h]
  rfl

/-! #### The other way round

What is shown for a rejection of the second call holds for one of the first call when the calls
change places. -/

/-- Two calls, the second one first. -/
def swap (p : Pair α β) : Pair β α where
  first := p.second
  second := p.first
  session := p.session
  events := p.events

/-- Whether there is a result does not depend on which call is the first. -/
theorem isSome_result?_swap (p : Pair α β) : p.swap.result?.isSome = p.result?.isSome := by
  unfold result? swap
  rcases p.first with _ | _ | (_ | _) <;> rcases p.second with _ | _ | (_ | _) <;> rfl

/-- A step of one call is a step of the other call if they change places. -/
theorem swap_step (isSecond : Bool) :
    (p.step first second replies isSecond).swap =
      p.swap.step second first replies.swap (!isSecond) := by
  unfold step
  rw [isSome_result?_swap]
  by_cases h : p.result?.isSome
  · rw [if_pos h, if_pos h]
  · rw [if_neg h, if_neg h]
    cases isSecond <;> rfl

/-- So are steps of both. -/
theorem swap_foldl (order : List Bool) :
    (order.foldl (step first second replies) p).swap =
      (order.map (!·)).foldl (step second first replies.swap) p.swap := by
  induction order generalizing p with
  | nil => rfl
  | cons isSecond order ih => rw [List.foldl_cons, ih, swap_step, List.map_cons, List.foldl_cons]

end Pair

/-- One more step that comes before the first step of the other call. -/
theorem ahead_cons_self (isSecond : Bool) (order : List Bool) :
    ahead isSecond (isSecond :: order) = ahead isSecond order + 1 := by
  simp [ahead]

/-- The call that comes ahead is the other one if the calls change places. -/
theorem ahead_map_not (isSecond : Bool) (order : List Bool) :
    ahead isSecond (order.map (!·)) = ahead (!isSecond) order := by
  unfold ahead
  rw [List.takeWhile_map, List.length_map]
  congr 2
  funext b
  cases b <;> cases isSecond <;> rfl

namespace Pair

variable {first : Call α} {second : Call β} {replies : Reply × Reply} {p : Pair α β}
  {order : List Bool} {request request' : Request} {s : Session} {n : Nat}

/-! #### What the session goes through -/

section

variable (hfirst : first.IsPlain) (hsecond : second.IsPlain)

include hfirst hsecond

/-- The session after a step: it stays, or its token is dropped. -/
theorem session_step_eq_or_drop (isSecond : Bool) :
    (p.step first second replies isSecond).session = p.session ∨
      (p.step first second replies isSecond).session = p.session.drop.1 := by
  unfold step
  split
  · exact .inl rfl
  · split
    · exact session_advance_eq_or_drop hsecond ..
    · exact session_advance_eq_or_drop hfirst ..

/-- A token that was dropped stays dropped. -/
theorem dropped_foldl (h : s.Dropped p.session) :
    s.Dropped (order.foldl (step first second replies) p).session := by
  induction order generalizing p with
  | nil => exact h
  | cons isSecond order ih =>
    refine ih ?_
    rcases session_step_eq_or_drop hfirst hsecond isSecond with hstep | hstep
    · rwa [hstep]
    · rw [hstep]
      exact h.drop

/-- If nothing is rejected, the session stays. -/
theorem session_foldl_of_not_rejects (hreply : ¬replies.1.Rejects)
    (hreply' : ¬replies.2.Rejects) :
    (order.foldl (step first second replies) p).session = p.session := by
  induction order generalizing p with
  | nil => rfl
  | cons isSecond order ih =>
    rw [List.foldl_cons, ih]
    unfold step
    split
    · rfl
    · split
      · exact session_advance hsecond (fun h => absurd h hreply') _
      · exact session_advance hfirst (fun h => absurd h hreply) _

/-- A rejection of the second call drops the token, unless the first call fails before. -/
theorem dropped_of_heard (hstage : p.first.At first replies.1 request n)
    (hwaits : p.second = .sent request') (hsession : p.session = s ∨ s.Dropped p.session)
    (hreply : replies.2.Rejects) (horder : true ∈ order)
    (hheard : ¬first.FailsWithin replies.1 (n + ahead false order)) :
    s.Dropped (order.foldl (step first second replies) p).session := by
  -- The steps of the first call are taken one by one, up to the first step of the second call. By
  -- then the first call has taken `n` steps, and those that are still ahead.
  induction order generalizing p n with
  | nil => cases horder
  | cons isSecond order ih =>
    have hopen : ¬p.result?.isSome := by
      rw [isSome_result?_iff hwaits, hstage.isFailed_iff]
      exact fun hfailed => hheard ⟨hfailed.1, Nat.le_add_right_of_le hfailed.2⟩
    rw [List.foldl_cons]
    cases isSecond with
    | true =>
      have hstep : (p.step first second replies true).session = p.session.drop.1 := by
        rw [step, if_neg hopen, hwaits]
        exact session_advance_sent hreply request' p.session
      refine dropped_foldl hfirst hsecond ?_
      rw [hstep]
      exact Session.dropped_drop_of_eq_or hsession
    | false =>
      rw [ahead_cons_self, Nat.add_comm (ahead false order), ← Nat.add_assoc] at hheard
      rw [step_first hopen]
      refine ih (hstage.advance hfirst p.session) hwaits ?_ (by simpa using horder) hheard
      rcases session_advance_eq_or_drop hfirst replies.1 p.first p.session with hsame | hdrop
      · simpa only [hsame] using hsession
      · simp only [hdrop]
        exact .inr (Session.dropped_drop_of_eq_or hsession)

/-- If the first call is not rejected, and fails before the second one is if that is rejected, the
session stays. -/
theorem session_of_not_heard (hstage : p.first.At first replies.1 request n)
    (hwaits : p.second = .sent request') (hreply : ¬replies.1.Rejects)
    (hheard : replies.2.Rejects → first.FailsWithin replies.1 (n + ahead false order)) :
    (order.foldl (step first second replies) p).session = p.session := by
  induction order generalizing p n with
  | nil => rfl
  | cons isSecond order ih =>
    by_cases hopen : p.result?.isSome
    · rw [foldl_step_of_isSome hopen]
    · cases isSecond with
      | true =>
        -- The first call has not failed by now, so the second one is not rejected either.
        refine session_foldl_of_not_rejects hfirst hsecond hreply fun hreply' => hopen ?_
        rw [isSome_result?_iff hwaits, hstage.isFailed_iff]
        exact hheard hreply'
      | false =>
        rw [ahead_cons_self, Nat.add_comm (ahead false order), ← Nat.add_assoc] at hheard
        rw [List.foldl_cons, step_first hopen]
        refine (ih (p := ⟨_, _, _, _⟩) (hstage.advance hfirst p.session) hwaits hheard).trans ?_
        exact session_advance hfirst (fun h => absurd h hreply) p.session

end

end Pair

/-- One of two calls comes first. -/
theorem ahead_eq_zero (order : List Bool) : ahead true order = 0 ∨ ahead false order = 0 := by
  rcases order with _ | ⟨_ | _, order⟩ <;> simp [ahead]

section

variable {first : Call α} {second : Call β} {replies : Reply × Reply} {server : String}
  {request request' : Request} {s : Session}

/-- If both requests go out, both calls were sent and the server could be reached. -/
theorem sent_of_both {arrivals : List Bool}
    (h : ((both server first second replies arrivals s).request.toList ++
      (both server first second replies arrivals s).secondRequest.toList).length = 2) :
    (∃ request request', (first.dispatch server s.token).1 = .sent request ∧
      (second.dispatch server s.token).1 = .sent request') ∧ replies.1 ≠ .unreachable := by
  unfold both at h
  rcases hdispatch : first.dispatch server s.token with ⟨_ | _ | (_ | _), events⟩
  case sent request =>
    by_cases hreply : replies.1 = .unreachable
    · simp [hdispatch, hreply] at h
    · rcases hdispatch' : second.dispatch server s.token with ⟨stage', more⟩
      cases stage' with
      | sent request' => exact ⟨⟨request, request', rfl, rfl⟩, hreply⟩
      | _ => simp [hdispatch, hreply, hdispatch', Stage.request?] at h
  all_goals simp [hdispatch] at h

/-- Two calls that were both sent start from there and take their steps in turn. -/
theorem exists_session_both_eq (hsent : (first.dispatch server s.token).1 = .sent request)
    (hsent' : (second.dispatch server s.token).1 = .sent request')
    (hreply : replies.1 ≠ .unreachable) (arrivals : List Bool) :
    ∃ events, (both server first second replies arrivals s).session =
      ((arrivals ++ [false, false, true, true]).foldl (Pair.step first second replies)
        ⟨.sent request, .sent request', s, events⟩).session := by
  unfold both
  rcases hdispatch : first.dispatch server s.token with ⟨stage, events⟩
  rcases hdispatch' : second.dispatch server s.token with ⟨stage', more⟩
  rw [hdispatch] at hsent
  rw [hdispatch'] at hsent'
  subst hsent hsent'
  simp only [if_neg hreply]
  exact ⟨events ++ more, rfl⟩

/-- Two plain calls at the same time that were both sent: the token is dropped if a rejection is
heard, and otherwise the session stays. -/
theorem session_both (hfirst : first.IsPlain) (hsecond : second.IsPlain)
    (hsent : (first.dispatch server s.token).1 = .sent request)
    (hsent' : (second.dispatch server s.token).1 = .sent request')
    (hreply : replies.1 ≠ .unreachable) (arrivals : List Bool) :
    let order := arrivals ++ [false, false, true, true]
    let after := (both server first second replies arrivals s).session
    (IsHeard first second replies order → s.Dropped after) ∧
      (¬IsHeard first second replies order → after = s) := by
  intro order after
  obtain ⟨events, hafter⟩ := exists_session_both_eq hsent hsent' hreply arrivals
  let start : Pair α β := ⟨.sent request, .sent request', s, events⟩
  replace hafter : after = (order.foldl (Pair.step first second replies) start).session := hafter
  have hswap : after =
      ((order.map (!·)).foldl (Pair.step second first replies.swap) start.swap).session := by
    rw [hafter, ← Pair.swap_foldl]
    rfl
  constructor
  · rintro (⟨hrejects, hheard⟩ | ⟨hrejects, hheard⟩)
    · rw [hswap]
      refine Pair.dropped_of_heard hsecond hfirst .sent rfl (.inl rfl) hrejects (by simp [order]) ?_
      rwa [ahead_map_not, Nat.zero_add]
    · rw [hafter]
      refine Pair.dropped_of_heard hfirst hsecond .sent rfl (.inl rfl) hrejects (by simp [order]) ?_
      rwa [Nat.zero_add]
  · intro hheard
    obtain ⟨hfails, hfails'⟩ := not_or.mp hheard
    rw [not_and, Classical.not_not] at hfails hfails'
    by_cases hrejects : replies.1.Rejects
    · -- The second call comes first and fails. So the first call does not come first and cannot
      -- fail ahead of it.
      have hrejects' : ¬replies.2.Rejects := by
        intro h
        have hsteps := (hfails hrejects).2
        have hsteps' := (hfails' h).2
        have hpos := replies.1.steps_pos
        have hpos' := replies.2.steps_pos
        have := ahead_eq_zero order
        omega
      rw [hswap]
      refine Pair.session_of_not_heard hsecond hfirst .sent rfl hrejects' fun _ => ?_
      rw [ahead_map_not, Nat.zero_add]
      exact hfails hrejects
    · rw [hafter]
      refine Pair.session_of_not_heard hfirst hsecond .sent rfl hrejects fun h => ?_
      rw [Nat.zero_add]
      exact hfails' h

end

end Call

end NewsReader
