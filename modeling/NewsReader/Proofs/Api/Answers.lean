import NewsReader.Proofs.Api.GivenUp
import NewsReader.Proofs.Api.Replies

/-!
# Which replies hold answers

A call that was sent has an answer exactly if the reply holds one (`Http.Reply.Answers`): a complete
body of a success that is decoded. The session has no part in it. So two calls at the same time come
to what they come to one after the other, whatever the order in which their steps are taken: to both
answers, or to the failure of one of them (`Call.Joins`).

* `Call.perform_eq_ok_iff` — the answer to one call.
* `Call.Pair.joins_foldl` — the run lemma for two calls.
* `Call.joins_both` — what two calls at the same time come to.
-/

namespace NewsReader

open Api (Failure)
open Http (Body Reply Request Status)

/-- The reply holds the answer to the call: it is in the complete body of a success. -/
def Http.Reply.Answers {α : Type} (reply : Reply) (call : Call α) (answer : α) : Prop :=
  ∃ status bytes, reply = .head status (.complete bytes) ∧ 200 ≤ status.code ∧
    status.code ≤ 299 ∧ call.decode (Call.textOf bytes) = .ok answer

namespace Call

variable {α β : Type}

/-! ### One call -/

section

variable {call : Call α} {reply : Reply} {request : Request} {answer : α}

/-- The result of a reply is no matter of the session. -/
theorem receive_congr (call : Call α) (request : Request) (reply : Reply) (s s' : Session) :
    (call.receive request reply s).1 = (call.receive request reply s').1 := by
  cases reply with
  | head status body =>
    exact (verdict_receive call request status body s).unique (verdict_receive ..)
  | _ => rfl

/-- A reply gives an answer if it holds one. -/
theorem receive_eq_ok_iff (hcall : ¬call.isLogout) (s : Session) :
    (call.receive request reply s).1 = .ok answer ↔ reply.Answers call answer := by
  cases reply with
  | head status body =>
    have hverdict := call.verdict_receive request status body s
    constructor
    · -- Of all verdicts on a reply, only two are answers, and one of them is for logouts.
      intro h
      rw [h] at hverdict
      cases hverdict with
      | loggedOut hlogout => exact absurd hlogout hcall
      | answered _ hstatus hdecode => exact ⟨status, _, rfl, hstatus.1, hstatus.2, hdecode⟩
    · rintro ⟨_, _, hreply, hlow, hhigh, hdecode⟩
      cases hreply
      exact hverdict.unique (.answered hcall ⟨hlow, hhigh⟩ hdecode)
  | _ =>
    constructor
    · intro h
      cases h
    · rintro ⟨_, _, hreply, -⟩
      cases hreply

/-- A call that could not be sent fails for the reason for which it could not be sent. -/
theorem perform_of_failed {server : String} {s : Session} {failure : Failure}
    (hfailed : (call.dispatch server s.token).1 = .done (.error failure)) (reply : Reply) :
    (call.perform server reply s).result = .error failure := by
  rcases hdispatch : call.dispatch server s.token with ⟨stage, events⟩
  rw [hdispatch] at hfailed
  subst hfailed
  simp [perform, hdispatch, lose]

/-- A call has an answer if it was sent and the reply holds one. -/
theorem perform_eq_ok_iff (hcall : ¬call.isLogout) {server : String} {s : Session} :
    (call.perform server reply s).result = .ok answer ↔
      (∃ request, (call.dispatch server s.token).1 = .sent request) ∧
        reply.Answers call answer := by
  rcases call.dispatch_cases server s.token with ⟨request, hsent, -⟩ | ⟨failure, hfailed⟩
  · rw [(perform_of_sent hsent reply).1, receive_eq_ok_iff hcall,
      and_iff_right ⟨request, hsent⟩]
  · simp [perform_of_failed hfailed, hfailed]

end

/-! ### Two calls at the same time -/

/-- What two calls come to together: both answers, or the failure of one of them. -/
inductive Joins (result : Except Failure α) (result' : Except Failure β) :
    Except Failure (α × β) → Prop where
  | answers {a : α} {b : β} (h : result = .ok a) (h' : result' = .ok b) :
    Joins result result' (.ok (a, b))
  | first {failure : Failure} (h : result = .error failure) : Joins result result' (.error failure)
  | second {failure : Failure} (h : result' = .error failure) :
    Joins result result' (.error failure)

/-- Two calls come to answers together if each of them has its answer. -/
theorem Joins.eq_ok_iff {result : Except Failure α} {result' : Except Failure β}
    {joint : Except Failure (α × β)} (h : Joins result result' joint) {a : α} {b : β} :
    joint = .ok (a, b) ↔ result = .ok a ∧ result' = .ok b := by
  cases h with
  | answers h h' => simp [h, h']
  | first h => simp [h]
  | second h => simp [h]

/-- A failure of two calls together is a failure of one of them. -/
theorem Joins.of_error {result : Except Failure α} {result' : Except Failure β}
    {failure : Failure} (h : Joins result result' (.error failure)) :
    result = .error failure ∨ result' = .error failure := by
  cases h with
  | first h => exact .inl h
  | second h => exact .inr h

/-- From this stage on, the call comes to the result within so many steps. -/
inductive Stage.LeadsTo (call : Call α) (reply : Reply) (result : Except Failure α) :
    Nat → Stage α → Prop where
  | sent {request : Request} (h : ∀ s, (call.receive request reply s).1 = result) :
    LeadsTo call reply result 2 (.sent request)
  | headed {request : Request} {status : Status} {body : Body} (hreply : reply = .head status body)
    (h : ∀ s, (call.receiveBody request status body s).1 = result) :
    LeadsTo call reply result 1 (.headed request status)
  | done (n : Nat) : LeadsTo call reply result n (.done result)

section

variable {call : Call α} {reply : Reply} {result : Except Failure α} {stage : Stage α} {n : Nat}

/-- The step lemma for one call: one step less is left. -/
theorem Stage.LeadsTo.advance (h : stage.LeadsTo call reply result n) (hcall : call.IsPlain)
    (s : Session) : (call.advance reply stage s).1.LeadsTo call reply result (n - 1) := by
  cases h with
  | @sent request h =>
    cases reply with
    | head status body =>
      have hlogout : ¬(call.isLogout ∧ 200 ≤ status.code ∧ status.code ≤ 299) :=
        fun h => hcall.not_isLogout h.1
      have hstage := stage_receiveHead hlogout request s
      rw [Call.advance, hstage]
      refine .headed rfl fun s' => ?_
      -- Whatever the session, the body comes to what it comes to in the session that the status
      -- leaves.
      have hverdict (s : Session) :
          call.Verdict request.url status body (call.receiveBody request status body s).1 :=
        verdict_receiveBody hlogout s
      rw [(hverdict s').unique (hverdict (call.receiveHead request status s).2.1),
        ← (receive_of_headed hstage body).1]
      exact h s
    | _ => exact h s ▸ .done 1
  | headed hreply h =>
    subst hreply
    exact h s ▸ .done 0
  | done n => cases reply <;> exact .done (n - 1)

/-- A call that is over has come to its result. -/
theorem Stage.LeadsTo.eq_of_done {result' : Except Failure α}
    (h : (Stage.done result').LeadsTo call reply result n) : result' = result := by
  cases h
  rfl

/-- A call of which no step is left is over. -/
theorem Stage.LeadsTo.eq_done (h : stage.LeadsTo call reply result 0) : stage = .done result := by
  cases h
  rfl

end

namespace Pair

variable {first : Call α} {second : Call β} {replies : Reply × Reply} {p : Pair α β}
  {result : Except Failure α} {result' : Except Failure β} {joint : Except Failure (α × β)}
  {m n : Nat}

/-- What two calls have come to is what they come to together. -/
theorem joins_of_result? (h : p.first.LeadsTo first replies.1 result m)
    (h' : p.second.LeadsTo second replies.2 result' n) (hjoint : p.result? = some joint) :
    Joins result result' joint := by
  unfold result? at hjoint
  split at hjoint
  case h_1 failure hfirst =>
    rw [hfirst] at h
    obtain rfl := Option.some.inj hjoint
    exact .first h.eq_of_done.symm
  case h_2 failure hsecond _ =>
    rw [hsecond] at h'
    obtain rfl := Option.some.inj hjoint
    exact .second h'.eq_of_done.symm
  case h_3 a b hfirst hsecond =>
    rw [hfirst] at h
    rw [hsecond] at h'
    obtain rfl := Option.some.inj hjoint
    exact .answers h.eq_of_done.symm h'.eq_of_done.symm
  case h_4 => cases hjoint

/-- The run lemma: after enough steps of each, two calls have come to what they come to together. -/
theorem joins_foldl (hfirst : first.IsPlain) (hsecond : second.IsPlain) (p : Pair α β)
    (order : List Bool) (h : p.first.LeadsTo first replies.1 result m)
    (h' : p.second.LeadsTo second replies.2 result' n) (hm : m ≤ order.count false)
    (hn : n ≤ order.count true) :
    ∃ joint, (order.foldl (step first second replies) p).result? = some joint ∧
      Joins result result' joint := by
  -- Each step takes one from the steps that are left to its call, and once there is a result
  -- nothing changes any more.
  induction order generalizing p m n with
  | nil =>
    obtain rfl : m = 0 := by simpa using hm
    obtain rfl : n = 0 := by simpa using hn
    obtain ⟨joint, hjoint⟩ : ∃ joint, p.result? = some joint := by
      unfold result?
      rw [h.eq_done, h'.eq_done]
      cases result <;> cases result' <;> exact ⟨_, rfl⟩
    exact ⟨joint, hjoint, joins_of_result? h h' hjoint⟩
  | cons isSecond order ih =>
    cases hjoint : p.result? with
    | some joint =>
      rw [foldl_step_of_isSome (by rw [hjoint]; rfl)]
      exact ⟨joint, hjoint, joins_of_result? h h' hjoint⟩
    | none =>
      rw [List.foldl_cons, step, if_neg (by simp [hjoint])]
      cases isSecond with
      | true => exact ih _ h (h'.advance hsecond p.session) (by simpa using hm) (by simpa using hn)
      | false => exact ih _ (h.advance hfirst p.session) h' (by simpa using hm) (by simpa using hn)

end Pair

section

variable {first : Call α} {second : Call β}

/-- From its start on, a call leads to its result. -/
theorem Stage.leadsTo_dispatch (call : Call α) (server : String) (reply : Reply) (s : Session) :
    (call.dispatch server s.token).1.LeadsTo call reply (call.perform server reply s).result 2 := by
  rcases call.dispatch_cases server s.token with ⟨request, hsent, -⟩ | ⟨failure, hfailed⟩
  · rw [(perform_of_sent hsent reply).1, hsent]
    exact .sent fun s' => call.receive_congr request reply s' s
  · rw [perform_of_failed hfailed, hfailed]
    exact .done 2

/-- Two calls at the same time come to what they come to one after the other: to both answers, or to
the failure of one of them. -/
theorem joins_both (hfirst : first.IsPlain) (hsecond : second.IsPlain) (server : String)
    (replies : Reply × Reply) (arrivals : List Bool) (s : Session) :
    Joins (first.perform server replies.1 s).result (second.perform server replies.2 s).result
      (both server first second replies arrivals s).result := by
  have hleads := Stage.leadsTo_dispatch first server replies.1 s
  have hleads' := Stage.leadsTo_dispatch second server replies.2 s
  unfold both
  rcases hdispatch : first.dispatch server s.token with ⟨stage, events⟩
  rw [hdispatch] at hleads
  rcases first.dispatch_cases server s.token with ⟨request, hsent, -⟩ | ⟨failure, hfailed⟩
  · obtain rfl : stage = .sent request := by rw [← hsent, hdispatch]
    by_cases hreply : replies.1 = .unreachable
    · -- No reply comes to the first call, and the second one is not even started.
      simp only [if_pos hreply]
      refine .first ?_
      rw [(perform_of_sent hsent replies.1).1, hreply]
      rfl
    · -- Both calls are on their way, and at the end there are enough steps for each of them.
      simp only [if_neg hreply]
      let start : Pair α β :=
        ⟨.sent request, (second.dispatch server s.token).1, s,
          events ++ (second.dispatch server s.token).2⟩
      obtain ⟨joint, hjoint, hjoins⟩ := Pair.joins_foldl hfirst hsecond start
        (arrivals ++ [false, false, true, true]) hleads hleads' (by simp) (by simp)
      rw [hjoint]
      exact hjoins
  · obtain rfl : stage = .done (.error failure) := by rw [← hfailed, hdispatch]
    exact .first (perform_of_failed hfailed replies.1)

end

end Call

end NewsReader
