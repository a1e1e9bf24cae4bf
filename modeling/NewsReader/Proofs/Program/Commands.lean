import NewsReader.Proofs.Api.Replies
import NewsReader.Proofs.Program.Watching

/-!
# What commands do to the session

A command sends the token that is held when it starts, and nothing but the replies decides which
token is held after it (`App.event?`): one of them rejects the token, a login succeeds, or a logout
is granted. The session file follows the held token, unless it is logged that the vault failed.

* `App.Follows` — what is true of every command.
* `App.follows_ask` — a command that is one call.
* `App.follows_run` — any command.
-/

namespace NewsReader.Program

open Http (Reply Status)

/-- The reply to the one request of a command. -/
def Peer.answer (p : Peer) : Command → Reply
  | .subscriptions => p.replyTo .subscriptions
  | _ => p.replyTo .me

namespace App

/-- The statuses that come in while a command runs. -/
def statuses (app : App) (peer : Peer) (input : List UInt8) : Command → List Status
  | .feeds =>
    Call.bothStatuses app.config.serverUrl .feeds .subscriptions
      (peer.replyTo .feeds, peer.replyTo .subscriptions) peer.arrivals app.session
  | command =>
    if (app.run peer input command).requests.isEmpty then []
    else (peer.answer command).status?.toList

/-- What a command decides about the token: it is rejected, or a login succeeds, or a logout is
granted. -/
def event? (app : App) (peer : Peer) (input : List UInt8) (command : Command) (succeeded : Bool) :
    Option CredentialEvent :=
  if ∃ status ∈ app.statuses peer input command, status.code = 401 then some .rejected
  else
    match command with
    | .login .. => if succeeded then (peer.answer command).newToken?.map .loggedIn else none
    | .logout =>
      if ∃ status ∈ app.statuses peer input command,
        200 ≤ status.code ∧ status.code ≤ 299 then some .loggedOut
      else none
    | _ => none

/-- A command sends the token that is held at its start. The token after it is the one that an event
decides, and the session file follows. -/
structure Follows (app : App) (report : Report) (event? : Option CredentialEvent) : Prop where
  /-- The session file. -/
  keeps : app.session.Keeps report.app.session report.events
  /-- The requests. -/
  authorized : ∀ request ∈ report.requests,
    request.authorization = Call.credential app.session.token
  /-- The held token. -/
  held : report.app.session.held = event?.elim app.session.held CredentialEvent.held

/-- The token after a command. -/
theorem Follows.token {app : App} {report : Report} {event? : Option CredentialEvent}
    (h : app.Follows report event?) :
    report.app.session.token = event?.elim app.session.token CredentialEvent.token := by
  rw [Session.token, h.held]
  cases event? <;> rfl

variable (app : App) (peer : Peer) (input : List UInt8)

/-- A command that asks for nothing decides nothing. -/
theorem follows_of_requests_eq_nil {app : App} {report : Report}
    (hsession : report.app.session = app.session) (hrequests : report.requests = []) :
    app.Follows report none where
  keeps := by
    rw [hsession]
    exact .refl app.session _
  authorized := by
    rw [hrequests]
    exact List.forall_mem_nil _
  held := by
    rw [hsession]
    rfl

/-- What a call leaves in the report of a command. -/
theorem ask_spec {α : Type} (call : Call α) (print : α → String) :
    let o := call.perform app.config.serverUrl (peer.replyTo call) app.session
    (app.ask peer call print).app.session = o.session ∧
      (app.ask peer call print).requests = o.request.toList ∧
      (app.ask peer call print).events = o.events ∧
      ((app.ask peer call print).complaint = none ↔ o.result.isOk) := by
  intro o
  unfold ask reportOf
  cases o.result <;> simp [o, Except.isOk, Except.toBool]

/-- A command that is one call decides what is decided by the call. -/
theorem follows_ask {α : Type} {call : Call α} (print : α → String)
    {event? : Option CredentialEvent}
    (hheld : (call.perform app.config.serverUrl (peer.replyTo call) app.session).session.held =
      event?.elim app.session.held CredentialEvent.held) :
    app.Follows (app.ask peer call print) event? := by
  obtain ⟨hsession, hrequests, hevents, -⟩ := app.ask_spec peer call print
  refine ⟨?_, ?_, ?_⟩
  · rw [hsession, hevents]
    exact call.keeps_perform app.config.serverUrl (peer.replyTo call) app.session
  · rw [hrequests]
    intro request hmem
    exact call.authorization_perform _ _ _ request (Option.mem_toList.mp hmem)
  · rw [hsession, hheld]

/-- The statuses that come in during a command that is one call. -/
theorem statuses_ask {α : Type} (call : Call α) (print : α → String) :
    (if (app.ask peer call print).requests.isEmpty then []
      else (peer.replyTo call).status?.toList) =
      (call.perform app.config.serverUrl (peer.replyTo call) app.session).statuses
        (peer.replyTo call) := by
  rw [(app.ask_spec peer call print).2.1, Call.Outcome.statuses]
  cases (call.perform app.config.serverUrl (peer.replyTo call) app.session).request <;> rfl

/-- A command that is one call, neither a login nor a logout, decides that the token is rejected, or
nothing. -/
theorem follows_ask_of_plain {α : Type} {call : Call α} (print : α → String)
    (hlogin : ¬call.isLogin) (hlogout : ¬call.isLogout) :
    app.Follows (app.ask peer call print)
      (if ∃ status ∈ (if (app.ask peer call print).requests.isEmpty then []
          else (peer.replyTo call).status?.toList),
            status.code = 401 then some .rejected else none) := by
  rw [statuses_ask]
  exact app.follows_ask peer print (Call.held_perform_of_plain _ _ _ hlogin hlogout)

/-- A logout is made only if somebody is logged in. -/
theorem follows_logout :
    app.Follows (app.logout peer)
      (app.event? peer input .logout (app.logout peer).complaint.isNone) := by
  by_cases hauthenticated : app.session.isAuthenticated
  · have hlogout : app.logout peer = app.ask peer .logout fun () => Listing.text ["Logged out"] :=
      if_pos hauthenticated
    have hstatuses : app.statuses peer input .logout =
        (Call.logout.perform app.config.serverUrl (peer.replyTo .logout) app.session).statuses
          (peer.replyTo .logout) := by
      rw [← app.statuses_ask peer .logout fun () => Listing.text ["Logged out"], ← hlogout]
      rfl
    rw [event?, hstatuses, hlogout]
    exact app.follows_ask peer _ (Call.held_perform_logout ..)
  · have hlogout : app.logout peer = .printing app (Listing.text ["Not logged in"]) :=
      if_neg hauthenticated
    have hevent : app.event? peer input .logout (app.logout peer).complaint.isNone = none := by
      simp [event?, statuses, run, hlogout, Report.printing]
    rw [hevent, hlogout]
    exact follows_of_requests_eq_nil rfl rfl

/-- A login is made if there is something to send. What it remembers is no matter of the session. -/
theorem follows_login (name password : Option String) :
    app.Follows (app.login peer input name password)
      (app.event? peer input (.login name password)
        (app.login peer input name password).complaint.isNone) := by
  rcases hname : app.loginName name input with ⟨prompt, user?⟩
  cases hcredentials : credentials user? password with
  | error complaint =>
    -- Nothing goes out, so that the reply does not matter.
    have hlogin : app.login peer input name password = .failing app prompt complaint := by
      simp [login, hname, hcredentials]
    have hevent : app.event? peer input (.login name password)
        (app.login peer input name password).complaint.isNone = none := by
      simp [event?, statuses, run, hlogin, Report.failing, Report.printing]
    rw [hevent, hlogin]
    exact follows_of_requests_eq_nil rfl rfl
  | ok sent =>
    obtain ⟨user, word⟩ := sent
    let call := Call.login user word
    let print := fun _ : LoginReply => Listing.text ["Logged in as " ++ user]
    let o := call.perform app.config.serverUrl (peer.replyTo call) app.session
    obtain ⟨hsession, hrequests, hevents, hcomplaint⟩ :
        (app.login peer input name password).app.session = (app.ask peer call print).app.session ∧
        (app.login peer input name password).requests = (app.ask peer call print).requests ∧
        (app.login peer input name password).events = (app.ask peer call print).events ∧
        (app.login peer input name password).complaint = (app.ask peer call print).complaint := by
      simp only [login, hname, hcredentials, call, print]
      generalize app.ask peer (.login user word) _ = report
      split <;> exact ⟨rfl, rfl, rfl, rfl⟩
    have hstatuses : app.statuses peer input (.login name password) =
        o.statuses (peer.replyTo call) := by
      rw [← app.statuses_ask peer call print, ← hrequests]
      rfl
    have hsucceeded : (app.ask peer call print).complaint.isNone = o.result.isOk := by
      rw [Bool.eq_iff_iff, Option.isNone_iff_eq_none]
      exact (app.ask_spec peer call print).2.2.2
    -- The report of the login is that of the call in all that counts here.
    have hfollows := app.follows_ask peer print
      (Call.held_perform_login app.config.serverUrl (peer.replyTo call) app.session user word)
    rw [event?, hstatuses, hcomplaint, hsucceeded]
    refine ⟨?_, ?_, ?_⟩
    · rw [hsession, hevents]
      exact hfollows.keeps
    · rw [hrequests]
      exact hfollows.authorized
    · rw [hsession]
      exact hfollows.held

/-- The listing of feeds is two calls at the same time, and each of them can be rejected. -/
theorem follows_feeds :
    app.Follows (app.feeds peer)
      (app.event? peer input .feeds (app.feeds peer).complaint.isNone) := by
  let o := Call.both app.config.serverUrl .feeds .subscriptions
    (peer.replyTo .feeds, peer.replyTo .subscriptions) peer.arrivals app.session
  have hfeeds : ¬Call.feeds.isLogin ∧ ¬Call.feeds.isLogout :=
    ⟨Bool.false_ne_true, Bool.false_ne_true⟩
  have hsubscriptions : ¬Call.subscriptions.isLogin ∧ ¬Call.subscriptions.isLogout :=
    ⟨Bool.false_ne_true, Bool.false_ne_true⟩
  obtain ⟨hauthorized, hkeeps, hheld⟩ := Call.both_spec hfeeds hsubscriptions
    (peer.replyTo .feeds, peer.replyTo .subscriptions) app.config.serverUrl
      peer.arrivals app.session
  -- Whatever the calls come to, the report has the session, requests and events of both.
  obtain ⟨hsession, hrequests, hevents⟩ : (app.feeds peer).app.session = o.session ∧
      (app.feeds peer).requests = o.request.toList ++ o.secondRequest.toList ∧
      (app.feeds peer).events = o.events := by
    simp only [feeds, reportOf]
    split <;> exact ⟨rfl, rfl, rfl⟩
  refine ⟨?_, ?_, ?_⟩
  · rw [hsession, hevents]
    exact hkeeps
  · rw [hrequests]
    exact hauthorized
  · rw [hsession, hheld]
    exact Call.heldAfter_eq ..

/-- What a command does to the session, and what it sends. -/
theorem follows_run (command : Command) :
    app.Follows (app.run peer input command)
      (app.event? peer input command (app.run peer input command).complaint.isNone) := by
  cases command with
  | login name password => exact app.follows_login peer input name password
  | logout => exact app.follows_logout peer input
  | feeds => exact app.follows_feeds peer input
  | status => exact follows_of_requests_eq_nil rfl rfl
  | watch => exact follows_of_requests_eq_nil (app.session_watch peer) rfl
  | me => exact app.follows_ask_of_plain peer _ Bool.false_ne_true Bool.false_ne_true
  | news => exact app.follows_ask_of_plain peer _ Bool.false_ne_true Bool.false_ne_true
  | subscriptions => exact app.follows_ask_of_plain peer _ Bool.false_ne_true Bool.false_ne_true
  | subscribe feed => exact app.follows_ask_of_plain peer _ Bool.false_ne_true Bool.false_ne_true
  | unsubscribe feed => exact app.follows_ask_of_plain peer _ Bool.false_ne_true Bool.false_ne_true

end App

end NewsReader.Program
