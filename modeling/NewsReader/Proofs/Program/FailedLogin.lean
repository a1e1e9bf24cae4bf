import NewsReader.Proofs.Api.Endpoint
import NewsReader.Proofs.Api.GivenUp
import NewsReader.Proofs.Api.Settled
import NewsReader.Proofs.Program.Visits

/-!
# Logins that fail

A login can fail in many places: there may be no name or no password to send, the held token may be
one that no header carries, the server may not be there, it may refuse the login, and its answer may
be something else or break off. In all of these nothing is left of the attempt. Only a status that
rejects the credential has an effect: the token is dropped when it comes in, before the body is
read, so that it does not matter what becomes of the body.

* `Call.session_login_of_error` — the session after a call that failed.
* `App.login_cases` — a login that has nothing to send is over at once, and any other is one call.
* `App.LeftAsItWas` — the program after a login that failed.
* `failed_login_leaves_all` — the machine and the session after a run that failed.
-/

namespace NewsReader

open Http (Reply Status)

/-! ### Calls -/

namespace Session

variable {s s' : Session}

/-- What is left of the session: its token, unless a status rejected it. -/
structure KeptUnless (rejected : Prop) (s s' : Session) : Prop where
  /-- Without a rejection, nothing changes. -/
  same : ¬rejected → s' = s
  /-- A rejection drops the token. -/
  dropped : rejected → s.Dropped s' ∧ s'.vault = s.vault.clear.2

/-- The session after a rejection, or after nothing. -/
theorem keptUnless_follow? (rejected : Prop) [Decidable rejected] (s : Session) :
    s.KeptUnless rejected (s.follow? (if rejected then some .rejected else none)).1 := by
  by_cases h : rejected
  · refine ⟨fun hnot => absurd h hnot, fun _ => ?_⟩
    rw [if_pos h]
    exact ⟨s.dropped_drop, s.vault_drop⟩
  · refine ⟨fun _ => ?_, fun hrejected => absurd hrejected h⟩
    rw [if_neg h]
    rfl

end Session

/-- A login that fails leaves the session, unless its status rejects the credential. -/
theorem Call.session_login_of_error {name password server : String} {reply : Reply} {s : Session}
    {failure : Api.Failure}
    (h : ((login name password).perform server reply s).result = .error failure) :
    let o := (login name password).perform server reply s
    s.KeptUnless (∃ status ∈ o.statuses reply, status.code = 401) o.session := by
  intro o
  have hevent : o.event? (login name password) reply =
      if ∃ status ∈ o.statuses reply, status.code = 401 then some .rejected else none := by
    rcases (login name password).perform_cases server reply s with
      ⟨request, -, hrequest, hresult, -⟩ | ⟨hrequest, -⟩
    · -- The reply would have been another event only if the call had succeeded.
      have hfailed : ((login name password).receive request reply s).1.isOk = false := by
        rw [← hresult, h]
        rfl
      simp only [o, Outcome.event?, Outcome.statuses, hrequest]
      rw [replyEvent?_login reply s name password request, hfailed]
      by_cases hreply : reply = .unreachable
      · subst hreply
        rfl
      · simp [hreply]
    · simp only [o, Outcome.event?, Outcome.statuses, hrequest]
      rfl
  have hsession := ((login name password).session_perform server reply s).1
  rw [hevent] at hsession
  show s.KeptUnless _ o.session
  rw [hsession]
  exact Session.keptUnless_follow? _ s

namespace Program

/-! ### What may be sent -/

/-- A name and a password that may be sent. -/
structure MaySend (user word : String) : Prop where
  /-- The name has a character that is not blank. -/
  visible : ∃ c ∈ user.toList, ¬Text.isBlank c
  /-- The name is not too long. -/
  name_length : user.length ≤ 50
  /-- There is a password. -/
  password_pos : 1 ≤ word.length
  /-- The password is not too long. -/
  password_length : word.length ≤ 128

/-- The check lets nothing else through. -/
theorem checkLogin_eq_ok_iff_maySend {user word : String} :
    checkLogin user word = .ok () ↔ MaySend user word := by
  have hvisible : Text.isBlankText user = false ↔ ∃ c ∈ user.toList, ¬Text.isBlank c := by
    simp [Text.isBlankText]
  have hword : word.isEmpty = false ↔ 1 ≤ word.length := by
    rw [← Bool.not_eq_true, String.isEmpty_iff, ← String.length_eq_zero_iff,
      Nat.one_le_iff_ne_zero]
  rw [checkLogin_eq_ok_iff, hvisible, hword]
  constructor
  · rintro ⟨hname, hpos, hlength, hlimit⟩
    exact ⟨hname, hlength, hpos, hlimit⟩
  · rintro ⟨hname, hlength, hpos, hlimit⟩
    exact ⟨hname, hpos, hlength, hlimit⟩

namespace App

/-- The credentials that are sent are a name, a password, and both may be sent. -/
theorem maySend_of_credentials {name : Except Complaint String} {password : Option String}
    {user word : String} (h : credentials name password = .ok (user, word)) :
    name = .ok user ∧ password = some word ∧ MaySend user word := by
  obtain rfl := name_of_credentials h
  cases password with
  | none => cases h
  | some password =>
    rw [credentials_eq] at h
    cases hcheck : checkLogin user password with
    | error fault =>
      rw [hcheck] at h
      cases h
    | ok _ =>
      rw [hcheck] at h
      obtain rfl : password = word := (Prod.mk.inj (Except.ok.inj h)).2
      exact ⟨rfl, rfl, checkLogin_eq_ok_iff_maySend.mp hcheck⟩

/-! ### Programs -/

variable {app : App} {peer : Peer} {input : List UInt8} {name password : Option String}

/-- A login that has nothing to send is over at once. Any other is one call, and what it leaves is
what the call leaves unless the call succeeds. -/
theorem login_cases (app : App) (peer : Peer) (input : List UInt8) (name password : Option String) :
    let report := app.login peer input name password
    (report.app = app ∧ report.requests = []) ∨
      ∃ user word, IsLoginName name app.config.lastUser input user ∧ password = some word ∧
        MaySend user word ∧
        let o := (Call.login user word).perform app.config.serverUrl
          (peer.replyTo (.login user word)) app.session
        report.requests = o.request.toList ∧
          app.statuses peer input (.login name password) =
            o.statuses (peer.replyTo (.login user word)) ∧
          (report.complaint ≠ none → report.app = { app with session := o.session } ∧
            ∃ failure, o.result = .error failure) := by
  intro report
  rcases hname : app.loginName name input with ⟨prompt, user?⟩
  cases hcredentials : credentials user? password with
  | error complaint =>
    have hlogin : report = .failing app prompt complaint := by
      simp [report, login, hname, hcredentials]
    rw [hlogin]
    exact .inl ⟨rfl, rfl⟩
  | ok sent =>
    obtain ⟨user, word⟩ := sent
    obtain ⟨rfl, hpassword, hmay⟩ := maySend_of_credentials hcredentials
    refine .inr ⟨user, word, isLoginName_of_loginName (congrArg Prod.snd hname),
      hpassword, hmay, ?_⟩
    intro o
    let print := fun _ : LoginReply => Listing.text ["Logged in as " ++ user]
    let asked := app.ask peer (.login user word) print
    obtain ⟨-, hrequests, -, hcomplaint⟩ := app.ask_spec peer (.login user word) print
    -- The program of the call is kept if the call failed; if it did not, the name is remembered as
    -- well.
    obtain ⟨hsent, hdone, hleft⟩ : report.requests = asked.requests ∧
        report.complaint = asked.complaint ∧
        (asked.complaint ≠ none → report.app = asked.app) := by
      simp only [report, login, hname, hcredentials, asked, print]
      generalize app.ask peer (.login user word) _ = called
      cases called.complaint <;> simp
    have hstatuses : app.statuses peer input (.login name password) =
        o.statuses (peer.replyTo (.login user word)) := by
      rw [← app.statuses_ask peer (.login user word) print]
      show (if report.requests.isEmpty then []
        else (peer.replyTo (.login user word)).status?.toList) = _
      rw [hsent]
    refine ⟨hsent.trans hrequests, hstatuses, fun hfails => ?_⟩
    rw [hdone] at hfails
    refine ⟨(hleft hfails).trans (app_ask app peer (.login user word) print), ?_⟩
    cases hresult : o.result with
    | error failure => exact ⟨failure, rfl⟩
    | ok reply => exact absurd (hcomplaint.mpr (by rw [hresult]; rfl)) hfails

/-- The program after a login that failed: all but the session is as it was, and the token is kept
unless a status rejected it. -/
structure LeftAsItWas (app after : App) (rejected : Prop) : Prop where
  /-- Nothing but the session changes. -/
  rest : after = { app with session := after.session }
  /-- The session. -/
  session : app.session.KeptUnless rejected after.session

/-- What a login sends, and what it leaves if it fails. -/
theorem login_spec (app : App) (peer : Peer) (input : List UInt8) (name password : Option String) :
    let report := app.run peer input (.login name password)
    (∀ request ∈ report.requests, ∃ user word,
      IsLoginName name app.config.lastUser input user ∧
        password = some word ∧ MaySend user word ∧
        ∃ url, request = (Call.login user word).requestTo url app.session.token) ∧
      (report.complaint ≠ none →
        app.LeftAsItWas report.app (∃ status ∈ app.statuses peer input (.login name password),
          status.code = 401)) := by
  intro report
  rcases app.login_cases peer input name password with
    ⟨happ, hrequests⟩ | ⟨user, word, hname, hpassword, hmay, hrequests, hstatuses, hfails⟩
  · have hstatuses : app.statuses peer input (.login name password) = [] := by
      show (if report.requests.isEmpty then []
        else (peer.answer (.login name password)).status?.toList) = _
      rw [show report.requests = [] from hrequests]
      rfl
    refine ⟨?_, fun _ => ?_⟩
    · rw [show report.requests = [] from hrequests]
      exact List.forall_mem_nil _
    · -- No status came in.
      have hnone : ¬∃ status ∈ app.statuses peer input (.login name password),
          status.code = 401 := by
        rw [hstatuses]
        simp
      rw [show report.app = app from happ]
      exact ⟨rfl, fun _ => rfl, fun h => absurd h hnone⟩
  · refine ⟨fun request hrequest => ⟨user, word, hname, hpassword, hmay, ?_⟩,
      fun hcomplaint => ?_⟩
    · rw [show report.requests = _ from hrequests, Option.mem_toList] at hrequest
      obtain ⟨⟨-, url, -, rfl⟩, -⟩ :=
        Call.dispatch_eq_sent_iff.mp (Call.mem_request_perform_iff.mp hrequest).1
      exact ⟨url, rfl⟩
    · obtain ⟨happ, failure, hresult⟩ := hfails hcomplaint
      rw [show report.app = _ from happ, hstatuses]
      exact ⟨rfl, Call.session_login_of_error hresult⟩

end App

/-! ### Runs -/

/-- The statuses that come in during a run. -/
def statuses (machine : Machine) (launch : Launch) : List Status :=
  match started? machine launch with
  | none => []
  | some (app, command) => app.statuses launch.peer launch.input command

section

variable {machine : Machine} {launch : Launch} {invocation : Invocation}
  {name password : Option String}

/-- The places of a machine stay as they are if the vault does. -/
theorem after_vault (p : Places) (kind : StoreKind) : p.after (p.vault kind) = p := by
  cases kind <;> rfl

/-- A vault that was cleared is found in its place. -/
theorem vault_after_clear (p : Places) (kind : StoreKind) :
    (p.after (p.vault kind).clear.2).vault kind = (p.vault kind).clear.2 := by
  cases kind <;> rfl

/-- A session uses the vault that the settings ask for. -/
theorem vault_session (c : Config) (p : Places) : (c.session p).1.vault = p.vault c.store := by
  have hrestore (v : Vault) : (Session.restore v).1.vault = v := by
    unfold Session.restore
    split <;> rfl
  unfold Config.session
  cases c.store with
  | memory => rfl
  | _ => exact hrestore _

/-- The settings of a run have the last user of the saved ones. -/
theorem lastUser_of_given? {config : Config}
    (h : given? machine launch = some (config, invocation)) :
    config.lastUser = machine.settings.1.lastUser := by
  unfold given? at h
  split at h
  · cases h
  · next invocation' hinvocation =>
    cases hsettings : settingsOf machine.settings.1 launch.fullEnvironment invocation' with
    | error unknown =>
      rw [hsettings] at h
      cases h
    | ok config' =>
      rw [hsettings] at h
      obtain rfl : config' = config := congrArg Prod.fst (Option.some.inj h)
      exact lastUser_of_settingsOf hsettings

/-- A program that is started is started with the settings of the run, and for the command of its
invocation. -/
theorem of_started? {app : App} {command : Command}
    (h : started? machine launch = some (app, command))
    (hinvocation : Invocation.ofArguments (launch.fullEnvironment passwordVariable)
      launch.arguments = .ok invocation) :
    command = invocation.command ∧ app.config.lastUser = machine.settings.1.lastUser ∧
      app.configFile = machine.configFile ∧
      app.session.vault = machine.places.vault app.config.store := by
  obtain ⟨⟨config, invocation'⟩, hgiven, hstarted⟩ := Option.bind_eq_some_iff.mp h
  rcases hstart : App.start config machine invocation'.json with
    ⟨⟨fault⟩ | ⟨app'⟩, events⟩
  · simp [hstart, Except.toOption] at hstarted
  · obtain ⟨rfl, rfl⟩ : app' = app ∧ invocation'.command = command := by
      simpa [hstart, Except.toOption] using hstarted
    obtain ⟨rfl, hfile, hsession⟩ := eq_of_start hstart
    refine ⟨?_, lastUser_of_given? hgiven, hfile, by rw [hsession, vault_session]⟩
    -- There is only one invocation in the arguments.
    simp only [given?, hinvocation, Option.map_eq_some_iff, Prod.mk.injEq] at hgiven
    obtain ⟨_, -, -, rfl⟩ := hgiven
    rfl

end

end Program

end NewsReader
