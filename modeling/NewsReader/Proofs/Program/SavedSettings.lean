import NewsReader.Program.Run
import NewsReader.Proofs.Api.Login
import NewsReader.Proofs.Config.File

/-!
# The settings that a login saves

A login keeps the name of the user in the settings and saves them. They are the settings of the run,
so what the environment and the invocation gave for this run alone is saved with them. The file
keeps what it had only where they gave nothing else (`Config.Agrees`).

* `eq_of_settingsOf` — the settings of a run, field by field.
* `of_exitCode_eq_zero` — all that a run does whose command succeeds.
* `App.login_of_complaint_eq_none` — what a login leaves that succeeds.
* `load_of_login` — the settings that are loaded after a login that succeeds.
* `login_keeps_settings_iff` — the runs in which a login keeps the saved settings.
-/

namespace NewsReader

namespace Config

/-- What the environment and the invocation give is what the configuration has. -/
structure Agrees (c : Config) (env : Environment) (i : Program.Invocation) : Prop where
  /-- The address of the server. -/
  server : ∀ url ∈ i.server.or (given env serverVariable), c.server = some url
  /-- The address where news are pushed. -/
  live : ∀ url ∈ i.live.or (given env liveVariable), c.live = some url
  /-- How the token is kept. -/
  store : ∀ name ∈ given env storeVariable, StoreKind.ofText name = .ok c.store
  /-- The directory for logs. -/
  logDirectory : ∀ path ∈ given env logVariable, c.logDirectory = some path

/-- What goes over a setting is not seen exactly if it is what is there. -/
theorem or_eq_right_iff {α : Type} {o o' : Option α} :
    o.or o' = o' ↔ ∀ a ∈ o, o' = some a := by
  cases o with
  | none => simp
  | some a => simp [eq_comm]

end Config

namespace Program

open Config (given serverVariable liveVariable storeVariable logVariable)

variable {machine : Machine} {launch : Launch} {invocation : Invocation} {c settings : Config}
  {env : Environment}

/-! ### The settings of a run -/

/-- The settings of a run: the invocation over the environment over what was saved. -/
theorem eq_of_settingsOf (h : settingsOf c env invocation = .ok settings) :
    settings = { c with
      server := (invocation.server.or (given env serverVariable)).or c.server
      live := (invocation.live.or (given env liveVariable)).or c.live
      store := settings.store
      logDirectory := (given env logVariable).or c.logDirectory } ∧
    match given env storeVariable with
    | some name => StoreKind.ofText name = .ok settings.store
    | none => settings.store = c.store := by
  unfold settingsOf Config.override at h
  -- Only the name of a store can be one that is not known.
  cases hstore : given env storeVariable with
  | none =>
    obtain rfl : _ = settings := by simpa [hstore] using h
    simp [Invocation.override, Option.or_assoc]
  | some name =>
    cases hkind : StoreKind.ofText name with
    | error unknown => simp [hstore, hkind] at h
    | ok kind =>
      obtain rfl : _ = settings := by simpa [hstore, hkind] using h
      simp [Invocation.override, Option.or_assoc, Except.toOption, hkind]

/-- The name of the last login is neither in the environment nor in the invocation. -/
theorem lastUser_of_settingsOf (h : settingsOf c env invocation = .ok settings) :
    settings.lastUser = c.lastUser := by
  rw [(eq_of_settingsOf h).1]

/-- The numbers are neither in the environment nor in the invocation, so they fit as before. -/
theorem fits_of_settingsOf (h : settingsOf c env invocation = .ok settings) (hc : c.Fits) :
    settings.Fits := by
  rw [(eq_of_settingsOf h).1]
  exact ⟨hc.heartbeat, hc.timeout⟩

/-- The settings of a run are the saved ones, whoever is kept as the last user, exactly if nothing
else was given. -/
theorem settings_eq_iff (h : settingsOf c env invocation = .ok settings) (user : Option String) :
    { settings with lastUser := user } = { c with lastUser := user } ↔
      c.Agrees env invocation := by
  obtain ⟨hsettings, hstore⟩ := eq_of_settingsOf h
  have hkind : settings.store = c.store ↔
      ∀ name ∈ given env storeVariable, StoreKind.ofText name = .ok c.store := by
    cases hgiven : given env storeVariable with
    | none =>
      rw [hgiven] at hstore
      simpa using hstore
    | some name =>
      rw [hgiven] at hstore
      simp [hstore]
  rw [hsettings]
  simp only [Config.mk.injEq, Config.or_eq_right_iff, hkind, and_true, true_and]
  exact ⟨fun ⟨hserver, hlive, hname, hlog⟩ => ⟨hserver, hlive, hname, hlog⟩,
    fun hagrees => ⟨hagrees.server, hagrees.live, hagrees.store, hagrees.logDirectory⟩⟩

/-! ### Runs -/

/-- All that a run does whose command succeeds, if there are saved settings. -/
theorem of_exitCode_eq_zero
    (hinvocation : Invocation.ofArguments (launch.fullEnvironment passwordVariable)
      launch.arguments = .ok invocation)
    (hload : Config.load machine.configPath machine.configFile = .ok c)
    (hexit : (run machine launch).exitCode = 0) :
    ∃ settings app events, settingsOf c launch.fullEnvironment invocation = .ok settings ∧
      App.start settings machine invocation.json = (.ok app, events) ∧
      let report := app.run launch.peer launch.input invocation.command
      report.complaint = none ∧ (run machine launch).machine = report.app.leave machine := by
  have hsaved : machine.settings = (c, "") := by rw [Machine.settings, hload]
  simp only [run, hinvocation, hsaved] at hexit ⊢
  -- Wherever the run ends before the command succeeds, its code is not zero.
  cases hsettings : settingsOf c launch.fullEnvironment invocation with
  | error unknown => simp [hsettings, Ending.warn, Ending.early] at hexit
  | ok settings =>
    rcases hstart : App.start settings machine invocation.json with
      ⟨⟨fault⟩ | ⟨app⟩, events⟩
    · simp [hsettings, runCommand, hstart, Ending.warn, Ending.early] at hexit
    · refine ⟨settings, app, events, rfl, hstart, ?_⟩
      cases hcomplaint : (app.run launch.peer launch.input invocation.command).complaint with
      | some complaint =>
        simp [hsettings, runCommand, hstart, Ending.warn, Ending.ofReport, Report.errorText?,
          hcomplaint] at hexit
      | none =>
        simp [runCommand, hstart, Ending.warn, Ending.ofReport, Report.errorText?, hcomplaint]

/-- A program starts with the settings and the file that it is given, and with the session that the
settings ask for. -/
theorem eq_of_start {app : App} {json : Bool} {events : List Event}
    (h : App.start settings machine json = (.ok app, events)) :
    app.config = settings ∧ app.configFile = machine.configFile ∧
      app.session = (settings.session machine.places).1 := by
  unfold App.start at h
  cases hendpoint : settings.liveEndpoint with
  | error fault => simp [hendpoint, Except.map] at h
  | ok endpoint =>
    obtain ⟨rfl, -⟩ := by simpa [hendpoint, Except.map] using h
    exact ⟨rfl, rfl, rfl⟩

/-! ### Logins -/

/-- The user logs in by this name: it is given, else it is the last one, else it is typed. -/
def IsLoginName (given last : Option String) (input : List UInt8) (user : String) : Prop :=
  given.or last = some user ∨ given.or last = none ∧ App.typedName input = .ok user

namespace App

/-- The name to log in with is one that the user logs in by. -/
theorem isLoginName_of_loginName {app : App} {given : Option String} {input : List UInt8}
    {user : String} (h : (app.loginName given input).2 = .ok user) :
    IsLoginName given app.config.lastUser input user := by
  unfold loginName at h
  cases hname : given.or app.config.lastUser with
  | some name =>
    rw [hname] at h
    obtain rfl := Except.ok.inj h
    exact .inl hname
  | none =>
    rw [hname] at h
    exact .inr ⟨hname, h⟩

/-- A name and a password are sent if they can be. -/
theorem credentials_eq (name password : String) :
    credentials (.ok name) (some password) =
      ((checkLogin name password).mapError .login).map fun _ => (name, password) := by
  change ((checkLogin name password).mapError Complaint.login).bind (fun _ =>
    .ok (name, password)) = _
  cases checkLogin name password <;> rfl

/-- The name to send is the one to log in with. -/
theorem name_of_credentials {name : Except Complaint String} {password : Option String}
    {user word : String} (h : credentials name password = .ok (user, word)) : name = .ok user := by
  cases name with
  | error complaint => cases h
  | ok name =>
    cases password with
    | none => cases h
    | some password =>
      rw [credentials_eq] at h
      cases hcheck : checkLogin name password with
      | error fault =>
        rw [hcheck] at h
        cases h
      | ok _ =>
        rw [hcheck] at h
        exact congrArg Except.ok (Prod.mk.inj (Except.ok.inj h)).1

/-- A call leaves all of the program but its session. -/
theorem app_ask {α : Type} (app : App) (peer : Peer) (call : Call α) (print : α → String) :
    (app.ask peer call print).app =
      { app with session :=
          (call.perform app.config.serverUrl (peer.replyTo call) app.session).session } := by
  unfold ask reportOf
  split <;> rfl

/-- A login that succeeds saves the settings of the program with the name of the user. -/
theorem login_of_complaint_eq_none {app : App} {peer : Peer} {input : List UInt8}
    {name password : Option String} (h : (app.login peer input name password).complaint = none) :
    ∃ user, IsLoginName name app.config.lastUser input user ∧
      (app.login peer input name password).app.configFile =
        (({ app.config with lastUser := some user }).save app.configFile).toOption.getD
          app.configFile := by
  rcases hname : app.loginName name input with ⟨prompt, user?⟩
  cases hcredentials : credentials user? password with
  | error complaint => simp [login, hname, hcredentials, Report.failing] at h
  | ok sent =>
    obtain ⟨user, word⟩ := sent
    obtain rfl := name_of_credentials hcredentials
    refine ⟨user, isLoginName_of_loginName (congrArg Prod.snd hname), ?_⟩
    cases hcomplaint : (app.ask peer (.login user word) fun _ =>
      Listing.text ["Logged in as " ++ user]).complaint with
    | some complaint => simp [login, hname, hcredentials, hcomplaint] at h
    | none => simp [login, hname, hcredentials, hcomplaint, app_ask, remember]

end App

/-- A login succeeds if there is something to send, the server can be asked, and it answers with a
token. -/
theorem exitCode_of_login {user word endpoint text : String} {url : Url} {status : Http.Status}
    {body : Http.Body} {reply : LoginReply}
    (hinvocation : Invocation.ofArguments (launch.fullEnvironment passwordVariable)
      launch.arguments = .ok invocation)
    (hcommand : invocation.command = .login (some user) (some word))
    (hload : Config.load machine.configPath machine.configFile = .ok c)
    (hsettings : settingsOf c launch.fullEnvironment invocation = .ok settings)
    (hendpoint : settings.liveEndpoint = .ok endpoint) (hcheck : checkLogin user word = .ok ())
    (hserver : (Call.login user word).IsUsable settings.serverUrl url)
    (htoken : Session.CanBeSent (settings.session machine.places).1.token)
    (hreachable : launch.peer.isReachable) (hhead : launch.peer.reply = .head status body)
    (hstatus : status.isSuccess) (htext : body.text? = some text)
    (hreply : Json.Wire.decode text = .ok reply) : (run machine launch).exitCode = 0 := by
  have hsaved : machine.settings = (c, "") := by rw [Machine.settings, hload]
  rcases hsession : settings.session machine.places with ⟨session, events⟩
  let app : App :=
    { config := settings
      configFile := machine.configFile
      session
      endpoint
      json := invocation.json }
  have hstart : App.start settings machine invocation.json = (.ok app, events) := by
    simp only [App.start, hsession, hendpoint, Except.map, app]
  rw [hsession] at htoken
  have hanswer : launch.peer.replyTo (.login user word) = .head status body := by
    unfold Peer.replyTo
    rw [if_pos hreachable]
    exact hhead
  -- The program was started; it ends with zero if the login leaves no complaint.
  have hresult := (Call.perform_login hserver hstatus htext hreply htoken).2.1
  have hdone : (app.ask launch.peer (.login user word)
      fun _ => Listing.text ["Logged in as " ++ user]).complaint = none := by
    simp only [App.ask, App.reportOf, hanswer, app, hresult]
  have hcredentials : App.credentials (.ok user) (some word) = .ok (user, word) := by
    rw [App.credentials_eq, hcheck]
    rfl
  have hlogin : (app.run launch.peer launch.input invocation.command).complaint = none := by
    simp [hcommand, App.run, App.login, App.loginName, hcredentials, hdone]
  simp [run, hinvocation, hsaved, hsettings, runCommand, hstart, Ending.warn, Ending.ofReport,
    Report.errorText?, hlogin]

/-- A login that succeeds saves the settings of the run with the name of the user. -/
theorem load_of_login {name password : Option String}
    (hinvocation : Invocation.ofArguments (launch.fullEnvironment passwordVariable)
      launch.arguments = .ok invocation)
    (hcommand : invocation.command = .login name password)
    (hload : Config.load machine.configPath machine.configFile = .ok c)
    (hplace : machine.configFile ≠ .blocked) (hexit : (run machine launch).exitCode = 0) :
    ∃ settings user, settingsOf c launch.fullEnvironment invocation = .ok settings ∧
      IsLoginName name c.lastUser launch.input user ∧
      Config.load machine.configPath (run machine launch).machine.configFile =
        .ok { settings with lastUser := some user } := by
  obtain ⟨settings, app, events, hsettings, hstart, hdone, hmachine⟩ :=
    of_exitCode_eq_zero hinvocation hload hexit
  obtain ⟨rfl, hfile, -⟩ := eq_of_start hstart
  rw [hcommand] at hdone hmachine
  obtain ⟨user, hname, hlogin⟩ := App.login_of_complaint_eq_none hdone
  rw [lastUser_of_settingsOf hsettings] at hname
  -- What stands there was loaded, so it is a file or nothing, and both can be written.
  obtain ⟨saved, hsave⟩ : ∃ saved,
      ({ app.config with lastUser := some user }).save app.configFile = .ok saved := by
    rw [hfile]
    cases hnode : machine.configFile with
    | absent => exact ⟨_, rfl⟩
    | file bytes => exact ⟨_, rfl⟩
    | directory =>
      rw [hnode] at hload
      cases hload
    | blocked => exact absurd hnode hplace
  have hfits : Config.Fits { app.config with lastUser := some user } :=
    (fits_of_settingsOf hsettings (Config.fits_of_load hload)).setLastUser (some user)
  have hafter : (run machine launch).machine.configFile = saved := by
    simp only [hmachine, App.leave, App.run, hlogin, hsave, Except.toOption, Option.getD_some]
  refine ⟨app.config, user, hsettings, hname, ?_⟩
  rw [hafter]
  exact Config.load_save hfits hsave machine.configPath

/-- A login that succeeds keeps the saved settings, but for the last user, exactly if they have all
that the environment and the invocation give. It saves the settings of the run with the name of the
user. -/
theorem login_keeps_settings_iff {name password : Option String}
    (hinvocation : Invocation.ofArguments (launch.fullEnvironment passwordVariable)
      launch.arguments = .ok invocation)
    (hcommand : invocation.command = .login name password)
    (hload : Config.load machine.configPath machine.configFile = .ok c)
    (hplace : machine.configFile ≠ .blocked) (hexit : (run machine launch).exitCode = 0) :
    ∃ settings user, settingsOf c launch.fullEnvironment invocation = .ok settings ∧
      IsLoginName name c.lastUser launch.input user ∧
      let after := Config.load machine.configPath (run machine launch).machine.configFile
      after = .ok { settings with lastUser := some user } ∧
        (after = .ok { c with lastUser := some user } ↔
          c.Agrees launch.fullEnvironment invocation) := by
  obtain ⟨settings, user, hsettings, hname, hafter⟩ :=
    load_of_login hinvocation hcommand hload hplace hexit
  refine ⟨settings, user, hsettings, hname, hafter, ?_⟩
  rw [hafter, Except.ok.injEq]
  exact settings_eq_iff hsettings (some user)

/-- A machine with a configuration file, and nothing else. -/
def Machine.holding (c : Config) : Machine where
  configPath := "config.json"
  configFile := .ofText c.fileText
  places := ⟨⟨"cache", .absent⟩, .empty⟩

/-- The file of such a machine is loaded. -/
theorem Machine.load_holding (h : c.Fits) :
    Config.load (Machine.holding c).configPath (Machine.holding c).configFile = .ok c :=
  Config.load_save h (rfl : c.save .absent = .ok (.ofText c.fileText)) _

/-- A run in which `alice` logs in and the server answers. -/
def Launch.ofAlice (arguments : List String) : Launch where
  arguments := arguments ++ ["login", "--name", "alice"]
  environment := .ofPairs [(passwordVariable, "secret")]
  definitions := none
  input := []
  peer :=
    .answering (.head .ok (.complete (Text.encode (LoginReply.json ⟨"T1"⟩).compact.toList)))

/-- The login of such a run succeeds at `http://news.test` if the token is kept in memory. -/
theorem exitCode_ofAlice {arguments : List String} (hc : c.Fits)
    (hinvocation :
      Invocation.ofArguments ((Launch.ofAlice arguments).fullEnvironment passwordVariable)
        (Launch.ofAlice arguments).arguments = .ok invocation)
    (hcommand : invocation.command = .login (some "alice") (some "secret"))
    (hsettings : settingsOf c (Launch.ofAlice arguments).fullEnvironment invocation =
      .ok { Config.empty with server := some "http://news.test", store := .memory }) :
    (run (.holding c) (.ofAlice arguments)).exitCode = 0 := by
  have htext :
      (Http.Body.complete (Text.encode (LoginReply.json ⟨"T1"⟩).compact.toList)).text? =
      some (LoginReply.json ⟨"T1"⟩).compact := by
    simp [Http.Body.text?]
  have hendpoint : Config.liveEndpoint
      { Config.empty with server := some "http://news.test", store := .memory } =
      .ok "ws://news.test/ws" := Call.eq_ok_of_toOption_eq_some (by decide +kernel)
  have hcheck : checkLogin "alice" "secret" = .ok () := checkLogin_eq_ok_iff.mpr (by decide +kernel)
  have hanonymous : Session.CanBeSent "" := by decide
  exact exitCode_of_login hinvocation hcommand (Machine.load_holding hc) hsettings hendpoint hcheck
    Call.isUsable_login hanonymous rfl rfl rfl htext (LoginReply.decode_compact ⟨"T1"⟩)

/-- Where nothing else is given, the file keeps its settings. -/
theorem login_keeps_settings_of_saved_server :
    let c : Config := { Config.empty with server := some "http://news.test", store := .memory }
    (run (.holding c) (.ofAlice [])).exitCode = 0 ∧
      Config.load "config.json" (run (.holding c) (.ofAlice [])).machine.configFile =
        .ok { c with lastUser := some "alice" } := by
  intro c
  have hc : c.Fits := by constructor <;> intro n hn <;> cases hn
  have hinvocation : Invocation.ofArguments ((Launch.ofAlice []).fullEnvironment passwordVariable)
      (Launch.ofAlice []).arguments =
      .ok
        { server := none
          live := none
          json := false
          command := .login (some "alice") (some "secret") } := rfl
  have hexit : (run (.holding c) (.ofAlice [])).exitCode = 0 :=
    exitCode_ofAlice hc hinvocation rfl rfl
  have hplace : (Machine.holding c).configFile ≠ .blocked := by
    simp [Machine.holding, Files.Node.ofText]
  obtain ⟨settings, user, -, hname, -, hkeeps⟩ :=
    login_keeps_settings_iff hinvocation rfl (Machine.load_holding hc) hplace hexit
  obtain rfl : user = "alice" := by simpa [IsLoginName, eq_comm] using hname
  refine ⟨hexit, hkeeps.mpr ⟨?_, ?_, ?_, ?_⟩⟩ <;> intro value hvalue <;> cases hvalue

/-- The address of a server that is given for one run replaces the one in the file. -/
theorem login_saves_given_server :
    let c : Config := { Config.empty with server := some "http://a.test", store := .memory }
    let arguments := ["--server", "http://news.test"]
    Config.load "config.json" (Machine.holding c).configFile = .ok c ∧
      (run (.holding c) (.ofAlice arguments)).exitCode = 0 ∧
      Config.load "config.json" (run (.holding c) (.ofAlice arguments)).machine.configFile =
        .ok { c with server := some "http://news.test", lastUser := some "alice" } ∧
      Config.load "config.json" (run (.holding c) (.ofAlice arguments)).machine.configFile ≠
        .ok { c with lastUser := some "alice" } := by
  intro c arguments
  have hc : c.Fits := by constructor <;> intro n hn <;> cases hn
  have hload := Machine.load_holding hc
  have hinvocation :
      Invocation.ofArguments ((Launch.ofAlice arguments).fullEnvironment passwordVariable)
      (Launch.ofAlice arguments).arguments =
      .ok { server := some "http://news.test", live := none, json := false
            command := .login (some "alice") (some "secret") } := rfl
  have hexit : (run (.holding c) (.ofAlice arguments)).exitCode = 0 :=
    exitCode_ofAlice hc hinvocation rfl rfl
  have hplace : (Machine.holding c).configFile ≠ .blocked := by
    simp [Machine.holding, Files.Node.ofText]
  obtain ⟨settings, user, hsettings, hname, hafter⟩ :=
    load_of_login hinvocation rfl hload hplace hexit
  obtain rfl : user = "alice" := by simpa [IsLoginName, eq_comm] using hname
  obtain rfl : { c with server := some "http://news.test" } = settings := Except.ok.inj hsettings
  refine ⟨hload, hexit, hafter, ?_⟩
  intro h
  have hserver : some "http://news.test" = some "http://a.test" :=
    congrArg Config.server (Except.ok.inj (hafter.symm.trans h))
  exact absurd hserver (by decide)

end Program

end NewsReader
