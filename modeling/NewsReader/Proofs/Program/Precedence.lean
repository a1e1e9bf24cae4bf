import NewsReader.Program.Run
import NewsReader.Proofs.Config.File
import NewsReader.Proofs.Text.Blank

/-!
# Where the settings of a run come from

A setting can come from three places: the invocation, a variable of the environment, and the file.
The first of these that has the setting gives it, and a variable that is blank does not have it
(`Chosen`). Only the kind of vault can be given in a wrong way, and then there are no settings at
all. A file that cannot be read, or that does not hold a configuration, is as good as one without
settings (`Files.Node.Saves`).

* `StoreKind.ofText_eq_ok_iff` — the texts that name a kind of vault.
* `settingsOf_eq_ok_iff` — the settings of a run are those that the rules give.
* `settings_by_precedence` — the settings of a run, from what stands on the machine.
-/

namespace NewsReader

open Json (Wire)

/-- The variable has this value, which is not blank. -/
def Environment.Gives (env : Environment) (name value : String) : Prop :=
  env name = some value ∧ ∃ c ∈ value.toList, ¬Text.isBlank c

/-! ### Kinds of vaults -/

namespace StoreKind

/-- The text names the kind, if blanks around the name and the case of its letters do not count. -/
def IsNamedBy (kind : StoreKind) (text : String) : Prop :=
  ∃ lead word trail, text.toList = lead ++ word ++ trail ∧
    (∀ c ∈ lead ++ trail, Text.isBlank c) ∧ word.map Char.toLower = kind.name.toList

variable {kind : StoreKind} {text : String}

/-- There are no blanks in the name of a kind. -/
theorem not_isBlank_of_mem_name {c : Char} (h : c ∈ kind.name.toList) : ¬Text.isBlank c := by
  have hname : kind.name.toList.all (!Text.isBlank ·) := by cases kind <;> decide
  simpa using List.all_eq_true.mp hname c h

/-- The name that is found in a text is that of the kind which the text names. -/
theorem nameIn_eq_iff : nameIn text = kind.name ↔ kind.IsNamedBy text := by
  rw [nameIn, ← String.toList_inj, String.toList_ofList]
  constructor
  · intro h
    obtain ⟨lead, trail, htext, hblank⟩ := Text.exists_of_trimChars text.toList
    exact ⟨lead, _, trail, htext, hblank, h⟩
  · rintro ⟨lead, word, trail, htext, hblank, hword⟩
    -- A blank would stand in the name as it is.
    have hvisible : ∀ c ∈ word, ¬Text.isBlank c := by
      intro c hc hblank
      have hmem : c.toLower ∈ kind.name.toList := hword ▸ List.mem_map_of_mem hc
      rw [Text.toLower_of_isBlank hblank] at hmem
      exact not_isBlank_of_mem_name hmem hblank
    rw [htext, Text.trimChars_append hblank (fun c hc => hvisible c (List.mem_of_mem_head? hc))
      fun c hc => hvisible c (List.mem_of_mem_getLast? hc), hword]

/-- A text gives the kind that it names. -/
theorem ofText_eq_ok_iff : ofText text = .ok kind ↔ kind.IsNamedBy text := by
  rw [← nameIn_eq_iff, @eq_comm _ (nameIn text), ← ofName?_eq_some_iff, ofText]
  cases ofName? (nameIn text) <;> simp

/-- A text gives no kind exactly if it names none. -/
theorem ofText_eq_error_iff :
    (∃ unknown, ofText text = .error unknown) ↔
      ∀ kind : StoreKind, ¬kind.IsNamedBy text := by
  simp only [← ofText_eq_ok_iff]
  cases ofText text <;> simp

end StoreKind

/-! ### Sources -/

/-- The rules for a setting. `given` is what the invocation gives, `Means` says which setting the
value of a variable is, and `saved` is the setting of the file. -/
inductive Chosen {α : Type} (given : Option α) (env : Environment) (name : String)
    (Means : String → α → Prop) (saved : α) : α → Prop where
  /-- The invocation gives the setting. -/
  | given {a : α} (hgiven : given = some a) : Chosen given env name Means saved a
  /-- The variable gives it, and the invocation does not. -/
  | variable {value : String} {a : α} (hgiven : given = none) (hvalue : env.Gives name value)
    (hmeans : Means value a) : Chosen given env name Means saved a
  /-- Neither gives it, so it is the one of the file. -/
  | saved (hgiven : given = none) (hvariable : ∀ value, ¬env.Gives name value) :
    Chosen given env name Means saved saved

namespace Config

/-- The value of a variable is given if it is not blank. -/
theorem given_eq_some_iff {env : Environment} {name value : String} :
    given env name = some value ↔ env.Gives name value := by
  simp [given, Option.filter_eq_some_iff, Environment.Gives, Text.isBlankText]

/-- No value is given where the variable has none that is not blank. -/
theorem given_eq_none_iff {env : Environment} {name : String} :
    given env name = none ↔ ∀ value, ¬env.Gives name value := by
  simp only [← given_eq_some_iff, Option.eq_none_iff_forall_ne_some, ne_eq]

/-- For a text, the first source that has it is the first in a row. -/
theorem chosen_text_iff {flag saved result : Option String} {env : Environment} {name : String} :
    Chosen (flag.map some) env name (fun value text => text = some value) saved result ↔
      result = flag.or ((given env name).or saved) := by
  constructor
  · rintro (hgiven | ⟨hgiven, hvalue, rfl⟩ | ⟨hgiven, hvariable⟩)
    · obtain ⟨text, rfl, rfl⟩ := Option.map_eq_some_iff.mp hgiven
      rfl
    · rw [Option.map_eq_none_iff.mp hgiven, given_eq_some_iff.mpr hvalue]
      rfl
    · rw [Option.map_eq_none_iff.mp hgiven, given_eq_none_iff.mpr hvariable]
      rfl
  · rintro rfl
    cases flag with
    | some text => exact .given rfl
    | none =>
      cases hvalue : given env name with
      | some value => exact .variable rfl (given_eq_some_iff.mp hvalue) rfl
      | none => exact .saved rfl (given_eq_none_iff.mp hvalue)

/-- A kind of vault is chosen if it is the one that the variable names, or else the saved one. -/
theorem chosen_kind_iff {env : Environment} {name : String} {saved kind : StoreKind} :
    Chosen none env name (fun value kind => kind.IsNamedBy value) saved kind ↔
      ((given env name).map StoreKind.ofText).getD (.ok saved) = .ok kind := by
  constructor
  · rintro (⟨⟨⟩⟩ | ⟨-, hvalue, hmeans⟩ | ⟨-, hvariable⟩)
    · rw [given_eq_some_iff.mpr hvalue, Option.map_some, Option.getD_some]
      exact StoreKind.ofText_eq_ok_iff.mpr hmeans
    · rw [given_eq_none_iff.mpr hvariable]
      rfl
  · intro h
    cases hvalue : given env name with
    | some value =>
      rw [hvalue, Option.map_some, Option.getD_some] at h
      exact .variable rfl (given_eq_some_iff.mp hvalue) (StoreKind.ofText_eq_ok_iff.mp h)
    | none =>
      rw [hvalue] at h
      obtain rfl := Except.ok.inj h
      exact .saved rfl (given_eq_none_iff.mp hvalue)

/-- The settings are those that the rules give. An invocation names neither a kind of vault nor a
directory, and of the last three settings only the file knows. -/
structure Resolves (saved : Config) (env : Environment) (i : Program.Invocation)
    (settings : Config) : Prop where
  /-- The address of the server. -/
  server : Chosen (i.server.map some) env serverVariable (fun value url => url = some value)
    saved.server settings.server
  /-- The address where news are pushed. -/
  live : Chosen (i.live.map some) env liveVariable (fun value url => url = some value)
    saved.live settings.live
  /-- How the token is kept. -/
  store : Chosen none env storeVariable (fun value kind => kind.IsNamedBy value) saved.store
    settings.store
  /-- The directory for logs. -/
  logDirectory :
    Chosen ((none : Option String).map some) env logVariable (fun value path => path = some value)
    saved.logDirectory settings.logDirectory
  /-- The time between two pings. -/
  heartbeat : settings.heartbeat = saved.heartbeat
  /-- How long to wait for a reply. -/
  timeout : settings.timeout = saved.timeout
  /-- The name of the last login. -/
  lastUser : settings.lastUser = saved.lastUser

end Config

/-! ### What is saved -/

/-- The node holds the configuration: it is a file whose text gives it. -/
def Files.Node.Holds (node : Files.Node) (c : Config) : Prop :=
  ∃ text, node = .ofText text ∧ Wire.decode text = .ok c

/-- The configuration that counts as saved: the one that the node holds, and the one without
settings if it holds none. -/
def Files.Node.Saves (node : Files.Node) (c : Config) : Prop :=
  node.Holds c ∨ (∀ other, ¬node.Holds other) ∧ c = .empty

/-- The text of a node is read exactly if the node is the file with that text. -/
theorem Files.Node.readText_eq_some_iff (node : Files.Node) {text : String} :
    node.readText = .ok (some text) ↔ node = .ofText text := by
  cases node with
  | file bytes =>
    simp only [readText, ofText, file.injEq]
    cases hdecode : Text.decode? bytes with
    | none =>
      simp only [reduceCtorEq, false_iff]
      rintro rfl
      simp at hdecode
    | some cs =>
      rw [Text.decode?_eq_some_iff] at hdecode
      subst hdecode
      simp [← String.toList_inj]
  | _ => simp [readText, ofText]

namespace Config

variable {path : String} {node : Files.Node} {c : Config}

/-- A configuration that a file holds is loaded. -/
theorem load_of_holds (h : node.Holds c) : load path node = .ok c := by
  obtain ⟨text, htext, hdecode⟩ := h
  rw [load, node.readText_eq_some_iff.mpr htext]
  dsimp only
  rw [hdecode]
  rfl

/-- A configuration that is loaded counts as saved. -/
theorem saves_of_load (h : load path node = .ok c) : node.Saves c := by
  cases hread : node.readText with
  | error cause =>
    rw [load, hread] at h
    cases h
  | ok text? =>
    cases text? with
    | none =>
      rw [load, hread] at h
      -- There is no file, so the settings are the empty ones and no text saves others.
      refine .inr ⟨?_, (Except.ok.inj h).symm⟩
      rintro other ⟨text, htext, -⟩
      rw [node.readText_eq_some_iff.mpr htext] at hread
      cases hread
    | some text =>
      rw [load, hread] at h
      refine .inl ⟨text, node.readText_eq_some_iff.mp hread, ?_⟩
      dsimp only at h
      cases hdecode : (Wire.decode text : Except Json.Fault Config) with
      | error fault =>
        rw [hdecode] at h
        cases h
      | ok other =>
        rw [hdecode] at h
        obtain rfl := Except.ok.inj h
        rfl

end Config

/-! ### The settings of a run -/

namespace Program

open Config (chosen_text_iff chosen_kind_iff given given_eq_some_iff serverVariable liveVariable
  storeVariable logVariable)

/-- What is loaded is what counts as saved. -/
theorem Machine.saves_settings (m : Machine) : m.configFile.Saves m.settings.1 := by
  cases hload : Config.load m.configPath m.configFile with
  | ok c =>
    have hsettings : m.settings.1 = c := by rw [settings, hload]
    exact hsettings ▸ Config.saves_of_load hload
  | error fault =>
    have hsettings : m.settings.1 = .empty := by rw [settings, hload]
    refine hsettings ▸ .inr ⟨fun c hc => ?_, rfl⟩
    rw [Config.load_of_holds hc] at hload
    cases hload

variable {saved settings : Config} {env : Environment} {i : Invocation}

/-- There are settings exactly if no variable names a kind of vault in a wrong way. -/
theorem settingsOf_eq_error_iff :
    (∃ unknown, settingsOf saved env i = .error unknown) ↔
      ∃ value, env.Gives storeVariable value ∧
        ∀ kind : StoreKind, ¬kind.IsNamedBy value := by
  simp only [← given_eq_some_iff, ← StoreKind.ofText_eq_error_iff, settingsOf, Config.override]
  cases given env storeVariable with
  | none => simp
  | some value => cases hkind : StoreKind.ofText value <;> simp [hkind]

/-- The kind of vault is settled first, and nothing else can go wrong. -/
theorem settingsOf_eq : settingsOf saved env i =
    (((given env storeVariable).map StoreKind.ofText).getD (.ok saved.store)).map fun kind =>
      { saved with
        server := i.server.or ((given env serverVariable).or saved.server)
        live := i.live.or ((given env liveVariable).or saved.live)
        store := kind
        logDirectory := (given env logVariable).or saved.logDirectory } := by
  unfold settingsOf Config.override
  cases given env storeVariable with
  | none => rfl
  | some value => cases hkind : StoreKind.ofText value <;> simp [hkind] <;> rfl

/-- The settings of a run are those that the rules give. -/
theorem settingsOf_eq_ok_iff :
    settingsOf saved env i = .ok settings ↔ saved.Resolves env i settings := by
  rw [settingsOf_eq]
  constructor
  · intro h
    cases hkind : ((given env storeVariable).map StoreKind.ofText).getD (.ok saved.store) with
    | error unknown =>
      rw [hkind] at h
      cases h
    | ok kind =>
      rw [hkind] at h
      obtain rfl := Except.ok.inj h
      refine ⟨?_, ?_, chosen_kind_iff.mpr hkind, ?_, rfl, rfl, rfl⟩ <;> rw [chosen_text_iff]
      rw [Option.none_or]
  · intro h
    rw [chosen_kind_iff.mp h.store, Except.map]
    rw [← chosen_text_iff.mp h.server, ← chosen_text_iff.mp h.live,
      ← @Option.none_or _ ((given env logVariable).or _),
      ← chosen_text_iff.mp h.logDirectory, ← h.heartbeat, ← h.timeout, ← h.lastUser]

/-- What the settings of a run are, whatever stands on the machine, in the environment, and in the
invocation: there are none exactly if a variable names a kind of vault in a wrong way, and otherwise
each is the first that is given. -/
theorem settings_by_precedence (m : Machine) (env : Environment) (i : Invocation) :
    m.configFile.Saves m.settings.1 ∧
      ((∃ unknown, settingsOf m.settings.1 env i = .error unknown) ↔
        ∃ value, env.Gives storeVariable value ∧
          ∀ kind : StoreKind, ¬kind.IsNamedBy value) ∧
      ∀ settings, settingsOf m.settings.1 env i = .ok settings ↔
        m.settings.1.Resolves env i settings :=
  ⟨m.saves_settings, settingsOf_eq_error_iff, fun _ => settingsOf_eq_ok_iff⟩

end Program

end NewsReader
