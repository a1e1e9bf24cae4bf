import NewsReader.Config.Basic
import NewsReader.Proofs.Json.Values
import NewsReader.Proofs.Json.Written
import NewsReader.Proofs.Text.Utf8

/-!
# The configuration file

What is saved is loaded again. The only limit is that of the two numbers, which have to fit in 64
bits; every configuration that has been loaded keeps it (`Config.Fits`).

* `Config.decode_fileText` — the text of a file is read as the configuration that it was written
  for.
* `Config.fits_of_load` — loaded numbers fit.
* `Config.load_save` — a configuration that was saved is loaded.
-/

namespace NewsReader

open Json (Field Fields Layout Reader RecordShape Value Values Wire wordLimit)

/-! ### Kinds of vaults -/

/-- The kinds have different names. -/
theorem StoreKind.ofName?_eq_some_iff {kind : StoreKind} {name : String} :
    ofName? name = some kind ↔ kind.name = name := by
  constructor
  · intro h
    simpa using List.find?_some h
  · rintro rfl
    cases kind <;> rfl

/-- A key is taken as the kind that has it as its name. -/
theorem StoreKind.ofKey_eq_ok_iff {kind : StoreKind} {key : String} :
    ofKey key = .ok kind ↔ kind.name = key := by
  rw [← ofName?_eq_some_iff, ofKey]
  cases ofName? key <;> simp

/-- The name of a kind is read as that kind. -/
theorem StoreKind.reads_name (kind : StoreKind) : reader.Reads (Json.textChars kind.name) kind := by
  intro blanks rest hblanks hrest
  have hstart := (Json.startsValue_textChars kind.name).skipSpace hblanks rest
  have hname := Reader.reads_text "variant identifier" kind.name [] rest (by simp) hrest
  rw [Json.textChars_append] at hstart
  rw [List.nil_append, Json.textChars_append] at hname
  simp only [reader, Json.textChars_append, hstart, ↓reduceIte, nameReader,
    Reader.filterMap, hname, ofKey_eq_ok_iff.mpr rfl, Except.map]

namespace Config

/-! ### Written configurations -/

/-- The numbers of the configuration fit in 64 bits. -/
structure Fits (c : Config) : Prop where
  /-- The time between two pings fits. -/
  heartbeat : ∀ n ∈ c.heartbeat, n < wordLimit
  /-- The time to wait for a reply fits. -/
  timeout : ∀ n ∈ c.timeout, n < wordLimit

/-- Who logged in last makes no difference to the numbers. -/
theorem Fits.setLastUser {c : Config} (h : c.Fits) (user : Option String) :
    Fits { c with lastUser := user } :=
  ⟨h.heartbeat, h.timeout⟩

/-- The values of the fields. -/
def values (c : Config) : Values shape.types :=
  (c.server, c.live, c.store, c.heartbeat, c.timeout, c.logDirectory, c.lastUser, ())

/-- The members of the file. -/
def members (c : Config) : List (String × Value) :=
  [("server_url", .ofText? c.server), ("live_url", .ofText? c.live),
    ("token_store", .text c.store.name), ("heartbeat_interval_ms", .ofNat? c.heartbeat),
    ("request_timeout_secs", .ofNat? c.timeout), ("log_dir", .ofText? c.logDirectory),
    ("last_username", .ofText? c.lastUser)]

/-- The members are read back as the fields, in any layout. -/
theorem writes_members {c : Config} (h : c.Fits) (l : Layout) :
    shape.fields.Writes l c.values c.members := by
  have hstore : StoreKind.reader.Reads (l.print (.text c.store.name)) c.store :=
    l.print_text c.store.name ▸ StoreKind.reads_name c.store
  exact .member (Layout.reads_text? _ _) <| .member (Layout.reads_text? _ _) <| .member hstore <|
    .member (Layout.reads_nat? h.heartbeat) <| .member (Layout.reads_nat? h.timeout) <|
    .member (Layout.reads_text? _ _) <| .member (Layout.reads_text? _ _) .nil

/-- The text of a file is read as the configuration that it was written for. -/
theorem decode_fileText {c : Config} (h : c.Fits) : Wire.decode c.fileText = .ok c :=
  RecordShape.decode_indented (writes_members h (.indented 0)) (by decide)

/-! ### Loaded configurations -/

/-- The numbers of a configuration that is read fit. -/
theorem fits_of_decode {text : String} {c : Config} (h : Wire.decode text = .ok c) : c.Fits := by
  have hdecode : shape.reader.decode text = .ok c := h
  obtain ⟨⟨server, live, store, heartbeat, timeout, logDirectory, lastUser, ⟨⟩⟩, hgives,
      rfl⟩ :=
    RecordShape.gives_of_decode hdecode
  obtain ⟨-, -, -, hheartbeat, htimeout, -⟩ := hgives
  constructor
  · intro n hn
    obtain ⟨_, _, hrun⟩ := Field.run_of_gives_optional hheartbeat hn
    exact Reader.lt_of_natural hrun
  · intro n hn
    obtain ⟨_, _, hrun⟩ := Field.run_of_gives_optional htimeout hn
    exact Reader.lt_of_natural hrun

/-- The numbers of a configuration that is loaded fit. -/
theorem fits_of_load {path : String} {node : Files.Node} {c : Config} (h : load path node = .ok c) :
    c.Fits := by
  simp only [load] at h
  split at h
  · cases h
  · obtain rfl := Except.ok.inj h
    constructor <;> intro n hn <;> cases hn
  · next text _ =>
    cases hdecode : (Wire.decode text : Except Json.Fault Config) with
    | error fault =>
      rw [hdecode] at h
      cases h
    | ok c' =>
      rw [hdecode] at h
      obtain rfl := Except.ok.inj h
      exact fits_of_decode hdecode

/-- A configuration that was saved is loaded. -/
theorem load_save {c : Config} (h : c.Fits) {node saved : Files.Node}
    (hsave : c.save node = .ok saved) (path : String) : load path saved = .ok c := by
  have hsaved : saved = .ofText c.fileText := by
    cases node <;> simp [save, Files.Node.write] at hsave <;> exact hsave.symm
  have hread : saved.readText = .ok (some c.fileText) := by
    rw [hsaved]
    simp [Files.Node.readText, Files.Node.ofText]
  simp only [load, hread, decode_fileText h]
  rfl

end Config

end NewsReader
