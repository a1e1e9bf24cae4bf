import NewsReader.Proofs.Config.Trees
import NewsReader.Proofs.Records.RoundTrip
import NewsReader.Proofs.Session.Restart

/-!
# Torn files are refused

Neither the session file nor the configuration file is written in one step, so that a crash can
leave any part of its bytes from the front. A record ends with its bracket. So if such a part were
read as a record, the record would end before the whole text does, and the whole text would be read
only up to there.

* `RecordShape.decode_torn` — a front of a written record is refused.
* `Files.Node.readText_torn` — a file that was cut at whatever byte is read as a front of its
  text, if at all.
* `torn_files_refused` — the session file and the configuration file.
-/

namespace NewsReader

open Json (Layout Reader RecordShape Value Values)

/-- A front of a written record is refused, unless it is the whole. -/
theorem Json.RecordShape.decode_torn {R : Type} {shape : RecordShape R}
    {values : Values shape.types} {m : String × Value} {ms : List (String × Value)}
    (hfields : shape.fields.ReadTrees)
    (hwrites : shape.fields.Writes (.indented 0) values (m :: ms))
    (hnames : shape.fields.names.Nodup) {front more : List Char}
    (htext : (Value.object (m :: ms)).indented.toList = front ++ more) (hmore : more ≠ []) :
    ∃ fault, shape.reader.decode (String.ofList front) = .error fault := by
  cases hdecode : shape.reader.decode (String.ofList front) with
  | error fault => exact ⟨fault, rfl⟩
  | ok r =>
    obtain ⟨rest, hfront, -⟩ := Reader.decode_eq_ok.mp hdecode
    rw [String.toList_ofList] at hfront
    have hwhole : shape.reader.run (front ++ more) = .ok (shape.build values, []) := by
      have hread := RecordShape.reads_object hwrites hnames [] [] (by simp) trivial
      rw [← htext, Value.indented, String.toList_ofList, Layout.indented_object]
      simpa using hread
    -- The front ends with its bracket, so that the whole would leave what was cut off.
    rw [RecordShape.run_append hfields hfront more] at hwhole
    have hnil : rest ++ more = [] := (Prod.mk.inj (Except.ok.inj hwhole)).2
    exact absurd (List.append_eq_nil_iff.mp hnil).2 hmore

namespace Files.Node

/-- A file that is cut off is read as a front of its text, if it is not cut within a character. -/
theorem readText_torn {text : String} {cut : Nat} (hcut : cut < (Text.encode text.toList).length) :
    (∃ cause, (file ((Text.encode text.toList).take cut)).readText = .error cause) ∨
      ∃ front more, (file ((Text.encode text.toList).take cut)).readText =
        .ok (some (String.ofList front)) ∧ text.toList = front ++ more ∧ more ≠ [] := by
  rw [readText]
  cases hdecode : Text.decode? ((Text.encode text.toList).take cut) with
  | none => exact .inl ⟨_, rfl⟩
  | some front =>
    obtain ⟨more, htext, hmore⟩ := Text.exists_append_of_decode?_take hdecode hcut
    exact .inr ⟨front, more, rfl, htext, hmore⟩

/-- What stands in the place of a file that was written. -/
theorem eq_of_write {text : String} {node written : Files.Node}
    (h : node.write text = .ok written) : written = .ofText text := by
  unfold write at h
  split at h <;> cases h
  rfl

end Files.Node

/-! ### The session file -/

namespace Vault

/-- The token of the session file is a tree. -/
theorem SessionFile.readTrees : shape.fields.ReadTrees :=
  ⟨Reader.readsTrees_text _, trivial⟩

/-- A front of the text of a session file is refused. -/
theorem SessionFile.decode_torn {token : String} {front more : List Char}
    (htext : (text token).toList = front ++ more) (hmore : more ≠ []) :
    ∃ cause, decode (String.ofList front) = .error cause := by
  have hwrites : shape.fields.Writes (.indented 0) (token, ()) [("token", .text token)] :=
    .member (Layout.reads_text _ token) .nil
  obtain ⟨cause, hdecode⟩ := RecordShape.decode_torn readTrees hwrites (by decide) htext hmore
  refine ⟨cause, ?_⟩
  rw [decode, hdecode]
  rfl

namespace CacheDirectory

variable {d d' : CacheDirectory} {token : String}

/-- What stands in the place of the session file after saving. -/
theorem session_of_save (h : d.save token = (.ok (), d')) :
    d'.session = .ofText (SessionFile.text token) := by
  unfold save at h
  split at h
  · cases h
  · split at h
    · cases h
    · next node hwrite =>
      obtain rfl := (Prod.mk.inj h).2
      exact Files.Node.eq_of_write hwrite

/-- What is put in the place of the session file stands there. -/
theorem session_putSession (node : Files.Node) : (d.putSession node).session = node := by
  unfold putSession session
  cases d.place <;> rfl

/-- A session file that is cut off is refused. -/
theorem load_torn {cut : Nat} (hcut : cut < (Text.encode (SessionFile.text token).toList).length) :
    ∃ fault, (d.putSession
      (.file ((Text.encode (SessionFile.text token).toList).take cut))).load = .error fault := by
  rw [load, session_putSession]
  -- Cut within a character, the file is no text and refused as such; else its text is a front of
  -- the record.
  obtain ⟨cause, hread⟩ | ⟨front, more, hread, htext, hmore⟩ :=
    Files.Node.readText_torn hcut
  · exact ⟨.sessionFile .load cause, by rw [hread]⟩
  · obtain ⟨cause, hdecode⟩ := SessionFile.decode_torn htext hmore
    refine ⟨.content cause, ?_⟩
    rw [hread]
    dsimp only
    rw [hdecode]

end CacheDirectory

end Vault

/-! ### The configuration file -/

namespace Config

variable {c : Config}

/-- What is written when a configuration is saved. -/
theorem eq_of_save {node saved : Files.Node} (h : c.save node = .ok saved) :
    saved = .ofText c.fileText :=
  Files.Node.eq_of_write h

/-- A front of the text of a configuration file is refused. -/
theorem decode_torn (hfits : c.Fits) {front more : List Char}
    (htext : c.fileText.toList = front ++ more) (hmore : more ≠ []) :
    ∃ cause, (Json.Wire.decode (String.ofList front) : Except Json.Fault Config) = .error cause :=
  RecordShape.decode_torn readTrees (writes_members hfits (.indented 0)) (by decide) htext hmore

/-- A configuration file that is cut off is refused. -/
theorem load_torn (hfits : c.Fits) {cut : Nat} (hcut : cut < (Text.encode c.fileText.toList).length)
    (path : String) :
    ∃ fault, load path (.file ((Text.encode c.fileText.toList).take cut)) = .error fault := by
  rw [load]
  obtain ⟨cause, hread⟩ | ⟨front, more, hread, htext, hmore⟩ :=
    Files.Node.readText_torn hcut
  · exact ⟨.unreadable path cause, by rw [hread]⟩
  · obtain ⟨cause, hdecode⟩ := decode_torn hfits htext hmore
    refine ⟨.content cause, ?_⟩
    rw [hread]
    dsimp only
    rw [hdecode]
    rfl

end Config

/-! ### Files after a crash -/

/-- A session that is restored from a vault that cannot be read is anonymous. -/
theorem Session.anonymous_of_load_error {v : Vault} (h : ∃ fault, v.load = .error fault) :
    (Session.restore v).1.held = none ∧ (Session.restore v).1.state = .anonymous := by
  obtain ⟨fault, h⟩ := h
  have hheld : (Session.restore v).1.held = none := by
    simp only [Session.restore, h]
  exact ⟨hheld, by simp [Session.state, Session.token, hheld]⟩

/-- Files that were written in part are refused. Wherever the bytes of a saved session file are cut,
loading fails and a session that is restored from there is anonymous; wherever those of a saved
configuration are cut, with any strings in it, any numbers of 64 bits and any kind of vault, loading
fails. -/
theorem torn_files_refused :
    (∀ (d d' : Vault.CacheDirectory) (token : String), d.save token = (.ok (), d') →
      ∃ bytes, d'.session = .file bytes ∧ ∀ cut < bytes.length,
        (∃ fault, (d'.putSession (.file (bytes.take cut))).load = .error fault) ∧
          (Session.restore (.directory (d'.putSession (.file (bytes.take cut))))).1.held = none ∧
          (Session.restore (.directory (d'.putSession (.file (bytes.take cut))))).1.state =
            .anonymous) ∧
      ∀ (server live : Option String) (store : StoreKind) (heartbeat timeout : Option UInt64)
        (logDirectory lastUser : Option String) (path : String) (node saved : Files.Node),
        (⟨server, live, store, heartbeat.map UInt64.toNat, timeout.map UInt64.toNat,
          logDirectory, lastUser⟩ :
          Config).save node = .ok saved →
        ∃ bytes, saved = .file bytes ∧ ∀ cut < bytes.length,
          ∃ fault, Config.load path (.file (bytes.take cut)) = .error fault := by
  constructor
  · intro d d' token hsave
    refine ⟨_, Vault.CacheDirectory.session_of_save hsave, fun cut hcut => ?_⟩
    have hload := Vault.CacheDirectory.load_torn (d := d') hcut
    exact ⟨hload, Session.anonymous_of_load_error hload⟩
  · intro server live store heartbeat timeout logDirectory lastUser path node saved hsave
    exact ⟨_, Config.eq_of_save hsave, fun cut hcut =>
      Config.load_torn
        ⟨fun _ => Json.toNat_lt_wordLimit, fun _ => Json.toNat_lt_wordLimit⟩ hcut path⟩

/-- A session file that ends within a letter and one that ends within an escape are refused, and so
is a configuration that ends within a letter of its server. -/
theorem torn_files_refused_within_letters :
    (∃ fault,
      (⟨"/cache", .directory Vault.privateMode
        (.file (Text.encode "\x7b\n  \"token\": \"".toList ++ [0xC3]))⟩ :
      Vault.CacheDirectory).load = .error fault) ∧
    (∃ fault, (⟨"/cache",
      .directory Vault.privateMode (.file (Text.encode "\x7b\n  \"token\": \"é\\".toList))⟩ :
      Vault.CacheDirectory).load = .error fault) ∧
    ∃ fault, Config.load "config.json"
      (.file (Text.encode "\x7b\n  \"server_url\": \"".toList ++ [0xC3])) = .error fault := by
  obtain ⟨bytes, hsession, hcuts⟩ := torn_files_refused.1 ⟨"/cache", .absent⟩
    ⟨"/cache", .directory Vault.privateMode (.ofText (Vault.SessionFile.text "é\""))⟩ "é\""
      rfl
  obtain ⟨saved, hsaved, hconfig⟩ := torn_files_refused.2 (some "é") none .file none (some 30)
    none none "config.json"
    .absent (.ofText (Config.fileText ⟨some "é", none, .file, none, some 30, none, none⟩)) rfl
  obtain rfl := Files.Node.file.inj hsession
  obtain rfl := Files.Node.file.inj hsaved
  rw [Vault.SessionFile.text, Json.Value.indented, String.toList_ofList] at hcuts
  rw [Config.fileText, Json.Value.indented, String.toList_ofList] at hconfig
  exact ⟨(hcuts 15 (by decide +kernel)).1, (hcuts 17 (by decide +kernel)).1,
    hconfig 20 (by decide +kernel)⟩

end NewsReader
