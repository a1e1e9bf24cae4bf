import NewsReader.Proofs.Vault.Content

/-!
# The same vault with another token

A vault tells its caller whether an operation succeeded, and if it did not, why. For none of this it
looks at the token that it keeps: saving and clearing write over the token, and a refusal comes
before that. So two vaults that differ in their tokens alone cannot be told apart by a change, and a
change that succeeds leaves no difference between them.

`Vault.mapToken` puts another token in the place of the kept one, in the encoding of each kind of
vault.

* `Vault.load_mapToken` — loading gives the other token, and the same faults.
* `Vault.save_mapToken`, `Vault.clear_mapToken` — a change comes to the same.
* `Vault.mapToken_meet` — and so does an incident.
-/

namespace NewsReader.Vault

/-! ### Another token -/

/-- The bytes of a secret, with another token in the place of its own. -/
def mapSecret (f : String → String) (bytes : List UInt8) : List UInt8 :=
  match Text.decode? bytes with
  | some cs => Text.encode (f (String.ofList cs)).toList
  | none => bytes

/-- An entry of the keychain, with another token if it is that of the slot. -/
def mapEntry (f : String → String) (slot : Slot) (entry : Slot × List UInt8) :
    Slot × List UInt8 :=
  (entry.1, if entry.1 = slot then mapSecret f entry.2 else entry.2)

/-- The keychain with another token in the slot. -/
def Keychain.mapToken (f : String → String) (slot : Slot) (k : Keychain) : Keychain :=
  { k with entries := k.entries.map (mapEntry f slot) }

/-- The directory with another token in the session file. -/
def CacheDirectory.mapToken (f : String → String) (d : CacheDirectory) : CacheDirectory :=
  match d.load with
  | .ok (some token) => d.putSession (.ofText (SessionFile.text (f token)))
  | _ => d

/-- The vault with another token in the place of the one that it keeps, if it keeps one. -/
def mapToken (f : String → String) : Vault → Vault
  | memory token => memory (token.map f)
  | unreliable token refused => unreliable (token.map f) refused
  | directory d => directory (d.mapToken f)
  | keychain slot k => keychain slot (k.mapToken f slot)

variable {f : String → String}

theorem mapSecret_mapSecret (hf : ∀ token, f (f token) = f token) (bytes : List UInt8) :
    mapSecret f (mapSecret f bytes) = mapSecret f bytes := by
  cases h : Text.decode? bytes with
  | none => simp [mapSecret, h]
  | some cs => simp [mapSecret, h, hf]

/-! ### The keychain -/

namespace Keychain

variable {k : Keychain} {slot : Slot}

/-- Whether an operation is refused is no matter of the token. -/
@[simp]
theorem refusal?_mapToken (operations : List Operation) :
    (k.mapToken f slot).refusal? operations = k.refusal? operations := rfl

/-- The secret in the slot is that of the other token. -/
theorem find?_mapToken : (k.mapToken f slot).find? slot = (k.find? slot).map (mapSecret f) := by
  simp only [find?, mapToken]
  -- The first entry of the slot is found, and a map leaves the slots as they are.
  induction k.entries with
  | nil => rfl
  | cons entry entries ih =>
    obtain ⟨own, secret⟩ := entry
    by_cases hown : own = slot
    · simp [mapEntry, hown]
    · have hne : (slot == own) = false := by simpa using Ne.symm hown
      simp only [List.map_cons, mapEntry, List.lookup_cons, hne, ih]

/-- Entries are found by their slots, so those that go are the same. -/
theorem filter_mapEntry (other : Slot) (entries : List (Slot × List UInt8)) :
    (entries.map (mapEntry f slot)).filter (·.1 ≠ other) =
      (entries.filter (·.1 ≠ other)).map (mapEntry f slot) := by
  rw [List.filter_map]
  rfl

/-- Without the slot, the keychain is the same. -/
theorem erase_mapToken : (k.mapToken f slot).erase slot = k.erase slot := by
  simp only [erase, mapToken, filter_mapEntry, Keychain.mk.injEq, and_true]
  refine (List.map_congr_left fun entry hentry => ?_).trans (List.map_id _)
  have hne : entry.1 ≠ slot := by simpa using (List.mem_filter.mp hentry).2
  simp [mapEntry, hne]

theorem mapEntry_comp (hf : ∀ token, f (f token) = f token) :
    mapEntry f slot ∘ mapEntry f slot = mapEntry f slot := by
  funext entry
  by_cases hentry : entry.1 = slot <;> simp [mapEntry, hentry, mapSecret_mapSecret hf]

theorem mapToken_mapToken (hf : ∀ token, f (f token) = f token) :
    (k.mapToken f slot).mapToken f slot = k.mapToken f slot := by
  simp only [mapToken, List.map_map, mapEntry_comp hf]

/-- A secret that somebody else puts into a slot takes the place of the one there, whatever that
is. -/
theorem mapToken_put (hf : ∀ token, f (f token) = f token) (other : Slot) (secret : List UInt8) :
    ((k.mapToken f slot).put other secret).mapToken f slot =
      (k.put other secret).mapToken f slot := by
  simp only [put, erase, mapToken, filter_mapEntry, List.map_cons, List.map_map, mapEntry_comp hf]

end Keychain

/-! ### The directory -/

namespace CacheDirectory

variable {d : CacheDirectory}

theorem mapToken_of_load {token : String} (h : d.load = .ok (some token)) :
    d.mapToken f = d.putSession (.ofText (SessionFile.text (f token))) := by
  simp [mapToken, h]

/-- Without a session file there is no token. -/
theorem mapToken_of_no_file (h : ∀ bytes, d.session ≠ .file bytes) : d.mapToken f = d := by
  have hload : ∀ token, d.load ≠ .ok (some token) := by
    intro token
    unfold load
    cases hnode : d.session with
    | file bytes => exact absurd hnode (h bytes)
    | _ => simp [Files.Node.readText]
  unfold mapToken
  split
  · next token heq => exact absurd heq (hload token)
  · rfl

/-- Another token leaves the path and the rights of the directory. -/
theorem mapToken_of_file {mode : Nat} {bytes : List UInt8}
    (h : d.place = .directory mode (.file bytes)) :
    ∃ bytes', d.mapToken f = { d with place := .directory mode (.file bytes') } := by
  unfold mapToken
  split
  · exact ⟨_, by rw [putSession, h]; rfl⟩
  · exact ⟨bytes, by rw [← h]⟩

/-- There is a session file in the directory, or none. -/
theorem file_cases (d : CacheDirectory) :
    (∃ mode bytes, d.place = .directory mode (.file bytes)) ∨
      ∀ bytes, d.session ≠ .file bytes := by
  rcases hplace : d.place with _ | _ | ⟨mode, node⟩
  · exact .inr fun bytes => by simp [session, hplace]
  · exact .inr fun bytes => by simp [session, hplace]
  · cases node with
    | file bytes => exact .inl ⟨mode, bytes, rfl⟩
    | _ => exact .inr fun bytes => by simp [session, hplace]

/-- The other token is loaded. -/
theorem load_mapToken : (d.mapToken f).load = d.load.map (Option.map f) := by
  unfold mapToken
  split
  · next token hload =>
    rw [hload]
    -- What is put in the place of the file is what is loaded from there.
    have hsession : (d.putSession (.ofText (SessionFile.text (f token)))).session =
        .ofText (SessionFile.text (f token)) := by
      unfold putSession
      cases d.place <;> rfl
    rw [load, hsession]
    simp [Files.Node.ofText, Files.Node.readText, SessionFile.decode_text, Except.map]
  · next hload =>
    cases hresult : d.load with
    | error fault => rfl
    | ok token =>
      cases token with
      | none => rfl
      | some token => exact absurd hresult (hload token)

/-- Of two files that are put in one place, the second stays. -/
theorem putSession_putSession (first second : Files.Node) :
    (d.putSession first).putSession second = d.putSession second := by
  unfold putSession
  cases d.place <;> rfl

theorem mapToken_mapToken (hf : ∀ token, f (f token) = f token) :
    (d.mapToken f).mapToken f = d.mapToken f := by
  cases htoken : d.load with
  | error fault =>
    have hsame : d.mapToken f = d := by simp [mapToken, htoken]
    rw [hsame, hsame]
  | ok token =>
    cases token with
    | none =>
      have hsame : d.mapToken f = d := by simp [mapToken, htoken]
      rw [hsame, hsame]
    | some token =>
      have hload : (d.mapToken f).load = .ok (some (f token)) := by rw [load_mapToken, htoken]; rfl
      rw [mapToken_of_load hload, hf, mapToken_of_load htoken, putSession_putSession]

/-- The rights are no matter of the file, so the directory can be opened before or after the token
is another one. -/
theorem loosen_mapToken : (d.mapToken f).loosen = d.loosen.mapToken f := by
  have hsession : d.loosen.session = d.session := by
    unfold loosen
    cases hplace : d.place <;> simp [session, hplace]
  have hload : d.loosen.load = d.load := by rw [load, load, hsession]
  have hput (node : Files.Node) : (d.putSession node).loosen = d.loosen.putSession node := by
    unfold putSession loosen
    cases hplace : d.place <;> simp [session, hplace]
  unfold mapToken
  rw [hload]
  split
  · exact hput _
  · rfl

end CacheDirectory

/-! ### All vaults -/

/-- The other token is loaded, and faults are the same. -/
theorem load_mapToken (v : Vault) : (v.mapToken f).load = v.load.map (Option.map f) := by
  cases v with
  | memory token => rfl
  | unreliable token refused =>
    simp only [mapToken, load]
    split <;> rfl
  | directory d => exact d.load_mapToken
  | keychain slot k =>
    simp only [mapToken, load, Keychain.load, Keychain.refusal?_mapToken, Keychain.find?_mapToken]
    cases k.refusal? [.create, .load] with
    | some fault => rfl
    | none =>
      cases k.find? slot with
      | none => rfl
      | some secret =>
        -- Another token is one that is UTF-8, and bytes that are not stay as they are.
        cases hdecode : Text.decode? secret <;> simp [mapSecret, hdecode, Except.map]

theorem mapToken_mapToken (hf : ∀ token, f (f token) = f token) (v : Vault) :
    (v.mapToken f).mapToken f = v.mapToken f := by
  cases v with
  | memory token | unreliable token _ => cases token <;> simp [mapToken, hf]
  | directory d => exact congrArg directory (CacheDirectory.mapToken_mapToken hf)
  | keychain slot k => exact congrArg (keychain slot) (Keychain.mapToken_mapToken hf)

/-- Two changes come to the same: both succeed and leave one vault, or both fail for one reason and
leave vaults that differ in their tokens alone. -/
structure SameChange (f : String → String) (x y : Except Fault Unit × Vault) : Prop where
  /-- Both succeed, or both fail for one reason. -/
  result_eq : x.1 = y.1
  /-- The vaults differ in their tokens alone. -/
  mapToken_eq : x.2.mapToken f = y.2.mapToken f
  /-- After a success they do not differ at all. -/
  vault_eq : y.1 = .ok () → x.2 = y.2

theorem SameChange.of_eq {x y : Except Fault Unit × Vault} (h : x = y) : SameChange f x y :=
  ⟨by rw [h], by rw [h], fun _ => by rw [h]⟩

/-- A refused change leaves the vault as it is. -/
theorem SameChange.of_refused (hf : ∀ token, f (f token) = f token) (fault : Fault) (v : Vault) :
    SameChange f (.error fault, v.mapToken f) (.error fault, v) :=
  ⟨rfl, v.mapToken_mapToken hf, fun h => by cases h⟩

section

variable (hf : ∀ token, f (f token) = f token)

include hf

/-- Saving writes over the token. -/
theorem save_mapToken (v : Vault) (token : String) :
    SameChange f ((v.mapToken f).save token) (v.save token) := by
  cases v with
  | memory kept => exact .of_eq rfl
  | unreliable kept refused =>
    by_cases hrefused : refused.contains .save
    · simp only [mapToken, save, hrefused, ↓reduceIte]
      exact .of_refused hf .refused (.unreliable kept refused)
    · simp only [mapToken, save, hrefused]
      exact .of_eq rfl
  | directory d =>
    rcases d.file_cases with ⟨mode, bytes, hplace⟩ | hnone
    · -- The file is written anew, whatever was in it.
      obtain ⟨bytes', hmap⟩ := CacheDirectory.mapToken_of_file (f := f) hplace
      refine .of_eq ?_
      simp [mapToken, hmap, save, CacheDirectory.save, CacheDirectory.session, hplace,
        Files.Node.write]
    · rw [mapToken, CacheDirectory.mapToken_of_no_file hnone]
      exact .of_eq rfl
  | keychain slot k =>
    cases hrefused : k.refusal? [.create, .save] with
    | some fault =>
      simp only [mapToken, save, Keychain.save, Keychain.refusal?_mapToken, hrefused]
      exact .of_refused hf fault (.keychain slot k)
    | none =>
      simp only [mapToken, save, Keychain.save, Keychain.refusal?_mapToken, hrefused, Keychain.put,
        Keychain.erase_mapToken]
      exact .of_eq rfl

/-- Clearing takes the token away. -/
theorem clear_mapToken (v : Vault) : SameChange f (v.mapToken f).clear v.clear := by
  cases v with
  | memory kept => exact .of_eq rfl
  | unreliable kept refused =>
    by_cases hrefused : refused.contains .clear
    · simp only [mapToken, clear, hrefused, ↓reduceIte]
      exact .of_refused hf .refused (.unreliable kept refused)
    · simp only [mapToken, clear, hrefused]
      exact .of_eq rfl
  | directory d =>
    -- Whether there is a file to remove does not depend on the token in it.
    rcases d.file_cases with ⟨mode, bytes, hplace⟩ | hnone
    · obtain ⟨bytes', hmap⟩ := CacheDirectory.mapToken_of_file (f := f) hplace
      refine .of_eq ?_
      simp [mapToken, hmap, clear, CacheDirectory.clear, CacheDirectory.session, hplace,
        Files.Node.remove]
    · rw [mapToken, CacheDirectory.mapToken_of_no_file hnone]
      exact .of_eq rfl
  | keychain slot k =>
    cases hrefused : k.refusal? [.create, .clear] with
    | some fault =>
      simp only [mapToken, clear, Keychain.clear, Keychain.refusal?_mapToken, hrefused]
      exact .of_refused hf fault (.keychain slot k)
    | none =>
      simp only [mapToken, clear, Keychain.clear, Keychain.refusal?_mapToken, hrefused,
        Keychain.erase_mapToken]
      exact .of_eq rfl

/-- After a token was saved, it makes no difference which one that was. -/
theorem mapToken_save (v : Vault) (token : String) :
    (v.save token).2.mapToken f = (v.save (f token)).2.mapToken f := by
  cases v with
  | memory kept => simp [save, mapToken, hf]
  | unreliable kept refused =>
    by_cases hrefused : .save ∈ refused <;> simp [save, mapToken, hrefused, hf]
  | directory d =>
    -- What is written holds the token alone, so it is written again for the other one.
    have hwritten (token : String) : ({ d with
        place := .directory privateMode (.ofText (SessionFile.text token)) } :
          CacheDirectory).mapToken f =
        { d with place := .directory privateMode (.ofText (SessionFile.text (f token))) } := by
      refine CacheDirectory.mapToken_of_load ?_
      simp [CacheDirectory.load, CacheDirectory.session, Files.Node.ofText, Files.Node.readText,
        SessionFile.decode_text]
    simp only [save, mapToken, directory.injEq, CacheDirectory.save]
    cases d.place with
    | file => rfl
    | absent | directory _ _ => cases d.session <;> simp [Files.Node.write, hwritten, hf]
  | keychain slot k =>
    simp only [save, mapToken, keychain.injEq, true_and, Keychain.save]
    cases k.refusal? [.create, .save] with
    | some fault => rfl
    | none => simp [Keychain.put, Keychain.mapToken, mapEntry, mapSecret, hf]

/-- Incidents come to the same. -/
theorem mapToken_meet (v : Vault) (i : Incident) :
    ((v.mapToken f).meet i).mapToken f = (v.meet i).mapToken f := by
  have hagain := v.mapToken_mapToken hf
  cases v with
  | memory kept => cases i <;> exact hagain
  | unreliable kept refused =>
    cases i with
    | refuse operations => exact (unreliable kept operations).mapToken_mapToken hf
    | _ => exact hagain
  | directory d =>
    -- Only a file has a token to change, and most incidents put something in its place.
    rcases d.file_cases with ⟨mode, bytes, hplace⟩ | hnone
    · obtain ⟨bytes', hmap⟩ := CacheDirectory.mapToken_of_file (f := f) hplace
      cases i with
      | refuse _ | putSecret _ _ => exact hagain
      | loosen =>
        exact congrArg directory
          (by rw [CacheDirectory.loosen_mapToken, CacheDirectory.mapToken_mapToken hf])
      | _ => simp [mapToken, hmap, meet, CacheDirectory.putSession, CacheDirectory.block, hplace]
    · rw [mapToken, CacheDirectory.mapToken_of_no_file hnone]
  | keychain slot k =>
    cases i with
    | refuse operations =>
      exact (keychain slot { k with locked := operations }).mapToken_mapToken hf
    | putSecret other secret =>
      exact congrArg (keychain slot) (Keychain.mapToken_put hf other secret)
    | _ => exact hagain

end

end NewsReader.Vault
