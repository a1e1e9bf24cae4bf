import NewsReader.Proofs.Json.Written
import NewsReader.Proofs.Text.Utf8
import NewsReader.Vault.Step

/-!
# What stands at the place of a vault

The vaults keep a token in three encodings: as it is, as a record in a file, or as bytes in a slot.
`Vault.content` is what stands there, byte for byte, and `Vault.kept` is what loading makes of it
when no operation is refused.

Each operation has one lemma for each way in which it can end:

* `kept_of_save_ok` and `kept_of_clear_ok` — what is kept after a success.
* `content_of_save_error` and `content_of_clear_error` — a failure leaves the content.
* `load_eq_kept_or_refused` — loading gives what is kept, or is refused.
-/

namespace NewsReader.Vault

open Json (Value skipSpace)

/-! ### The session file -/

/-- The token is read back from the text of the session file. -/
theorem SessionFile.decode_text (token : String) : decode (text token) = .ok token := by
  have hwrites : shape.fields.Writes (.indented 0) (token, ()) [("token", .text token)] :=
    .member (Json.Layout.reads_text _ token) .nil
  have hread : shape.reader.decode (text token) = .ok ⟨token⟩ :=
    Json.RecordShape.decode_indented hwrites (by decide)
  rw [decode, hread]
  rfl

/-! ### Content -/

/-- What stands at the place of a vault. -/
inductive Content where
  /-- A token in memory. -/
  | token (token : Option String)
  /-- What stands for the session file. -/
  | file (node : Files.Node)
  /-- The bytes in a slot of the keychain. -/
  | secret (bytes : Option (List UInt8))
  deriving DecidableEq

/-- What stands at the place of a vault. -/
def content : Vault → Content
  | memory token | unreliable token _ => .token token
  | directory d => .file d.session
  | keychain slot k => .secret (k.find? slot)

/-- The operations that a vault refuses. -/
def refusals : Vault → List Operation
  | memory _ | directory _ => []
  | unreliable _ refused => refused
  | keychain _ k => k.locked

/-- What loading gives when no operation is refused. -/
def kept (v : Vault) : Answer :=
  (v.refuse []).load

/-- The fault says that an operation is refused. -/
def Fault.IsRefusal : Fault → Prop
  | .refused | .locked _ => True
  | _ => False

/-- What is kept is read off the content. -/
theorem kept_congr {v w : Vault} (h : v.content = w.content) : v.kept = w.kept := by
  -- Without refusals, loading looks at nothing but the content.
  cases v <;> cases w <;>
    simp_all [content, kept, refuse, load, CacheDirectory.load, Keychain.load, Keychain.refusal?,
      Keychain.find?]

/-- Naming the operations that are refused leaves the content. -/
@[simp]
theorem content_refuse (v : Vault) (operations : List Operation) :
    (v.refuse operations).content = v.content := by
  cases v <;> rfl

namespace Keychain

variable {k : Keychain} {slot other : Slot} {secret : List UInt8}

/-- Taking a secret away leaves none in its slot. -/
@[simp]
theorem find?_erase_self : (k.erase slot).find? slot = none := by
  rw [find?, List.lookup_eq_none_iff]
  intro entry hentry
  have hne : entry.1 ≠ slot := by simpa using (List.mem_filter.mp hentry).2
  simpa using hne.symm

/-- Taking a secret away leaves the other slots. -/
theorem find?_erase_of_ne (h : other ≠ slot) : (k.erase slot).find? other = k.find? other := by
  change (k.entries.filter (·.1 ≠ slot)).lookup other = k.entries.lookup other
  -- The entries that go have another name than the one that is looked for.
  induction k.entries with
  | nil => rfl
  | cons entry entries ih =>
    by_cases hentry : entry.1 = slot
    · have hother : (other == entry.1) = false := by simpa [hentry] using h
      rw [List.filter_cons_of_neg (by simpa using hentry), List.lookup_cons, hother]
      exact ih
    · rw [List.filter_cons_of_pos (by simpa using hentry), List.lookup_cons, List.lookup_cons, ih]

/-- A secret that was put into a slot is found there. -/
@[simp]
theorem find?_put_self : (k.put slot secret).find? slot = some secret := by
  simp [find?, put]

/-- Putting a secret into a slot leaves the other slots. -/
theorem find?_put_of_ne (h : other ≠ slot) : (k.put slot secret).find? other = k.find? other := by
  have hother : (other == slot) = false := by simpa using h
  rw [← find?_erase_of_ne (k := k) h, find?, put, List.lookup_cons, hother]
  rfl

/-- No operation is refused by a keychain that is not locked. -/
@[simp]
theorem refusal?_unlocked (operations : List Operation) :
    ({ k with locked := [] } : Keychain).refusal? operations = none := by
  simp [refusal?]

/-- An operation is refused with a fault that says so, and for an operation that the keychain
refuses. -/
theorem refusal?_eq_some {operations : List Operation} {fault : Fault}
    (h : k.refusal? operations = some fault) :
    ∃ operation ∈ operations, operation ∈ k.locked ∧ fault = .locked operation := by
  obtain ⟨operation, hfind, rfl⟩ := Option.map_eq_some_iff.mp h
  refine ⟨operation, List.mem_of_find?_eq_some hfind, ?_, rfl⟩
  simpa using List.find?_some hfind

end Keychain

/-! ### Operations -/

/-- After a token was saved, it is kept. -/
theorem kept_of_save_ok {v : Vault} {token : String} (h : (v.save token).1 = .ok ()) :
    (v.save token).2.kept = .ok (some token) := by
  cases v with
  | memory _ => rfl
  | unreliable _ refused =>
    by_cases hrefused : .save ∈ refused
    · simp [save, hrefused] at h
    · simp [save, hrefused, kept, refuse, load]
  | directory d =>
    -- What stands for the session file afterwards is a file with the text of the token.
    have hsession : (d.save token).2.session = .ofText (SessionFile.text token) := by
      cases hplace : d.place with
      | file => simp [save, CacheDirectory.save, hplace] at h
      | absent => simp [CacheDirectory.save, CacheDirectory.session, hplace, Files.Node.write]
      | directory mode node =>
        cases node <;>
          simp_all [save, CacheDirectory.save, CacheDirectory.session, Files.Node.write]
    change (d.save token).2.load = .ok (some token)
    simp [CacheDirectory.load, hsession, Files.Node.ofText, Files.Node.readText,
      SessionFile.decode_text]
  | keychain slot k =>
    cases hrefusal : k.refusal? [.create, .save] with
    | some fault => simp [save, Keychain.save, hrefusal] at h
    | none =>
      have hfind : ({ k.put slot (Text.encode token.toList) with locked := [] } :
          Keychain).find? slot = some (Text.encode token.toList) := Keychain.find?_put_self
      simp [save, Keychain.save, hrefusal, kept, refuse, load, Keychain.load, hfind]

/-- After the token was cleared, none is kept. -/
theorem kept_of_clear_ok {v : Vault} (h : v.clear.1 = .ok ()) : v.clear.2.kept = .ok none := by
  cases v with
  | memory _ => rfl
  | unreliable _ refused =>
    by_cases hrefused : .clear ∈ refused
    · simp [clear, hrefused] at h
    · simp [clear, hrefused, kept, refuse, load]
  | directory d =>
    -- Nothing is left of the session file, or a file on the path hid it all along.
    have hsession : d.clear.2.session = .absent ∨ d.clear.2.session = .blocked := by
      cases hplace : d.place with
      | file => simp [CacheDirectory.clear, CacheDirectory.session, hplace, Files.Node.remove]
      | absent => simp [CacheDirectory.clear, CacheDirectory.session, hplace, Files.Node.remove]
      | directory mode node =>
        cases node <;>
          simp_all [clear, CacheDirectory.clear, CacheDirectory.session, Files.Node.remove]
    change d.clear.2.load = .ok none
    rcases hsession with hsession | hsession <;>
      simp [CacheDirectory.load, hsession, Files.Node.readText]
  | keychain slot k =>
    cases hrefusal : k.refusal? [.create, .clear] with
    | some fault => simp [clear, Keychain.clear, hrefusal] at h
    | none =>
      have hfind : ({ k.erase slot with locked := [] } : Keychain).find? slot = none :=
        Keychain.find?_erase_self
      simp [clear, Keychain.clear, hrefusal, kept, refuse, load, Keychain.load, hfind]

/-- A token that could not be saved leaves the content. -/
theorem content_of_save_error {v : Vault} {token : String} {fault : Fault}
    (h : (v.save token).1 = .error fault) : (v.save token).2.content = v.content := by
  cases v with
  | memory _ => simp [save] at h
  | unreliable _ refused =>
    by_cases hrefused : .save ∈ refused
    · simp [save, hrefused]
    · simp [save, hrefused] at h
  | directory d =>
    cases hplace : d.place with
    | file => simp [save, CacheDirectory.save, hplace]
    | absent =>
      simp [save, CacheDirectory.save, CacheDirectory.session, hplace, Files.Node.write] at h
    | directory mode node =>
      -- The access rights have changed by now, but they are no part of the content.
      cases node <;>
        simp_all [save, CacheDirectory.save, CacheDirectory.session, Files.Node.write, content]
  | keychain slot k =>
    cases hrefusal : k.refusal? [.create, .save] with
    | some _ => simp [save, Keychain.save, hrefusal]
    | none => simp [save, Keychain.save, hrefusal] at h

/-- A token that could not be cleared leaves the content. -/
theorem content_of_clear_error {v : Vault} {fault : Fault} (h : v.clear.1 = .error fault) :
    v.clear.2.content = v.content := by
  cases v with
  | memory _ => simp [clear] at h
  | unreliable _ refused =>
    by_cases hrefused : .clear ∈ refused
    · simp [clear, hrefused]
    · simp [clear, hrefused] at h
  | directory d =>
    cases hremove : d.session.remove with
    | error cause => simp [clear, CacheDirectory.clear, hremove]
    | ok node => cases hplace : d.place <;> simp [clear, CacheDirectory.clear, hremove, hplace] at h
  | keychain slot k =>
    cases hrefusal : k.refusal? [.create, .clear] with
    | some _ => simp [clear, Keychain.clear, hrefusal]
    | none => simp [clear, Keychain.clear, hrefusal] at h

/-- What is kept after saving a token: that token if saving succeeded, and else what was kept
before. -/
theorem kept_save (v : Vault) (token : String) :
    (v.save token).2.kept = if (v.save token).1.isOk then .ok (some token) else v.kept := by
  cases hresult : (v.save token).1 with
  | ok _ => exact kept_of_save_ok hresult
  | error fault => exact kept_congr (content_of_save_error hresult)

/-- What is kept after clearing: nothing if clearing succeeded, and else what was kept before. -/
theorem kept_clear (v : Vault) :
    v.clear.2.kept = if v.clear.1.isOk then .ok none else v.kept := by
  cases hresult : v.clear.1 with
  | ok _ => exact kept_of_clear_ok hresult
  | error fault => exact kept_congr (content_of_clear_error hresult)

/-- Loading gives what is kept, or it is an operation that the vault refuses. -/
theorem load_eq_kept_or_refused (v : Vault) :
    v.load = v.kept ∨
      (.create ∈ v.refusals ∨ .load ∈ v.refusals) ∧
        ∃ fault, fault.IsRefusal ∧ v.load = .error fault := by
  cases v with
  | memory _ => exact .inl rfl
  | directory _ => exact .inl rfl
  | unreliable token refused =>
    by_cases hrefused : .load ∈ refused
    · refine .inr ⟨.inr ?_, .refused, trivial, ?_⟩
      · simpa [refusals] using hrefused
      · simp [load, hrefused]
    · exact .inl (by simp [load, hrefused, kept, refuse])
  | keychain slot k =>
    cases hrefusal : k.refusal? [.create, .load] with
    | none =>
      left
      simp [load, Keychain.load, hrefusal, kept, refuse, Keychain.find?]
    | some fault =>
      right
      -- An entry is created before it is read, so either operation can be the refused one.
      obtain ⟨operation, hmem, hlocked, rfl⟩ := Keychain.refusal?_eq_some hrefusal
      refine ⟨?_, .locked operation, trivial, by simp [load, Keychain.load, hrefusal]⟩
      rcases (by simpa using hmem : operation = .create ∨ operation = .load) with rfl | rfl
      · exact .inl hlocked
      · exact .inr hlocked

end NewsReader.Vault
