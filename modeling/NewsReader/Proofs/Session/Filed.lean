import NewsReader.Proofs.Api.Credential
import NewsReader.Proofs.Session.Restart

/-!
# Tokens in the session file

A session over a directory and the session file there have the same token, as long as the vault does
not fail: what is held is written or removed at once. If it fails, that is logged and nothing else.
So the log tells for how long the two are the same.

* `Vault.CacheDirectory.Holds` — the token that the next start finds.
* `Session.Keeps` — a change of the session after which the file still has the held token, unless
  the log says that the vault failed. Such changes can be made one after the other.
-/

namespace NewsReader

/-- The event says that the vault of the session failed. -/
def Event.isVaultFault : Event → Bool
  | loadingFailed _ | keepingFailed _ | removalFailed _ => true
  | _ => false

namespace Vault.CacheDirectory

variable {d : CacheDirectory} {token : String}

/-- The session file has this token. No file is as good as one with the empty token. -/
def Holds (d : CacheDirectory) (token : String) : Prop :=
  ∃ kept, d.load = .ok kept ∧ kept.getD "" = token

/-- Without a session file, there is no token. -/
theorem holds_of_absent (h : d.session = .absent) : d.Holds "" :=
  ⟨none, by simp [load, h, Files.Node.readText], rfl⟩

/-- A token that was saved is in the file. -/
theorem holds_of_save_ok (h : (d.save token).1 = .ok ()) : (d.save token).2.Holds token :=
  ⟨some token, kept_of_save_ok (v := .directory d) h, rfl⟩

/-- After the token was cleared, there is none. -/
theorem holds_of_clear_ok (h : d.clear.1 = .ok ()) : d.clear.2.Holds "" :=
  ⟨none, kept_of_clear_ok (v := .directory d) h, rfl⟩

end Vault.CacheDirectory

namespace Session

variable {s s' s'' : Session} {events more : List Event}

/-- The vault is a directory, and the session file there has the held token. -/
def IsFiled (s : Session) : Prop :=
  ∃ d, s.vault = .directory d ∧ d.Holds s.token

/-- A restored session has the token of the file. -/
theorem restore_of_holds {d : Vault.CacheDirectory} {token : String} (h : d.Holds token) :
    (restore (.directory d)).1.token = token ∧ (restore (.directory d)).1.IsFiled := by
  obtain ⟨kept, hload, rfl⟩ := h
  have htoken := token_restore_of_ok (v := .directory d) hload
  exact ⟨htoken, d, vault_restore _, kept, hload, htoken.symm⟩

/-- A change of the session, with what is logged meanwhile, leaves the held token in the file,
unless it is logged that the vault failed. -/
def Keeps (s s' : Session) (events : List Event) : Prop :=
  s.IsFiled → (∀ event ∈ events, ¬event.isVaultFault) → s'.IsFiled

/-- Nothing changes. -/
theorem Keeps.refl (s : Session) (events : List Event) : s.Keeps s events :=
  fun h _ => h

/-- One change after the other. -/
theorem Keeps.trans (h : s.Keeps s' events) (h' : s'.Keeps s'' more) :
    s.Keeps s'' (events ++ more) := by
  intro hfiled hquiet
  obtain ⟨hevents, hmore⟩ := List.forall_mem_append.mp hquiet
  exact h' (h hfiled hevents) hmore

/-- It does not matter what else is logged. -/
theorem Keeps.mono (h : s.Keeps s' events) (hsub : events ⊆ more) : s.Keeps s' more :=
  fun hfiled hquiet => h hfiled fun event hevent => hquiet event (hsub hevent)

/-- Dropping the token removes the file. -/
theorem keeps_drop (s : Session) : s.Keeps s.drop.1 s.drop.2 := by
  rintro ⟨d, hvault, -⟩ hquiet
  have hclear : s.clear = (d.clear.1, ⟨none, .directory d.clear.2⟩) := by
    simp [clear, hvault, Vault.clear]
  cases hresult : d.clear.1 with
  | error fault => simp [drop, hclear, hresult, Event.isVaultFault] at hquiet
  | ok _ =>
    simp only [drop, hclear, hresult]
    exact ⟨d.clear.2, rfl, Vault.CacheDirectory.holds_of_clear_ok hresult⟩

/-- Taking a token writes the file. -/
theorem keeps_take (s : Session) (token : String) : s.Keeps (s.take token).1 (s.take token).2 := by
  rintro ⟨d, hvault, -⟩ hquiet
  have hset : s.setToken token =
      ((d.save token).1, ⟨some token, .directory (d.save token).2⟩) := by
    simp [setToken, hvault, Vault.save]
  cases hresult : (d.save token).1 with
  | error fault => simp [take, hset, hresult, Event.isVaultFault] at hquiet
  | ok _ =>
    simp only [take, hset, hresult]
    exact ⟨(d.save token).2, rfl, Vault.CacheDirectory.holds_of_save_ok hresult⟩

end Session

end NewsReader
