import NewsReader.Proofs.Api.Login
import NewsReader.Proofs.Session.Filed
import NewsReader.Proofs.Vault.Tokens
import NewsReader.Session.Callers

/-!
# Sessions with their tokens blacked out

A token is a secret if it is of use: it is not empty, and a header can carry it. `Session.redacted`
puts one and the same token in the place of every secret that a session holds or keeps. So two
sessions differ in their secrets alone exactly if their redacted forms are equal, and whatever is
said about a session by its redacted form says nothing about its secrets.

* `Session.follow_congr` — a change of the token comes to the same.
* `Session.shown_redacted` — and so does what is shown of the session.
* `Session.restore_redacted` — and so does a start from what the vault keeps.
-/

namespace NewsReader

/-! ### Secrets -/

/-- The token is of use: it is not empty, and a header can carry it. -/
def IsSecret (token : String) : Prop :=
  token ≠ "" ∧ Session.CanBeSent token

instance : DecidablePred IsSecret := fun token =>
  inferInstanceAs (Decidable (token ≠ "" ∧ Session.CanBeSent token))

/-- What stands in the place of secrets. -/
def blackout : String :=
  "***"

/-- The token, if it is no secret. -/
def redact (token : String) : String :=
  if IsSecret token then blackout else token

theorem isSecret_blackout : IsSecret blackout := by
  decide

theorem redact_redact (token : String) : redact (redact token) = redact token := by
  by_cases h : IsSecret token <;> simp [redact, h, isSecret_blackout]

theorem redact_eq_empty_iff (token : String) : redact token = "" ↔ token = "" := by
  by_cases h : IsSecret token
  · simp [redact, h, isSecret_blackout.1, h.1]
  · simp [redact, h]

theorem canBeSent_redact (token : String) :
    Session.CanBeSent (redact token) ↔ Session.CanBeSent token := by
  by_cases h : IsSecret token
  · simp [redact, h, isSecret_blackout.2, h.2]
  · simp [redact, h]

/-- Tokens that are the same when they are redacted can be sent or not alike. -/
theorem canBeSent_congr {token token' : String} (h : redact token = redact token') :
    Session.CanBeSent token ↔ Session.CanBeSent token' := by
  rw [← canBeSent_redact token, h, canBeSent_redact]

namespace Session

/-- The session without the secrets that it holds and keeps. -/
def redacted (s : Session) : Session :=
  ⟨s.held.map redact, s.vault.mapToken redact⟩

/-! ### What can be seen of a session -/

theorem token_redacted (s : Session) : s.redacted.token = redact s.token := by
  rw [token, token, redacted]
  cases s.held with
  | none => exact ((redact_eq_empty_iff "").mpr rfl).symm
  | some token => rfl

/-- A secret is as good as another one for being logged in. -/
theorem state_redacted (s : Session) : s.redacted.state = s.state := by
  have hempty : s.redacted.token.isEmpty = s.token.isEmpty := by
    rw [token_redacted, Bool.eq_iff_iff]
    simpa using redact_eq_empty_iff s.token
  simp only [state, hempty]

/-- Only the state of a session is shown. -/
theorem shown_redacted (s : Session) : s.redacted.shown = s.shown := by
  unfold shown
  rw [state_redacted]

/-! ### Changes -/

/-- A change comes to the same, whatever the vault keeps. -/
theorem Change.keep_redacted (change : Change) (v : Vault) :
    Vault.SameChange redact (change.keep (v.mapToken redact)) (change.keep v) := by
  cases change with
  | set token => exact Vault.save_mapToken redact_redact v token
  | clear => exact Vault.clear_mapToken redact_redact v

/-- Sessions in which two secrets were set differ in their secrets alone. -/
theorem redacted_setToken (s : Session) {token token' : String} (h : IsSecret token)
    (h' : IsSecret token') : (s.setToken token).2.redacted = (s.setToken token').2.redacted := by
  have hsame : redact token = redact token' := by simp [redact, h, h']
  have hvault : (s.vault.save token).2.mapToken redact =
      (s.vault.save token').2.mapToken redact := by
    rw [Vault.mapToken_save redact_redact, hsame, ← Vault.mapToken_save redact_redact]
  simp [redacted, setToken, hsame, hvault]

end Session

/-- The change of the token that an event is. -/
def CredentialEvent.change : CredentialEvent → Session.Change
  | loggedIn token => .set token
  | rejected | loggedOut => .clear

/-- What is logged if the vault fails in the change that an event is. -/
def CredentialEvent.complaint : CredentialEvent → String → Event
  | loggedIn _ => .keepingFailed
  | rejected | loggedOut => .removalFailed

namespace Session

/-- The change of the session that an event is, with what is logged. -/
def follow (s : Session) : CredentialEvent → Session × List Event
  | .loggedIn token => s.take token
  | .rejected | .loggedOut => s.drop

/-- The vault has a part in an event, and what is held is a matter of the event alone. -/
theorem follow_eq (s : Session) (event : CredentialEvent) :
    s.follow event = (⟨event.held, (event.change.keep s.vault).2⟩,
      match (event.change.keep s.vault).1 with
      | .ok () => []
      | .error fault => [event.complaint fault.message]) := by
  have htake (token : String) : s.take token = (⟨some token, (s.vault.save token).2⟩,
      match (s.vault.save token).1 with
      | .ok () => []
      | .error fault => [.keepingFailed fault.message]) := by
    rw [take, setToken]
    rcases s.vault.save token with ⟨_ | _, v⟩ <;> rfl
  have hdrop : s.drop = (⟨none, s.vault.clear.2⟩,
      match s.vault.clear.1 with
      | .ok () => []
      | .error fault => [.removalFailed fault.message]) := by
    rw [drop, clear]
    rcases s.vault.clear with ⟨_ | _, v⟩ <;> rfl
  cases event with
  | loggedIn token => exact htake token
  | rejected | loggedOut => exact hdrop

section

variable {s s' : Session} (h : s.redacted = s'.redacted) (event : CredentialEvent)
  (incident : Vault.Incident)

include h

/-- Sessions that differ in their secrets alone come to the same by a change. -/
theorem keep_congr (change : Change) :
    Vault.SameChange redact (change.keep s.vault) (change.keep s'.vault) := by
  have hvault : s.vault.mapToken redact = s'.vault.mapToken redact := congrArg vault h
  -- Both changes come to the same as that of the one vault without secrets, so they come to the
  -- same.
  have hleft := change.keep_redacted s.vault
  have hright := change.keep_redacted s'.vault
  rw [hvault] at hleft
  exact ⟨hleft.result_eq.symm.trans hright.result_eq,
    hleft.mapToken_eq.symm.trans hright.mapToken_eq,
    fun hok => (hleft.vault_eq (hleft.result_eq ▸ hright.result_eq ▸ hok)).symm.trans
      (hright.vault_eq hok)⟩

/-- An event is logged alike, and afterwards the sessions differ in their secrets alone. -/
theorem follow_congr :
    (s.follow event).2 = (s'.follow event).2 ∧
      (s.follow event).1.redacted = (s'.follow event).1.redacted := by
  have hkeep := keep_congr h event.change
  rw [follow_eq, follow_eq, hkeep.result_eq]
  refine ⟨rfl, ?_⟩
  simp only [redacted, hkeep.mapToken_eq]

/-- An incident at their vaults leaves sessions that differ in their secrets alone. -/
theorem meet_congr :
    ({ s with vault := s.vault.meet incident } : Session).redacted =
      ({ s' with vault := s'.vault.meet incident } : Session).redacted := by
  have hheld : s.held.map redact = s'.held.map redact := congrArg held h
  have hvault : s.vault.mapToken redact = s'.vault.mapToken redact := congrArg vault h
  simp only [redacted, hheld]
  rw [← Vault.mapToken_meet redact_redact s.vault, hvault, Vault.mapToken_meet redact_redact]

/-- If the vault does its part in an event, the sessions do not differ at all any more. -/
theorem follow_eq_of_quiet (hquiet : ∀ logged ∈ (s'.follow event).2, ¬logged.isVaultFault) :
    (s.follow event).1 = (s'.follow event).1 := by
  have hkeep := keep_congr h event.change
  rw [follow_eq] at hquiet
  -- Had the vault failed, that would be what is logged.
  have hok : (event.change.keep s'.vault).1 = .ok () := by
    cases hresult : (event.change.keep s'.vault).1 with
    | ok _ => rfl
    | error fault =>
      rw [hresult] at hquiet
      have hfault : (event.complaint fault.message).isVaultFault := by cases event <;> rfl
      exact absurd hfault (hquiet _ (List.mem_singleton_self _))
  rw [follow_eq, follow_eq, hkeep.vault_eq hok]

end

/-- The change of the session that an event is, if there is one, with what is logged. -/
def follow? (s : Session) (event? : Option CredentialEvent) : Session × List Event :=
  event?.elim (s, []) s.follow

/-- Sessions that differ in their secrets alone do so after an event, and the event is logged
alike. -/
theorem follow?_congr {s s' : Session} (h : s.redacted = s'.redacted)
    (event? : Option CredentialEvent) :
    (s.follow? event?).2 = (s'.follow? event?).2 ∧
      (s.follow? event?).1.redacted = (s'.follow? event?).1.redacted := by
  cases event? with
  | none => exact ⟨rfl, h⟩
  | some event => exact follow_congr h event

/-- After an event, sessions that differ in their secrets alone do not differ at all if the vault
did its part. -/
theorem follow?_eq {s s' : Session} (h : s.redacted = s'.redacted) {event? : Option CredentialEvent}
    (hsome : event?.isSome) (hquiet : ∀ logged ∈ (s.follow? event?).2, ¬logged.isVaultFault) :
    (s.follow? event?).1 = (s'.follow? event?).1 := by
  cases event? with
  | none => cases hsome
  | some event => exact (follow_eq_of_quiet h.symm event hquiet).symm

/-! ### Starts -/

/-- A start from what a vault keeps is logged alike whatever the secret is, and the secret is
held. -/
theorem restore_redacted (v : Vault) :
    (restore (v.mapToken redact)).2 = (restore v).2 ∧
      (restore (v.mapToken redact)).1.redacted = (restore v).1.redacted := by
  have hvault := v.mapToken_mapToken redact_redact
  unfold restore
  rw [Vault.load_mapToken]
  cases v.load with
  | error fault => exact ⟨rfl, congrArg (mk none) hvault⟩
  | ok token =>
    -- The secret is not the empty token, and neither is what stands in its place.
    have hheld : (token.map redact).filter (!·.isEmpty) =
        (token.filter (!·.isEmpty)).map redact := by
      cases token with
      | none => rfl
      | some token =>
        by_cases hempty : token = "" <;> simp [Option.filter, redact_eq_empty_iff, hempty]
    simp only [Except.map, hheld, redacted, Option.map_map, hvault]
    have hcomp : redact ∘ redact = redact := funext redact_redact
    exact ⟨by simp, by rw [hcomp]⟩

/-- Starts from vaults that differ in their secrets alone are logged alike, and lead to sessions
that do so too. -/
theorem restore_congr {v v' : Vault} (h : v.mapToken redact = v'.mapToken redact) :
    (restore v).2 = (restore v').2 ∧ (restore v).1.redacted = (restore v').1.redacted := by
  obtain ⟨hevents, hsession⟩ := restore_redacted v
  obtain ⟨hevents', hsession'⟩ := restore_redacted v'
  rw [← h] at hevents' hsession'
  exact ⟨hevents.symm.trans hevents', hsession.symm.trans hsession'⟩

end Session

end NewsReader
