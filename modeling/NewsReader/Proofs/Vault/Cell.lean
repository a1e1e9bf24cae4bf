import NewsReader.Proofs.Vault.Content

/-!
# Every vault is a cell for one token

Seen through its operations, a vault is a cell that holds a token or nothing. What a run of steps
tells about the cell is `Vault.known`: a token that was saved, nothing after it was cleared, and no
more than before after a failed operation. Only an incident that reaches the place of the vault
takes the knowledge away.

The invariant of a run is that the vault keeps what is known (`Keeps`). It does not say that loading
succeeds, since a vault can refuse to load; that is added at the end of the run.

* `content_meet` — an incident leaves the content, unless it reaches the place of the vault.
* `Keeps.step` and `Keeps.run` — the vault keeps what is known.
* `secret?_run` — the operations of a vault never touch the other slots of a keychain.
* `run_isCell` — the vault behaves as the cell, in every run from every start.
-/

namespace NewsReader.Vault

/-! ### What is known of the cell -/

/-- The incident reaches what stands at the place of the vault. -/
def reaches : Vault → Incident → Bool
  | directory _, .writeFile _ | directory _, .fileToDirectory | directory _,
    .directoryToFile => true
  | keychain own _, .putSecret slot _ => own == slot
  | _, _ => false

/-- What is known of the cell after a step, if `before` was known: its token or that there is
none. -/
def knownAfter (v : Vault) (before : Option (Option String)) (step : Step) :
    Option (Option String) :=
  match step, (v.step step).1 with
  | .save token, .ok _ => some (some token)
  | .clear, .ok _ => some none
  | .incident incident, _ => if v.reaches incident then none else before
  | _, _ => before

/-- What is known of the cell after steps, if `before` was known. -/
def known (v : Vault) (before : Option (Option String)) : List Step → Option (Option String)
  | [] => before
  | step :: steps => (v.step step).2.known (v.knownAfter before step) steps

/-! ### Steps -/

/-- An incident leaves the content, unless it reaches the place of the vault. -/
theorem content_meet {v : Vault} {incident : Incident} (h : v.reaches incident = false) :
    (v.meet incident).content = v.content := by
  cases incident with
  | refuse operations => exact content_refuse v operations
  | putSecret slot secret =>
    cases v with
    | keychain own k =>
      -- The secret was put into another slot.
      have hne : own ≠ slot := by simpa [reaches] using h
      simp [meet, content, Keychain.find?_put_of_ne hne]
    | _ => rfl
  | loosen =>
    cases v with
    | directory d =>
      cases hplace : d.place <;>
        simp [meet, content, CacheDirectory.loosen, CacheDirectory.session, hplace]
    | _ => rfl
  | writeFile _ | fileToDirectory | directoryToFile =>
    cases v with
    | directory d => simp [reaches] at h
    | _ => rfl

/-- A step that fails leaves the content. -/
theorem content_of_step_error {v : Vault} {step : Step} {fault : Fault}
    (h : (v.step step).1 = .error fault) : (v.step step).2.content = v.content := by
  cases step with
  | load => rfl
  | save token =>
    cases hresult : (v.save token).1 with
    | ok _ => simp [Vault.step, hresult] at h
    | error fault' => exact content_of_save_error hresult
  | clear =>
    cases hresult : v.clear.1 with
    | ok _ => simp [Vault.step, hresult] at h
    | error fault' => exact content_of_clear_error hresult
  | incident _ => cases h

/-- The invariant: the vault keeps what is known, if anything is. -/
def Keeps (v : Vault) (known : Option (Option String)) : Prop :=
  ∀ token, known = some token → v.kept = .ok token

/-- It is known what was saved, unless saving failed. -/
theorem knownAfter_save (v : Vault) (before : Option (Option String)) (token : String) :
    v.knownAfter before (.save token) =
      if (v.save token).1.isOk then some (some token) else before := by
  cases hresult : (v.save token).1 <;>
    simp [knownAfter, Vault.step, hresult, Except.isOk, Except.toBool]

/-- It is known that there is nothing after clearing, unless clearing failed. -/
theorem knownAfter_clear (v : Vault) (before : Option (Option String)) :
    v.knownAfter before .clear = if v.clear.1.isOk then some none else before := by
  cases hresult : v.clear.1 <;> simp [knownAfter, Vault.step, hresult, Except.isOk, Except.toBool]

/-- The step lemma: the vault keeps what is known after the step. -/
theorem Keeps.step {v : Vault} {before : Option (Option String)} (h : v.Keeps before)
    (step : Step) : (v.step step).2.Keeps (v.knownAfter before step) := by
  intro token hknown
  cases step with
  | load => exact h token hknown
  | save saved =>
    rw [knownAfter_save] at hknown
    refine (kept_save v saved).trans ?_
    by_cases hsaved : (v.save saved).1.isOk
    · rw [if_pos hsaved] at hknown ⊢
      rw [Option.some.inj hknown]
    · rw [if_neg hsaved] at hknown ⊢
      exact h token hknown
  | clear =>
    rw [knownAfter_clear] at hknown
    refine (kept_clear v).trans ?_
    by_cases hcleared : v.clear.1.isOk
    · rw [if_pos hcleared] at hknown ⊢
      rw [Option.some.inj hknown]
    · rw [if_neg hcleared] at hknown ⊢
      exact h token hknown
  | incident incident =>
    -- An incident that reaches the place leaves nothing known; any other leaves the content.
    cases hreaches : v.reaches incident with
    | true => simp [knownAfter, hreaches] at hknown
    | false =>
      have hbefore : before = some token := by simpa [knownAfter, hreaches] using hknown
      exact (kept_congr (content_meet hreaches)).trans (h token hbefore)

/-- The run lemma: the vault keeps what is known after the steps. -/
theorem Keeps.run {v : Vault} {before : Option (Option String)} (h : v.Keeps before)
    (steps : List Step) : (v.run steps).Keeps (v.known before steps) := by
  induction steps generalizing v before with
  | nil => exact h
  | cons step steps ih => exact ih (h.step step)

/-! ### What operations leave alone -/

/-- The slot that a vault uses in the keychain. -/
def slot? : Vault → Option Slot
  | keychain slot _ => some slot
  | _ => none

/-- What stands in a slot of the keychain that a vault uses. -/
def secret? (v : Vault) (slot : Slot) : Option (List UInt8) :=
  match v with
  | keychain _ k => k.find? slot
  | _ => none

/-- The step comes from outside. -/
def Step.isIncident : Step → Bool
  | incident _ => true
  | _ => false

/-- A vault with a slot is in the keychain. -/
theorem eq_keychain_of_slot? {v : Vault} {own : Slot} (h : v.slot? = some own) :
    ∃ k, v = .keychain own k := by
  cases v with
  | keychain slot k => exact ⟨k, by rw [Option.some.inj h]⟩
  | _ => cases h

/-- A vault without a slot sees no secrets. -/
theorem secret?_of_slot?_eq_none {v : Vault} (h : v.slot? = none) (slot : Slot) :
    v.secret? slot = none := by
  cases v with
  | keychain own k => cases h
  | _ => rfl

/-- A vault never changes its slot. -/
@[simp]
theorem slot?_step (v : Vault) (step : Step) : (v.step step).2.slot? = v.slot? := by
  cases step with
  | load => rfl
  | save token =>
    cases v with
    | unreliable _ refused => by_cases h : .save ∈ refused <;> simp [Vault.step, save, h, slot?]
    | _ => rfl
  | clear =>
    cases v with
    | unreliable _ refused => by_cases h : .clear ∈ refused <;> simp [Vault.step, clear, h, slot?]
    | _ => rfl
  | incident incident => cases incident <;> cases v <;> rfl

/-- An operation leaves the other slots. -/
theorem secret?_step {v : Vault} {step : Step} (hstep : step.isIncident = false) {slot : Slot}
    (hslot : v.slot? ≠ some slot) : (v.step step).2.secret? slot = v.secret? slot := by
  -- Only a vault in the keychain sees secrets at all.
  cases hown : v.slot? with
  | none =>
    have hafter : (v.step step).2.slot? = none := by rw [slot?_step, hown]
    rw [secret?_of_slot?_eq_none hafter, secret?_of_slot?_eq_none hown]
  | some own =>
    obtain ⟨k, rfl⟩ := eq_keychain_of_slot? hown
    have hne : slot ≠ own := fun h => hslot (congrArg some h.symm)
    cases step with
    | load => rfl
    | save token =>
      cases hrefusal : k.refusal? [.create, .save] <;>
        simp [Vault.step, save, Keychain.save, hrefusal, secret?, Keychain.find?_put_of_ne hne]
    | clear =>
      cases hrefusal : k.refusal? [.create, .clear] <;>
        simp [Vault.step, clear, Keychain.clear, hrefusal, secret?, Keychain.find?_erase_of_ne hne]
    | incident _ => cases hstep

/-- What an incident leaves in a slot depends only on what was in it. -/
theorem secret?_meet_congr {v w : Vault} {slot : Slot} (hslots : v.slot? = w.slot?)
    (hsecret : v.secret? slot = w.secret? slot) (incident : Incident) :
    (v.meet incident).secret? slot = (w.meet incident).secret? slot := by
  cases hown : v.slot? with
  | none =>
    have hv : (v.meet incident).slot? = none := (slot?_step v (.incident incident)).trans hown
    have hw : (w.meet incident).slot? = none :=
      (slot?_step w (.incident incident)).trans (hslots ▸ hown)
    rw [secret?_of_slot?_eq_none hv, secret?_of_slot?_eq_none hw]
  | some own =>
    obtain ⟨k, rfl⟩ := eq_keychain_of_slot? hown
    obtain ⟨l, rfl⟩ := eq_keychain_of_slot? (hslots ▸ hown)
    cases incident with
    | putSecret target secret =>
      by_cases htarget : slot = target
      · simp [meet, secret?, htarget]
      · simp only [meet, secret?, Keychain.find?_put_of_ne htarget]
        exact hsecret
    | _ => exact hsecret

/-- The operations in a run never touch the other slots: what stands there is what the incidents
alone would have left. -/
theorem secret?_run {v w : Vault} {slot : Slot} (hslots : v.slot? = w.slot?)
    (hsecret : v.secret? slot = w.secret? slot) (hslot : v.slot? ≠ some slot)
    (steps : List Step) :
    (v.run steps).secret? slot = (w.run (steps.filter (·.isIncident))).secret? slot := by
  -- `v` takes all of the steps and `w` the incidents alone; they agree on the slot all the while.
  induction steps generalizing v w with
  | nil => exact hsecret
  | cons step steps ih =>
    have hslot' : (v.step step).2.slot? ≠ some slot := by rwa [slot?_step]
    cases hstep : step.isIncident with
    | false =>
      rw [List.filter_cons_of_neg (by simp [hstep])]
      refine ih ?_ ?_ hslot'
      · rw [slot?_step, hslots]
      · rw [secret?_step hstep hslot, hsecret]
    | true =>
      rw [List.filter_cons_of_pos (by simp [hstep])]
      refine ih (v := (v.step step).2) (w := (w.step step).2) ?_ ?_ hslot'
      · rw [slot?_step, slot?_step, hslots]
      · cases step with
        | incident incident => exact secret?_meet_congr hslots hsecret incident
        | _ => cases hstep

/-! ### The access rights of the directory -/

/-- The access rights of the directory, if it is there. -/
def CacheDirectory.mode? (d : CacheDirectory) : Option Nat :=
  match d.place with
  | .directory mode _ => some mode
  | _ => none

/-- After a token was saved, only its owner can enter the directory. -/
theorem CacheDirectory.mode?_of_save_ok {d : CacheDirectory} {token : String}
    (h : (d.save token).1 = .ok ()) : (d.save token).2.mode? = some privateMode := by
  cases hplace : d.place with
  | file => simp [save, hplace] at h
  | absent =>
    cases hwrite : d.session.write (SessionFile.text token) <;> simp [save, hplace, hwrite, mode?]
  | directory mode node =>
    cases hwrite : d.session.write (SessionFile.text token) <;> simp [save, hplace, hwrite, mode?]

/-! ### Main result -/

/-- Every vault is a cell for one token, in every run from every start. Loading gives the token that
is known of the cell, unless the vault was told to refuse it. Loading changes nothing, and a step
that fails leaves what stands at the place, byte for byte. Other slots of the keychain are only
touched by incidents. Whoever could enter the directory before, after saving only its owner can. -/
theorem run_isCell (v : Vault) (steps : List Step) :
    (∀ token, v.known none steps = some token →
      (v.run steps).load = .ok token ∨
        (.create ∈ (v.run steps).refusals ∨ .load ∈ (v.run steps).refusals) ∧
          ∃ fault, fault.IsRefusal ∧ (v.run steps).load = .error fault) ∧
    ((v.run steps).step .load).2 = v.run steps ∧
    (∀ step fault, ((v.run steps).step step).1 = .error fault →
      ((v.run steps).step step).2.content = (v.run steps).content) ∧
    (∀ slot, v.slot? ≠ some slot →
      (v.run steps).secret? slot = (v.run (steps.filter (·.isIncident))).secret? slot) ∧
    (∀ d token, v.run steps = .directory d → (d.save token).1 = .ok () →
      (d.save token).2.mode? = some 0o700) := by
  refine ⟨fun token hknown => ?_, rfl, fun _ _ => content_of_step_error,
    fun slot hslot => secret?_run rfl rfl hslot steps,
      fun d token _ => CacheDirectory.mode?_of_save_ok⟩
  -- Nothing is known at the start, so the invariant holds whatever the vault keeps.
  have hstart : v.Keeps none := fun _ h => by cases h
  rw [← hstart.run steps token hknown]
  exact load_eq_kept_or_refused (v.run steps)

/-- A token is loaded from the directory that it was saved to, although others were let in since. -/
theorem run_isCell_directory :
    let v := Vault.directory ⟨"cache", .absent⟩
    let steps := [Step.save "T", .incident .loosen]
    v.known none steps = some (some "T") ∧ (v.run steps).load = .ok (some "T") := by
  intro v steps
  have hknown : v.known none steps = some (some "T") := rfl
  refine ⟨hknown, ?_⟩
  rcases (run_isCell v steps).1 (some "T") hknown with hload | ⟨hrefused, -⟩
  · exact hload
  · have hrefusals : (v.run steps).refusals = [] := rfl
    simp [hrefusals] at hrefused

end NewsReader.Vault
