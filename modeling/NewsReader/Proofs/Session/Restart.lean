import NewsReader.Proofs.Vault.Content
import NewsReader.Session.Handles

/-!
# Sessions from one restart to the next

A program sets and clears the token through any number of handles, and is started again over the
same vault. The vault may refuse what it likes, so the held token and the kept one part at every
operation that fails, and meet again only at a restart that can load.

Both tokens can be told from the past alone, which is the moves with whether the vault did its part:
`heldToken` is that of the latest transition or restart, `keptToken` that of the latest transition
that was kept. That a session agrees with its past is the invariant `Life.Agrees`, which every move
preserves.

* `Life.Agrees.move` — the step lemma.
* `Life.token_of_mem_all` — the tokens of all handles, in every run over a vault that was empty at
  first.
-/

namespace NewsReader.Session

/-- A move of a program that is started again and again over one vault. -/
inductive Move where
  /-- Set the token. -/
  | setToken (token : String)
  /-- Clear the token. -/
  | clear
  /-- Make one more handle. -/
  | clone
  /-- Start again with the kept token. -/
  | restart
  /-- The operations that the vault refuses change. -/
  | refuse (operations : List Vault.Operation)

namespace Move

/-- The step that a move is. -/
def step : Move → Step
  | setToken token => .setToken token
  | clear => .clear
  | clone => .clone
  | restart => .restore
  | refuse operations => .incident (.refuse operations)

/-- The vault does its part in the move. -/
def works (v : Vault) : Move → Bool
  | setToken token => (v.save token).1.isOk
  | clear => v.clear.1.isOk
  | restart => v.load.isOk
  | clone | refuse _ => true

end Move

/-- The moves so far, the latest first, each with whether the vault did its part. -/
abbrev Past :=
  List (Move × Bool)

/-- The token of the latest transition that was kept. The empty text stands for none. -/
def keptToken : Past → String
  | [] => ""
  | (.setToken token, true) :: _ => token
  | (.clear, true) :: _ => ""
  | _ :: past => keptToken past

@[simp]
theorem keptToken_setToken (token : String) (kept : Bool) (past : Past) :
    keptToken ((.setToken token, kept) :: past) = if kept then token else keptToken past := by
  cases kept <;> rfl

@[simp]
theorem keptToken_clear (kept : Bool) (past : Past) :
    keptToken ((.clear, kept) :: past) = if kept then "" else keptToken past := by
  cases kept <;> rfl

/-- The token of the latest transition, whether it was kept or not, or the one that the latest
restart found. -/
def heldToken : Past → String
  | [] => ""
  | (.setToken token, _) :: _ => token
  | (.clear, _) :: _ => ""
  | (.restart, found) :: past => if found then keptToken past else ""
  | (.clone, _) :: past | (.refuse _, _) :: past => heldToken past

/-- A program with its past. -/
structure Life where
  /-- The session and the handles on it. -/
  handles : Handles
  /-- The moves so far. -/
  past : Past

namespace Life

/-- A session without a token and no past. -/
def start (vault : Vault) : Life :=
  ⟨.start vault, []⟩

/-- Make a move. -/
def move (l : Life) (m : Move) : Life :=
  ⟨(l.handles.step m.step).2.1, (m, m.works l.handles.vault) :: l.past⟩

/-- Make moves one after the other. -/
def run (l : Life) (moves : List Move) : Life :=
  moves.foldl move l

end Life

/-! ### Sessions -/

/-- Somebody is logged in exactly if the token is not empty. -/
theorem state_eq_authenticated_iff (s : Session) : s.state = .authenticated ↔ s.token ≠ "" := by
  by_cases h : s.token = "" <;> simp [state, h]

/-- A restored session has the token that was loaded; an empty token is as good as none. -/
theorem token_restore_of_ok {v : Vault} {token : Option String} (h : v.load = .ok token) :
    (restore v).1.token = token.getD "" := by
  cases token with
  | none => simp [restore, h, Session.token]
  | some token =>
    by_cases hempty : token = "" <;> simp [restore, h, Session.token, Option.filter, hempty]

/-- A session is restored without a token if the vault cannot load. -/
theorem token_restore_of_error {v : Vault} {fault : Vault.Fault} (h : v.load = .error fault) :
    (restore v).1.token = "" := by
  simp [restore, h, Session.token]

/-- A restored session uses the vault that it was restored from. -/
@[simp]
theorem vault_restore (v : Vault) : (restore v).1.vault = v := by
  unfold restore
  cases v.load <;> rfl

/-! ### Handles -/

namespace Handles

/-- A vault that was put in the place of the vault is the vault. -/
@[simp]
theorem vault_withVault (h : Handles) (v : Vault) : (h.withVault v).vault = v := by
  cases haside : h.aside <;> simp [withVault, vault, haside]

/-- Another vault leaves the held token. -/
@[simp]
theorem token_withVault (h : Handles) (v : Vault) :
    (h.withVault v).session.token = h.session.token := by
  cases haside : h.aside <;> simp [withVault, haside, Session.token]

/-- Another vault leaves the handles. -/
@[simp]
theorem count_withVault (h : Handles) (v : Vault) : (h.withVault v).count = h.count := by
  cases haside : h.aside <;> simp [withVault, haside]

/-- A handle shows the session. -/
theorem eq_session_of_mem_all {h : Handles} {s : Session} (hs : s ∈ h.all) : s = h.session :=
  List.eq_of_mem_replicate hs

end Handles

namespace Life

/-- The past is the moves that were made. -/
theorem map_fst_past_run (l : Life) (moves : List Move) :
    (l.run moves).past.map Prod.fst = moves.reverse ++ l.past.map Prod.fst := by
  induction moves generalizing l with
  | nil => rfl
  | cons m moves ih =>
    have hmove : (l.move m).past.map Prod.fst = m :: l.past.map Prod.fst := rfl
    rw [run, List.foldl_cons, ← run, ih, hmove, List.reverse_cons, List.append_assoc]
    rfl

/-! ### The invariant -/

/-- A program agrees with its past. -/
structure Agrees (l : Life) : Prop where
  /-- The session uses the vault. -/
  aside : l.handles.aside = none
  /-- There is a handle. -/
  count_pos : 0 < l.handles.count
  /-- The held token is told by the past. -/
  token : l.handles.session.token = heldToken l.past
  /-- The kept token is told by the past. -/
  kept : ∃ token, l.handles.vault.kept = .ok token ∧ token.getD "" = keptToken l.past

variable {l : Life}

/-- At the start over an empty vault, no token is held or kept. -/
theorem agrees_start {vault : Vault} (h : vault.kept = .ok none) : (start vault).Agrees :=
  ⟨rfl, Nat.one_pos, rfl, none, h, rfl⟩

/-- The vault of a program that agrees with its past is that of its session. -/
theorem Agrees.vault_eq (h : l.Agrees) : l.handles.vault = l.handles.session.vault := by
  rw [Handles.vault, h.aside, Option.getD_none]

/-- Setting the token preserves the agreement. -/
theorem Agrees.setToken (h : l.Agrees) (token : String) : (l.move (.setToken token)).Agrees := by
  -- The new token is held whatever the vault answers, and kept only if it succeeds.
  refine ⟨h.aside, h.count_pos, rfl, ?_⟩
  have hvault : (l.move (.setToken token)).handles.vault = (l.handles.vault.save token).2 := by
    rw [h.vault_eq]
    simp [move, Move.step, Handles.step, Handles.vault, h.aside, Session.setToken]
  have hpast : keptToken (l.move (.setToken token)).past =
      if (l.handles.vault.save token).1.isOk then token else keptToken l.past :=
    keptToken_setToken ..
  rw [hvault, Vault.kept_save, hpast]
  by_cases hsaved : (l.handles.vault.save token).1.isOk
  · rw [if_pos hsaved, if_pos hsaved]
    exact ⟨some token, rfl, rfl⟩
  · rw [if_neg hsaved, if_neg hsaved]
    exact h.kept

/-- Clearing the token preserves the agreement. -/
theorem Agrees.clear (h : l.Agrees) : (l.move .clear).Agrees := by
  refine ⟨h.aside, h.count_pos, rfl, ?_⟩
  have hvault : (l.move .clear).handles.vault = l.handles.vault.clear.2 := by
    rw [h.vault_eq]
    simp [move, Move.step, Handles.step, Handles.vault, h.aside, Session.clear]
  have hpast : keptToken (l.move .clear).past =
      if l.handles.vault.clear.1.isOk then "" else keptToken l.past :=
    keptToken_clear ..
  rw [hvault, Vault.kept_clear, hpast]
  by_cases hcleared : l.handles.vault.clear.1.isOk
  · rw [if_pos hcleared, if_pos hcleared]
    exact ⟨none, rfl, rfl⟩
  · rw [if_neg hcleared, if_neg hcleared]
    exact h.kept

/-- What a restart finds: the kept token, or nothing if the vault cannot load. -/
theorem Agrees.token_restart (h : l.Agrees) :
    (Session.restore l.handles.vault).1.token =
      if l.handles.vault.load.isOk then keptToken l.past else "" := by
  obtain ⟨token, hkept, hpast⟩ := h.kept
  -- Loading gives the kept token or fails; the reason of the failure makes no difference.
  cases hload : l.handles.vault.load with
  | error fault => exact token_restore_of_error hload
  | ok token' =>
    rcases Vault.load_eq_kept_or_refused l.handles.vault with hsame | ⟨_, fault, _, hfault⟩
    · have htoken : token' = token := by
        rw [hload, hkept] at hsame
        exact Except.ok.inj hsame
      rw [token_restore_of_ok hload, htoken, hpast]
      rfl
    · rw [hload] at hfault
      contradiction

/-- A restart preserves the agreement. -/
theorem Agrees.restart (h : l.Agrees) : (l.move .restart).Agrees := by
  -- The session is new and the vault is not.
  have hvault : (l.move .restart).handles.vault = l.handles.vault := vault_restore _
  refine ⟨rfl, Nat.one_pos, h.token_restart, ?_⟩
  rw [hvault]
  exact h.kept

/-- A change of what is refused preserves the agreement. -/
theorem Agrees.refuse (h : l.Agrees) (operations : List Vault.Operation) :
    (l.move (.refuse operations)).Agrees := by
  have hhandles : (l.move (.refuse operations)).handles =
      l.handles.withVault (l.handles.vault.refuse operations) := rfl
  obtain ⟨token, hkept, hpast⟩ := h.kept
  refine ⟨?_, ?_, ?_, token, ?_, hpast⟩ <;> rw [hhandles]
  · simp [Handles.withVault, h.aside]
  · rw [Handles.count_withVault]
    exact h.count_pos
  · rw [Handles.token_withVault]
    exact h.token
  · -- What is refused does not count among the content, so the same token is kept.
    rw [Handles.vault_withVault, Vault.kept_congr (Vault.content_refuse ..), hkept]

/-- The step lemma: every move preserves the agreement. -/
theorem Agrees.move (h : l.Agrees) (m : Move) : (l.move m).Agrees := by
  cases m with
  | setToken token => exact h.setToken token
  | clear => exact h.clear
  | clone => exact ⟨h.aside, Nat.succ_pos _, h.token, h.kept⟩
  | restart => exact h.restart
  | refuse operations => exact h.refuse operations

/-- The run lemma: moves preserve the agreement. -/
theorem Agrees.run (h : l.Agrees) (moves : List Move) : (l.run moves).Agrees := by
  induction moves generalizing l with
  | nil => exact h
  | cons m moves ih => exact ih (h.move m)

/-! ### Main result -/

/-- A program over a vault that keeps no token at first, after any moves. There are handles, and
each shows the token of the latest transition, or of the latest restart; somebody is logged in
exactly if it is not empty. A transition fails exactly as the vault does. A restart finds the token
of the latest transition that was kept, or none if the vault cannot load. -/
theorem token_of_mem_all {vault : Vault} (hempty : vault.kept = .ok none) (moves : List Move) :
    let l := (start vault).run moves
    l.past.map Prod.fst = moves.reverse ∧
    l.handles.all ≠ [] ∧
    (∀ s ∈ l.handles.all,
      s.token = heldToken l.past ∧ (s.state = .authenticated ↔ s.token ≠ "")) ∧
    (∀ token fault, (l.handles.step (.setToken token)).1 = .error fault ↔
      (l.handles.vault.save token).1 = .error fault) ∧
    (∀ fault, (l.handles.step .clear).1 = .error fault ↔
      l.handles.vault.clear.1 = .error fault) ∧
    ∀ s ∈ (l.move .restart).handles.all,
      s.token = if l.handles.vault.load.isOk then keptToken l.past else "" := by
  intro l
  have hagrees : l.Agrees := (agrees_start hempty).run moves
  refine ⟨?_, ?_, ?_, ?_, ?_, ?_⟩
  · rw [map_fst_past_run]
    exact List.append_nil _
  · exact List.ne_nil_of_length_pos (by simpa [Handles.all] using hagrees.count_pos)
  · intro s hs
    rw [Handles.eq_session_of_mem_all hs]
    exact ⟨hagrees.token, state_eq_authenticated_iff _⟩
  · intro token fault
    rw [hagrees.vault_eq]
    exact Vault.Answer.done_eq_error_iff
  · intro fault
    rw [hagrees.vault_eq]
    exact Vault.Answer.done_eq_error_iff
  · intro s hs
    rw [Handles.eq_session_of_mem_all hs]
    exact hagrees.token_restart

/-- A token that was not kept is held until the next restart, which finds the one before it. -/
theorem token_of_mem_all_unreliable :
    (Vault.unreliable none []).kept = .ok none ∧
    let l :=
      (start (.unreliable none [])).run [.setToken "a", .refuse [.save], .setToken "b", .clone]
    (∀ s ∈ l.handles.all, s.token = "b") ∧
      ∀ s ∈ (l.move .restart).handles.all, s.token = "a" := by
  have hempty : (Vault.unreliable none []).kept = .ok none := rfl
  obtain ⟨-, -, hheld, -, -, hfound⟩ :=
    token_of_mem_all hempty [.setToken "a", .refuse [.save], .setToken "b", .clone]
  refine ⟨hempty, fun s hs => (hheld s hs).1, fun s hs => ?_⟩
  rw [hfound s hs]
  decide

end Life

end NewsReader.Session
