import NewsReader.Proofs.Vault.Content
import NewsReader.Session.Callers

/-!
# Changes reach what is held and the vault in the same order

Many callers use one session under its lock. Whatever the order of their steps, the callers notice
nothing of a change before it is over.

* `View.turn_of_act` — the steps of a caller, one case for each.
* `Callers.Agrees` — the invariant. It has two cases, one for each way to have the lock: the
  callers that have it together change nothing, and a caller that has it alone finds all the others
  idle.
* `Callers.agrees_run` — the invariant holds after any moves.
* `Callers.run_change` — a change that nobody is in the way of is over after four steps.
* `Callers.run_in_order` — between changes, what is held and what the vault keeps are those of the
  latest change, no look shows anything else, and a change can be made whenever the lock is free.
-/

namespace NewsReader.Session

open Vault (Answer)

/-! ### What the reports tell -/

/-- What the vault keeps after its part of a change. -/
theorem Change.kept_keep (change : Change) (v : Vault) :
    (change.keep v).2.kept = if (change.keep v).1.isOk then .ok change.held else v.kept := by
  cases change with
  | set token => exact Vault.kept_save v token
  | clear => exact Vault.kept_clear v

/-- The change that is over with this report, with what the vault said. -/
def Report.done? : Report → Option (Change × Except Vault.Fault Unit)
  | done change result => some (change, result)
  | _ => none

/-- The latest change that is over. -/
def latest (past : List Report) : Option (Change × Except Vault.Fault Unit) :=
  (past.filterMap Report.done?).getLast?

/-- The latest change that is over and in which the vault did its part. -/
def latestKept (past : List Report) : Option (Change × Except Vault.Fault Unit) :=
  ((past.filterMap Report.done?).filter (·.2.isOk)).getLast?

/-- What is held if a change reaches it only when it is over. -/
def heldAfter (first : Session) (past : List Report) : Option String :=
  ((latest past).map (·.1.held)).getD first.held

/-- What the vault keeps if a change reaches it only when it is over. -/
def keptAfter (first : Session) (past : List Report) : Answer :=
  ((latestKept past).map (.ok ·.1.held)).getD first.vault.kept

section After

variable {first : Session} {past : List Report} {change : Change} {result : Except Vault.Fault Unit}

/-- A change that is over decides what is held. -/
@[simp]
theorem heldAfter_done : heldAfter first (past ++ [.done change result]) = change.held := by
  simp [heldAfter, latest, Report.done?]

/-- A change that is over decides what is kept, unless the vault failed. -/
@[simp]
theorem keptAfter_done :
    keptAfter first (past ++ [.done change result]) =
      if result.isOk then .ok change.held else keptAfter first past := by
  cases result <;> simp [keptAfter, latestKept, Report.done?, Except.isOk, Except.toBool]

/-- A look decides nothing about what is held. -/
theorem heldAfter_of_done?_none {report : Report} (h : report.done? = none) :
    heldAfter first (past ++ [report]) = heldAfter first past := by
  simp [heldAfter, latest, h]

/-- A look decides nothing about what is kept. -/
theorem keptAfter_of_done?_none {report : Report} (h : report.done? = none) :
    keptAfter first (past ++ [report]) = keptAfter first past := by
  simp [keptAfter, latestKept, h]

/-- If the vault did its part in the latest change, that change decides what is kept. -/
theorem keptAfter_of_latest (h : latest past = some (change, .ok ())) :
    keptAfter first past = .ok change.held := by
  obtain ⟨earlier, hpast⟩ := List.getLast?_eq_some_iff.mp h
  simp [keptAfter, latestKept, hpast, Except.isOk, Except.toBool]

end After

/-- A look shows what is held. The end of a change shows nothing. -/
def Report.Shows (held : Option String) : Report → Prop
  | .done _ _ => True
  | .token shown => shown = held.getD ""
  | .state shown => shown = .authenticated ↔ held.getD "" ≠ ""

/-! ### One step of a caller -/

/-- The steps of a caller: what it finds, what it does, what it leaves and what it reports. -/
inductive Turn : View → Act → View → Option Report → Prop where
  | begin {s : Session} {change : Change} :
    Turn ⟨s, .shared 0, .idle⟩ (.begin change) ⟨s, .exclusive, .locked change⟩ none
  | store {s : Session} {lock : Lock} {change : Change} :
    Turn ⟨s, lock, .locked change⟩ .store
      ⟨{ s with vault := (change.keep s.vault).2 }, lock,
        .stored change (change.keep s.vault).1⟩ none
  | write {s : Session} {lock : Lock} {change : Change} {result : Except Vault.Fault Unit} :
    Turn ⟨s, lock, .stored change result⟩ .write
      ⟨{ s with held := change.held }, lock, .written change result⟩ none
  | finish {s : Session} {lock : Lock} {change : Change} {result : Except Vault.Fault Unit} :
    Turn ⟨s, lock, .written change result⟩ .finish ⟨s, .shared 0, .idle⟩
      (some (.done change result))
  | enter {s : Session} {readers : Nat} :
    Turn ⟨s, .shared readers, .idle⟩ .enter ⟨s, .shared (readers + 1), .reading⟩ none
  | readToken {s : Session} {lock : Lock} :
    Turn ⟨s, lock, .reading⟩ .readToken ⟨s, lock, .reading⟩ (some (.token s.token))
  | readState {s : Session} {lock : Lock} :
    Turn ⟨s, lock, .reading⟩ .readState ⟨s, lock, .reading⟩ (some (.state s.state))
  | leave {s : Session} {readers : Nat} :
    Turn ⟨s, .shared (readers + 1), .reading⟩ .leave ⟨s, .shared readers, .idle⟩ none

/-- A step that is taken is one of the steps. -/
theorem View.turn_of_act {v w : View} {a : Act} {report : Option Report}
    (h : v.act a = some (w, report)) : Turn v a w report := by
  obtain ⟨s, lock, stage⟩ := v
  -- The stage and the lock decide whether the step can be taken, and then all that it does.
  cases a <;> simp only [View.act] at h <;> split at h <;> cases h <;> constructor

/-- Each of the steps is taken. -/
theorem View.act_of_turn {v w : View} {a : Act} {report : Option Report} (h : Turn v a w report) :
    v.act a = some (w, report) := by
  cases h <;> rfl

/-- A step of one among many callers is a step of that caller. -/
theorem Callers.turn_of_act {c d : Callers} {caller : Nat} {a : Act} {report : Option Report}
    (h : c.act caller a = some (d, report)) :
    ∃ stage view, c.stages[caller]? = some stage ∧
      Turn ⟨c.session, c.lock, stage⟩ a view report ∧
      d = ⟨view.session, view.lock, c.stages.set caller view.stage⟩ := by
  simp only [Callers.act, Option.bind_eq_bind, Option.bind_eq_some_iff] at h
  obtain ⟨stage, hstage, ⟨view, report⟩, hact, hd⟩ := h
  cases hd
  exact ⟨stage, view, hstage, View.turn_of_act hact, rfl⟩

/-! ### The invariant -/

/-- What is held and what the vault keeps while a caller is at a stage of its change. -/
inductive Stage.Fits (first : Session) (past : List Report) : Session → Stage → Prop where
  /-- Nothing has changed yet. -/
  | locked {s : Session} {change : Change} (hheld : s.held = heldAfter first past)
    (hkept : s.vault.kept = keptAfter first past) : Fits first past s (.locked change)
  /-- The vault is ahead. -/
  | stored {s : Session} {change : Change} {result : Except Vault.Fault Unit}
    (hheld : s.held = heldAfter first past)
    (hkept : s.vault.kept = if result.isOk then .ok change.held else keptAfter first past) :
    Fits first past s (.stored change result)
  /-- Both are as they will be when the change is over. -/
  | written {s : Session} {change : Change} {result : Except Vault.Fault Unit}
    (hheld : s.held = change.held)
    (hkept : s.vault.kept = if result.isOk then .ok change.held else keptAfter first past) :
    Fits first past s (.written change result)

/-- What is held, what the vault keeps, the lock and the stages of all callers fit together. -/
inductive Callers.Agrees (first : Session) (past : List Report) : Callers → Prop where
  /-- No caller is in the middle of a change, and the lock counts the callers that look. -/
  | shared {s : Session} {stages : List Stage}
    (hcalm : ∀ stage ∈ stages, stage.isChanging = false)
    (hheld : s.held = heldAfter first past) (hkept : s.vault.kept = keptAfter first past) :
    Agrees first past ⟨s, .shared (stages.countP Stage.isReading), stages⟩
  /-- One caller is in the middle of a change, and the others are idle. -/
  | exclusive {s : Session} {stage : Stage} {count caller : Nat} (hcaller : caller < count)
    (hfits : stage.Fits first past s) :
    Agrees first past ⟨s, .exclusive, (List.replicate count .idle).set caller stage⟩

namespace Callers

variable {first : Session} {past : List Report} {c d : Callers}

/-- At the start nothing is over. -/
theorem agrees_start (s : Session) : (start s).Agrees s [] := by
  have hcalm : ∀ stage ∈ [Stage.idle], stage.isChanging = false := by simp [Stage.isChanging]
  exact .shared hcalm rfl rfl

/-- Callers that change nothing and do not look are idle. -/
theorem eq_replicate_of_countP {stages : List Stage}
    (hcalm : ∀ stage ∈ stages, stage.isChanging = false)
    (hcount : stages.countP Stage.isReading = 0) : stages = List.replicate stages.length .idle := by
  refine List.eq_replicate_iff.mpr ⟨rfl, fun stage hmem => ?_⟩
  have hreading : ¬ stage.isReading := List.countP_eq_zero.mp hcount stage hmem
  have hchanging := hcalm stage hmem
  cases stage <;> simp_all [Stage.isReading, Stage.isChanging]

section Shared

variable {s : Session} {stages : List Stage} {caller : Nat} {stage : Stage}

/-- The callers that look, if one of them starts or stops looking. -/
theorem countP_set (next : Stage) (hstage : stages[caller]? = some stage) :
    (stages.set caller next).countP Stage.isReading + (if stage.isReading then 1 else 0) =
      stages.countP Stage.isReading + (if next.isReading then 1 else 0) := by
  obtain ⟨hlt, hget⟩ := List.getElem?_eq_some_iff.mp hstage
  rw [List.countP_set hlt, hget]
  by_cases hreading : stage.isReading
  · have hpos : 0 < stages.countP Stage.isReading :=
      List.countP_pos_iff.mpr ⟨stage, List.mem_of_getElem? hstage, hreading⟩
    rw [if_pos hreading]
    omega
  · rw [if_neg hreading, Nat.sub_zero, Nat.add_zero]

/-- The invariant survives a step that leaves the lock shared and changes nothing. -/
theorem agrees_set {next : Stage} {readers : Nat}
    (hcalm : ∀ stage ∈ stages, stage.isChanging = false) (hheld : s.held = heldAfter first past)
    (hkept : s.vault.kept = keptAfter first past) (hnext : next.isChanging = false)
    (hreaders : (stages.set caller next).countP Stage.isReading = readers) :
    Agrees first past ⟨s, .shared readers, stages.set caller next⟩ := by
  subst hreaders
  refine .shared (fun stage hmem => ?_) hheld hkept
  rcases List.mem_or_eq_of_mem_set hmem with hmem | rfl
  · exact hcalm stage hmem
  · exact hnext

/-- The invariant survives a step of a caller while the lock is shared. -/
theorem agrees_act_of_shared {a : Act} {view : View} {report : Option Report}
    (hcalm : ∀ stage ∈ stages, stage.isChanging = false) (hheld : s.held = heldAfter first past)
    (hkept : s.vault.kept = keptAfter first past) (hstage : stages[caller]? = some stage)
    (hturn : Turn ⟨s, .shared (stages.countP Stage.isReading), stage⟩ a view report) :
    Agrees first (past ++ report.toList)
      ⟨view.session, view.lock, stages.set caller view.stage⟩ := by
  have hcaller : stage.isChanging = false := hcalm stage (List.mem_of_getElem? hstage)
  have hcount := fun next => countP_set next hstage
  generalize hreaders : stages.countP Stage.isReading = readers at hturn hcount
  cases hturn with
  | begin =>
    -- Nobody looks, so that all are idle when the lock is taken.
    have hidle := eq_replicate_of_countP hcalm hreaders
    have hlt : caller < stages.length := (List.getElem?_eq_some_iff.mp hstage).1
    rw [hidle, Option.toList_none, List.append_nil]
    exact .exclusive hlt (.locked hheld hkept)
  | store => cases hcaller
  | write => cases hcaller
  | finish => cases hcaller
  | enter =>
    rw [Option.toList_none, List.append_nil]
    exact agrees_set hcalm hheld hkept rfl (hcount .reading)
  | readToken =>
    refine agrees_set hcalm ?_ ?_ rfl (Nat.add_right_cancel (hcount .reading))
    · exact hheld.trans (heldAfter_of_done?_none rfl).symm
    · exact hkept.trans (keptAfter_of_done?_none rfl).symm
  | readState =>
    refine agrees_set hcalm ?_ ?_ rfl (Nat.add_right_cancel (hcount .reading))
    · exact hheld.trans (heldAfter_of_done?_none rfl).symm
    · exact hkept.trans (keptAfter_of_done?_none rfl).symm
  | leave =>
    rw [Option.toList_none, List.append_nil]
    exact agrees_set hcalm hheld hkept rfl (Nat.add_right_cancel (hcount .idle))

end Shared

section Exclusive

variable {s : Session} {stage : Stage} {count caller : Nat}

/-- Among idle callers and one other, a caller that is not idle is that one. -/
theorem getElem?_set_replicate {other : Nat} {found : Stage} (hcaller : caller < count)
    (hfound : ((List.replicate count Stage.idle).set caller stage)[other]? = some found) :
    other = caller ∧ found = stage ∨ found = .idle := by
  by_cases hother : other = caller
  · subst hother
    rw [List.getElem?_set_self (by simpa using hcaller)] at hfound
    exact .inl ⟨rfl, (Option.some.inj hfound).symm⟩
  · rw [List.getElem?_set_ne (Ne.symm hother)] at hfound
    exact .inr (List.eq_of_mem_replicate (List.mem_of_getElem? hfound))

/-- The invariant survives a step of a caller while one caller has the lock alone. -/
theorem agrees_act_of_exclusive {other : Nat} {found : Stage} {a : Act} {view : View}
    {report : Option Report} (hcaller : caller < count) (hfits : stage.Fits first past s)
    (hfound : ((List.replicate count Stage.idle).set caller stage)[other]? = some found)
    (hturn : Turn ⟨s, .exclusive, found⟩ a view report) :
    Agrees first (past ++ report.toList)
      ⟨view.session, view.lock,
        ((List.replicate count .idle).set caller stage).set other view.stage⟩ := by
  -- An idle caller has to wait, so that it is the one with the lock that takes the step.
  have hown : other = caller ∧ found = stage := by
    rcases getElem?_set_replicate hcaller hfound with hown | rfl
    · exact hown
    · cases hturn
  obtain ⟨rfl, rfl⟩ := hown
  rw [List.set_set]
  cases hturn with
  | store =>
    cases hfits with
    | locked hheld hkept =>
      rw [Option.toList_none, List.append_nil]
      refine .exclusive hcaller (.stored hheld ?_)
      rw [Change.kept_keep, hkept]
  | write =>
    cases hfits with
    | stored _ hkept =>
      rw [Option.toList_none, List.append_nil]
      exact .exclusive hcaller (.written rfl hkept)
  | finish =>
    cases hfits with
    | written hheld hkept =>
      have hidle : (List.replicate count Stage.idle).set other .idle =
          List.replicate count .idle := by
        simp
      have hcount : (List.replicate count Stage.idle).countP Stage.isReading = 0 := by
        simp [Stage.isReading]
      refine agrees_set ?_ ?_ ?_ rfl (by rw [hidle, hcount])
      · intro stage hmem
        rw [List.eq_of_mem_replicate hmem]
        rfl
      · simpa using hheld
      · simpa using hkept
  | readToken => cases hfits
  | readState => cases hfits

end Exclusive

/-- The invariant survives a step of a caller. -/
theorem agrees_act {caller : Nat} {a : Act} {report : Option Report} (h : c.Agrees first past)
    (hact : c.act caller a = some (d, report)) : d.Agrees first (past ++ report.toList) := by
  obtain ⟨stage, view, hstage, hturn, rfl⟩ := turn_of_act hact
  cases h with
  | shared hcalm hheld hkept => exact agrees_act_of_shared hcalm hheld hkept hstage hturn
  | exclusive hcaller hfits => exact agrees_act_of_exclusive hcaller hfits hstage hturn

/-- The invariant survives one more caller. -/
theorem agrees_clone (h : c.Agrees first past) :
    Agrees first past { c with stages := c.stages ++ [.idle] } := by
  -- The new caller is idle: it does not count among those that look, and it is none that changes
  -- anything.
  cases h with
  | @shared s stages hcalm hheld hkept =>
    have hcount : stages.countP Stage.isReading =
        (stages ++ [Stage.idle]).countP Stage.isReading := by
      simp [Stage.isReading]
    rw [hcount]
    refine .shared (fun stage hmem => ?_) hheld hkept
    rcases List.mem_append.mp hmem with hmem | hmem
    · exact hcalm stage hmem
    · rw [List.mem_singleton.mp hmem]
      rfl
  | @exclusive s stage count caller hcaller hfits =>
    have hstages : (List.replicate count Stage.idle).set caller stage ++ [.idle] =
        (List.replicate (count + 1) .idle).set caller stage := by
      rw [List.replicate_succ', List.set_append_left _ _ (by simpa using hcaller)]
    rw [hstages]
    exact .exclusive (Nat.lt_succ_of_lt hcaller) hfits

/-- The invariant survives that the vault refuses other operations. -/
theorem agrees_refuse (operations : List Vault.Operation) (h : c.Agrees first past) :
    Agrees first past { c with session.vault := c.session.vault.refuse operations } := by
  have hkept : (c.session.vault.refuse operations).kept = c.session.vault.kept :=
    Vault.kept_congr (Vault.content_refuse _ operations)
  cases h with
  | shared hcalm hheld h => exact .shared hcalm hheld (hkept.trans h)
  | exclusive hcaller hfits =>
    refine .exclusive hcaller ?_
    cases hfits with
    | locked hheld h => exact .locked hheld (hkept.trans h)
    | stored hheld h => exact .stored hheld (hkept.trans h)
    | written hheld h => exact .written hheld (hkept.trans h)

/-- The invariant survives a move. -/
theorem agrees_step (h : c.Agrees first past) (move : Move) :
    (c.step move).1.Agrees first (past ++ (c.step move).2.toList) := by
  cases move with
  | clone => simpa [step] using agrees_clone h
  | refuse operations => simpa [step] using agrees_refuse operations h
  | act caller a =>
    cases hact : c.act caller a with
    | none => simpa [step, hact] using h
    | some next => simpa [step, hact] using agrees_act h hact

/-- The invariant holds after any moves. -/
theorem agrees_run (h : c.Agrees first past) (moves : List Move) :
    (c.run moves).1.Agrees first (past ++ (c.run moves).2) := by
  induction moves generalizing c past with
  | nil => simpa [run] using h
  | cons move moves ih => simpa [run] using ih (agrees_step h move)

/-! ### Changes come to an end -/

/-- A caller that can take a step takes it. -/
theorem step_of_turn {s t : Session} {lock lock' : Lock} {stages : List Stage} {caller : Nat}
    {stage next : Stage} {a : Act} {report : Option Report} (hstage : stages[caller]? = some stage)
    (hturn : Turn ⟨s, lock, stage⟩ a ⟨t, lock', next⟩ report) :
    step ⟨s, lock, stages⟩ (.act caller a) =
      (⟨t, lock', stages.set caller next⟩, report) := by
  simp [step, act, hstage, View.act_of_turn hturn]

/-- If the lock is free, a caller that takes its four steps has made the whole change. -/
theorem run_change {s : Session} {stages : List Stage} {caller : Nat} (change : Change)
    (hidle : stages[caller]? = some .idle) :
    run ⟨s, .shared 0, stages⟩
        [.act caller (.begin change), .act caller .store, .act caller .write, .act caller .finish] =
      (⟨(change.apply s).2, .shared 0, stages⟩, [.done change (change.apply s).1]) := by
  obtain ⟨hlt, hget⟩ := List.getElem?_eq_some_iff.mp hidle
  have hset (stage : Stage) : (stages.set caller stage)[caller]? = some stage :=
    List.getElem?_set_self hlt
  have hback : stages.set caller .idle = stages := by
    rw [← hget, List.set_getElem_self]
  simp only [run, step_of_turn hidle .begin, step_of_turn (hset _) .store,
    step_of_turn (hset _) .write, step_of_turn (hset _) .finish, List.set_set, hback,
    Change.apply_eq]
  rfl

/-! ### Changes in order -/

/-- The lock is held alone exactly while a caller is in the middle of a change. -/
theorem lock_eq_exclusive_iff (h : c.Agrees first past) :
    c.lock = .exclusive ↔ ∃ stage ∈ c.stages, stage.isChanging := by
  cases h with
  | shared hcalm _ _ => simpa using hcalm
  | @exclusive s stage count caller hcaller hfits =>
    have hlt : caller < (List.replicate count Stage.idle).length := by simpa using hcaller
    have hmem : stage ∈ (List.replicate count Stage.idle).set caller stage :=
      List.mem_set hlt stage
    refine ⟨fun _ => ⟨stage, hmem, ?_⟩, fun _ => rfl⟩
    cases hfits <;> rfl

/-- What is held and kept when no caller is in the middle of a change. -/
theorem held_kept_of_lock_ne (h : c.Agrees first past) (hlock : c.lock ≠ .exclusive) :
    c.session.held = heldAfter first past ∧ c.session.vault.kept = keptAfter first past := by
  cases h with
  | shared _ hheld hkept => exact ⟨hheld, hkept⟩
  | exclusive _ _ => exact absurd rfl hlock

/-- A caller that looks finds the token of the latest change that is over. -/
theorem shows_of_act {caller : Nat} {a : Act} {report : Report} (h : c.Agrees first past)
    (hact : c.act caller a = some (d, some report)) : report.Shows (heldAfter first past) := by
  obtain ⟨s, lock, stages⟩ := c
  obtain ⟨stage, view, hstage, hturn, -⟩ := turn_of_act hact
  -- Whoever has the lock alone does not look, so that the lock is shared here.
  have hheld : stage = .reading → s.held = heldAfter first past := by
    rintro rfl
    cases h with
    | shared _ hheld _ => exact hheld
    | exclusive hcaller hfits =>
      rcases getElem?_set_replicate hcaller hstage with ⟨-, rfl⟩ | hidle
      · cases hfits
      · cases hidle
  cases hturn with
  | finish => trivial
  | readToken => exact congrArg (·.getD "") (hheld rfl)
  | readState => simp [Report.Shows, Session.state, Session.token, hheld rfl]

/-- Every report of a run shows the token of the latest change that is over at that time. -/
theorem shows_of_mem_run (h : c.Agrees first past) {moves : List Move} {before after : List Report}
    {report : Report} (hrun : (c.run moves).2 = before ++ report :: after) :
    report.Shows (heldAfter first (past ++ before)) := by
  induction moves generalizing c past before with
  | nil => simp [run] at hrun
  | cons move moves ih =>
    have hagrees := agrees_step h move
    change (c.step move).2.toList ++ ((c.step move).1.run moves).2 = _ at hrun
    cases hreport : (c.step move).2 with
    | none =>
      rw [hreport, Option.toList_none, List.append_nil] at hagrees
      rw [hreport, Option.toList_none, List.nil_append] at hrun
      exact ih hagrees hrun
    | some shown =>
      rw [hreport, Option.toList_some] at hagrees hrun
      cases before with
      | cons earlier before =>
        obtain ⟨rfl, hrest⟩ := List.cons.inj hrun
        simpa using ih hagrees hrest
      | nil =>
        obtain ⟨rfl, -⟩ := List.cons.inj hrun
        rw [List.append_nil]
        -- Only a caller reports anything.
        cases move with
        | act caller a =>
          cases hact : c.act caller a with
          | none => simp [step, hact] at hreport
          | some next =>
            obtain ⟨d, report⟩ := next
            obtain rfl : report = some shown := by simpa [step, hact] using hreport
            exact shows_of_act h hact
        | clone => cases hreport
        | refuse _ => cases hreport

/-- Whatever the callers do, and in whatever order their steps come: while nobody changes the token,
the held token is that of the latest change that is over, and the vault keeps it if the vault did
its part; every look at the token or the state shows that of the latest change that was over at the
time; and where the lock is free, an idle caller that takes the four steps of a change makes the
change as if it were alone. -/
theorem run_in_order (first : Session) (moves : List Move) :
    let c := ((start first).run moves).1
    let past := ((start first).run moves).2
    (c.lock = .exclusive ↔ ∃ stage ∈ c.stages, stage.isChanging) ∧
      (c.lock ≠ .exclusive →
        c.session.held = heldAfter first past ∧ c.session.vault.kept = keptAfter first past ∧
          ∀ change, latest past = some (change, .ok ()) →
            c.session.vault.kept = .ok c.session.held) ∧
      (∀ before token after, past = before ++ .token token :: after →
        token = (heldAfter first before).getD "") ∧
      (∀ before state after, past = before ++ .state state :: after →
        (state = .authenticated ↔ (heldAfter first before).getD "" ≠ "")) ∧
      ∀ caller change, c.lock = .shared 0 → c.stages[caller]? = some .idle →
        c.run [.act caller (.begin change), .act caller .store, .act caller .write,
            .act caller .finish] =
          (⟨(change.apply c.session).2, .shared 0, c.stages⟩,
            [.done change (change.apply c.session).1]) := by
  intro c past
  have hagrees : c.Agrees first past := by simpa using agrees_run (agrees_start first) moves
  refine ⟨lock_eq_exclusive_iff hagrees, fun hlock => ?_, ?_, ?_, ?_⟩
  · obtain ⟨hheld, hkept⟩ := held_kept_of_lock_ne hagrees hlock
    refine ⟨hheld, hkept, fun change hlatest => ?_⟩
    rw [hkept, keptAfter_of_latest hlatest, hheld, heldAfter, hlatest]
    rfl
  · intro before token after hpast
    simpa [Report.Shows] using shows_of_mem_run (agrees_start first) hpast
  · intro before state after hpast
    simpa [Report.Shows] using shows_of_mem_run (agrees_start first) hpast
  · intro caller change hfree hidle
    rw [← run_change change hidle, ← hfree]

end Callers

end NewsReader.Session
