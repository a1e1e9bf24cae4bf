import NewsReader.Live.Holding
import NewsReader.Proofs.Live.Outbound

/-!
# Owners and their connections

However the acts of the owner and of the task fall, a cancellation is not lost: the task sees it
whenever it waits. After the end nothing more happens, and the owner is told so as often as the
owner asks. Whoever cancelled once need not do it again.

* `Holding.Does`, `Holding.act_eq_some_iff` — all that an act can do.
* `Holding.Sound`, `Holding.told_iff` — what the owner is told is true.
* `Holding.runs_cancel_iff` — another cancellation makes no difference.
* `Holding.lifecycle` — the whole life of a holding.
-/

namespace NewsReader.Live

namespace Act

/-- The act says that the connection is no longer wanted. -/
def withdraws : Act → Bool
  | cancel | release => true
  | _ => false

/-- The act is one of the owner. -/
def isOwners : Act → Bool
  | cancel | ask | wait | release => true
  | _ => false

end Act

namespace Holding

variable {h h' : Holding} {a : Act} {answer : Answer}

/-! ### Single acts -/

/-- All that can be done, with what it comes to. The owner acts as long as the connection is in
hand, and the task as long as it has not ended. -/
inductive Does (h : Holding) : Act → Answer → Holding → Prop where
  | cancel (hheld : h.handle.released = false) :
    Does h .cancel .done { h with handle := h.handle.cancel }
  | ask (hheld : h.handle.released = false) :
    Does h .ask (.isClosed (!h.handle.awaitable || h.channel.isClosed)) h
  | see (hheld : h.handle.released = false)
    (hover : h.handle.awaitable = false ∨ h.channel.isClosed) :
    Does h .wait (.waited true) { h with handle := { h.handle with awaitable := false } }
  | wait (hheld : h.handle.released = false) (hawaitable : h.handle.awaitable)
    (hopen : h.channel.isClosed = false) : Does h .wait (.waited false) h
  | release (hheld : h.handle.released = false) :
    Does h .release .done { h with handle := h.handle.release }
  | connect (hphase : h.channel.phase = .connecting) (hgreeting : h.greeting = false) :
    Does h .connect (.logged []) { h with greeting := true }
  | step {s : Step} {c : Channel} {events : List Event} (hdue : h.isDue s)
    (hstep : h.channel.step s = some (c, events)) :
    Does h (.step s) (.logged events) ⟨{ h.handle with channel := c }, false⟩
  | breakOff (hopen : h.channel.isClosed = false) :
    Does h .breakOff (.logged []) ⟨{ h.handle with channel := h.channel.finish }, false⟩

/-- A wait is over if its end was seen before or if the connection is over. -/
theorem awaitEnd?_eq_some_iff {handle after : Handle} :
    handle.awaitEnd? = some after ↔
      (handle.awaitable = false ∨ handle.channel.isClosed) ∧
        after = { handle with awaitable := false } := by
  obtain ⟨c, awaitable, released⟩ := handle
  cases awaitable <;> cases hclosed : c.isClosed <;> simp [Handle.awaitEnd?, hclosed, eq_comm]

/-- A wait goes on as long as the connection is not over. -/
theorem awaitEnd?_eq_none_iff {handle : Handle} :
    handle.awaitEnd? = none ↔ handle.awaitable ∧ handle.channel.isClosed = false := by
  obtain ⟨c, awaitable, released⟩ := handle
  cases awaitable <;> cases hclosed : c.isClosed <;> simp [Handle.awaitEnd?, hclosed]

/-- All that an act can do. -/
theorem act_eq_some_iff : h.act a = some (h', answer) ↔ h.Does a answer h' := by
  constructor
  · -- The conditions of each act are read off it once here, so that no later proof unfolds it.
    intro hact
    cases a with
    | cancel =>
      obtain ⟨hheld, rfl, rfl⟩ := by simpa [act, own] using hact
      exact .cancel hheld
    | release =>
      obtain ⟨hheld, rfl, rfl⟩ := by simpa [act, own] using hact
      exact .release hheld
    | ask =>
      cases hheld : h.handle.released with
      | true => simp [act, hheld] at hact
      | false =>
        obtain ⟨rfl, rfl⟩ := by simpa [act, own, Handle.isClosed?, hheld] using hact
        exact .ask hheld
    | wait =>
      cases hend : h.handle.awaitEnd? with
      | some handle =>
        obtain ⟨hheld, rfl, rfl⟩ := by simpa [act, own, hend] using hact
        obtain ⟨hover, rfl⟩ := awaitEnd?_eq_some_iff.mp hend
        exact .see hheld hover
      | none =>
        obtain ⟨hheld, rfl, rfl⟩ := by simpa [act, own, hend] using hact
        obtain ⟨hawaitable, hopen⟩ := awaitEnd?_eq_none_iff.mp hend
        exact .wait hheld hawaitable hopen
    | connect =>
      obtain ⟨⟨hphase, hgreeting⟩, rfl, rfl⟩ := by simpa [act, work] using hact
      exact .connect hphase hgreeting
    | step s =>
      cases hstep : h.handle.channel.step s with
      | none => simp [act, work, channel, hstep] at hact
      | some after =>
        obtain ⟨hdue, rfl, rfl⟩ := by
          simpa [act, work, channel, hstep, Handle.advance] using hact
        exact .step hdue hstep
    | breakOff =>
      obtain ⟨hopen, rfl, rfl⟩ := by simpa [act, work] using hact
      exact .breakOff hopen
  · intro hdoes
    cases hdoes with
    | cancel hheld | release hheld => simp [act, own, hheld]
    | ask hheld => simp [act, own, Handle.isClosed?, hheld, channel]
    | see hheld hover => simp [act, own, hheld, awaitEnd?_eq_some_iff.mpr ⟨hover, rfl⟩]
    | wait hheld hawaitable hopen =>
      simp [act, own, hheld, awaitEnd?_eq_none_iff.mpr ⟨hawaitable, hopen⟩]
    | connect hphase hgreeting => simp [act, work, hphase, hgreeting]
    | step hdue hstep =>
      rw [channel] at hstep
      simp [act, work, hdue, channel, hstep, Handle.advance]
    | breakOff hopen => simp [act, work, hopen]

/-! ### What acts preserve -/

/-- The login line is due only while the connection is being made, and an end that was seen has
come. -/
structure Sound (h : Holding) : Prop where
  /-- The login line. -/
  greeting : h.greeting → h.channel.phase = .connecting
  /-- The end. -/
  awaitable : h.handle.awaitable = false → h.channel.isClosed

/-- A connection that is over is in its last phase. -/
theorem isClosed_iff {c : Channel} : c.isClosed ↔ c.phase = .ended := by
  simp [Channel.isClosed]

namespace Does

/-- The step lemma: a sound holding stays sound. -/
theorem sound (hdoes : h.Does a answer h') (hsound : h.Sound) : h'.Sound := by
  cases hdoes with
  | cancel | ask | wait | release => exact ⟨hsound.greeting, hsound.awaitable⟩
  | see hheld hover => exact ⟨hsound.greeting, fun _ => hover.elim hsound.awaitable id⟩
  | connect hphase hgreeting => exact ⟨fun _ => hphase, hsound.awaitable⟩
  | breakOff hopen => exact ⟨fun hgreeting => absurd hgreeting Bool.false_ne_true, fun _ => rfl⟩
  | step hdue hstep =>
    refine ⟨fun hgreeting => absurd hgreeting Bool.false_ne_true, fun hawaitable => ?_⟩
    -- If the end was seen, the connection is over, and there are no steps.
    have hclosed := isClosed_iff.mp (hsound.awaitable hawaitable)
    simp [Channel.step, hclosed] at hstep

/-- The connection is unwanted from the act on by which the owner says so. -/
theorem cancelled_eq (hdoes : h.Does a answer h') :
    h'.channel.cancelled = (h.channel.cancelled || a.withdraws) := by
  cases hdoes with
  | cancel | release => exact (Bool.or_true _).symm
  | step hdue hstep => exact (Channel.step_eq_some hstep).2.2.2.2.trans (Bool.or_false _).symm
  | _ => exact (Bool.or_false _).symm

/-- The owner has let go from the release on. -/
theorem released_eq (hdoes : h.Does a answer h') :
    h'.handle.released = (h.handle.released || a == .release) := by
  cases hdoes with
  | release => exact (Bool.or_true _).symm
  | _ => exact (Bool.or_false _).symm

/-- After the end only the owner acts, and the connection stays as it is. -/
theorem of_isClosed (hdoes : h.Does a answer h') (hclosed : h.channel.isClosed) :
    a.isOwners ∧ h'.channel.isClosed ∧ h'.channel.sent = h.channel.sent ∧
      h'.channel.delivered = h.channel.delivered := by
  cases hdoes with
  | cancel | ask | see | wait | release => exact ⟨rfl, hclosed, rfl, rfl⟩
  | connect hphase =>
    rw [isClosed_iff, hphase] at hclosed
    cases hclosed
  | step hdue hstep =>
    rw [isClosed_iff] at hclosed
    simp [Channel.step, hclosed] at hstep
  | breakOff hopen =>
    rw [hopen] at hclosed
    cases hclosed

end Does

/-- A task that waits takes the stop if the connection is not wanted, and ends with it. -/
theorem act_stop (hlistening : h.isListening) (hcancelled : h.channel.cancelled)
    (error : Option String) :
    ∃ h' events, h.act (.step (.stop error)) = some (h', .logged events) ∧
      h'.channel.isClosed := by
  obtain ⟨hgreeting, hopen⟩ : h.greeting = false ∧ h.channel.isClosed = false := by
    simpa [isListening] using hlistening
  have hdue : h.isDue (.stop error) := by simp [isDue, hgreeting]
  -- A stop while the connection is made only ends the task; one after that closes the connection
  -- first.
  cases hphase : h.channel.phase with
  | connecting =>
    have hstep : h.channel.step (.stop error) =
        some (h.channel.finish, [.channelCancelled h.channel.endpoint]) := by
      simp [Channel.step, Channel.connectStep, hphase, hcancelled]
    exact ⟨_, _, act_eq_some_iff.mpr (.step hdue hstep), rfl⟩
  | looping =>
    have hstep : h.channel.step (.stop error) = some ((h.channel.attempt .close).finish,
        (error.map Event.closeFailed).toList ++ [.channelFinished h.channel.endpoint]) := by
      simp [Channel.step, Channel.loopStep, Channel.attempt, hphase, hcancelled]
    exact ⟨_, _, act_eq_some_iff.mpr (.step hdue hstep), rfl⟩
  | ended => simp [Channel.isClosed, hphase] at hopen

/-- The owner of a connection that is over is told so, and waits no longer. -/
theorem act_of_isClosed (hheld : h.handle.released = false) (hclosed : h.channel.isClosed) :
    h.act .ask = some (h, .isClosed true) ∧ ∃ h', h.act .wait = some (h', .waited true) := by
  have hask := act_eq_some_iff.mpr (.ask hheld)
  rw [hclosed, Bool.or_true] at hask
  exact ⟨hask, _, act_eq_some_iff.mpr (.see hheld (.inr hclosed))⟩

/-! ### Acts one after the other -/

/-- The acts can come one after the other, each with its answer, and lead from one holding to the
other. -/
inductive Runs : Holding → List (Act × Answer) → Holding → Prop where
  | nil (h : Holding) : Runs h [] h
  | cons {h h' h'' : Holding} {a : Act} {answer : Answer} {trace : List (Act × Answer)}
    (hact : h.act a = some (h', answer)) (hruns : Runs h' trace h'') :
      Runs h ((a, answer) :: trace) h''

variable {trace first second : List (Act × Answer)}

/-- Runs one after the other are one run. -/
theorem runs_append_iff :
    h.Runs (first ++ second) h' ↔ ∃ mid, h.Runs first mid ∧ mid.Runs second h' := by
  constructor
  · intro hruns
    induction first generalizing h with
    | nil => exact ⟨h, .nil h, hruns⟩
    | cons e first ih =>
      cases hruns with
      | cons hact hruns =>
        obtain ⟨mid, hfirst, hsecond⟩ := ih hruns
        exact ⟨mid, .cons hact hfirst, hsecond⟩
  · rintro ⟨mid, hfirst, hsecond⟩
    induction hfirst with
    | nil => exact hsecond
    | cons hact _ ih => exact .cons hact (ih hsecond)

namespace Runs

/-- The run lemma: a sound holding stays sound. -/
theorem sound (hruns : h.Runs trace h') (hsound : h.Sound) : h'.Sound := by
  -- Each act keeps it, so it is carried on from the first one.
  induction hruns with
  | nil => exact hsound
  | cons hact _ ih => exact ih ((act_eq_some_iff.mp hact).sound hsound)

/-- The run lemma for the wish: the connection is unwanted if it was before or if one of the acts
said so. -/
theorem cancelled_iff (hruns : h.Runs trace h') :
    h'.channel.cancelled ↔ h.channel.cancelled ∨ ∃ e ∈ trace, e.1.withdraws := by
  induction hruns with
  | nil => simp
  | cons hact _ ih => simp [ih, (act_eq_some_iff.mp hact).cancelled_eq, or_assoc]

/-- The run lemma for the owner: the owner has let go if that was so before or if one of the acts
was the release. -/
theorem released_iff (hruns : h.Runs trace h') :
    h'.handle.released ↔ h.handle.released ∨ ∃ e ∈ trace, e.1 = .release := by
  induction hruns with
  | nil => simp
  | cons hact _ ih => simp [ih, (act_eq_some_iff.mp hact).released_eq, or_assoc]

/-- The run lemma for the end: only the owner acts, and the connection stays as it is. -/
theorem of_isClosed (hruns : h.Runs trace h') (hclosed : h.channel.isClosed) :
    (∀ e ∈ trace, e.1.isOwners) ∧ h'.channel.isClosed ∧ h'.channel.sent = h.channel.sent ∧
      h'.channel.delivered = h.channel.delivered := by
  induction hruns with
  | nil => exact ⟨List.forall_mem_nil _, hclosed, rfl, rfl⟩
  | cons hact _ ih =>
    obtain ⟨howner, hclosed, hsent, hdelivered⟩ := (act_eq_some_iff.mp hact).of_isClosed hclosed
    obtain ⟨howners, hclosed, hsent', hdelivered'⟩ := ih hclosed
    exact ⟨List.forall_mem_cons.mpr ⟨howner, howners⟩, hclosed, hsent'.trans hsent,
      hdelivered'.trans hdelivered⟩

end Runs

/-- The owner is told the truth: the connection is over, and so is a wait, exactly if the task has
ended. -/
theorem told_iff {endpoint : String} (hruns : (subscribe endpoint).Runs trace h) :
    (∀ closed, h.act a = some (h', .isClosed closed) →
      (closed ↔ h.channel.phase = .ended)) ∧
      ∀ ended, h.act a = some (h', .waited ended) → (ended ↔ h.channel.phase = .ended) := by
  -- A new holding is sound: no login line is due, and no end was seen.
  have hsound : h.Sound :=
    hruns.sound ⟨fun hgreeting => absurd hgreeting Bool.false_ne_true,
      fun hseen => absurd hseen.symm Bool.false_ne_true⟩
  rw [← isClosed_iff]
  constructor
  · intro closed hact
    cases act_eq_some_iff.mp hact with
    | ask =>
      -- An end that was seen has come.
      cases hawaitable : h.handle.awaitable with
      | true => simp
      | false => simp [hsound.awaitable hawaitable]
  · intro ended hact
    cases act_eq_some_iff.mp hact with
    | see _ hover => exact ⟨fun _ => hover.elim hsound.awaitable id, fun _ => rfl⟩
    | wait _ _ hopen => simp [hopen]

/-! ### Cancelling once more -/

/-- To cancel a connection that is not wanted changes nothing. -/
theorem cancel_eq_self (hcancelled : h.channel.cancelled) :
    { h with handle := h.handle.cancel } = h := by
  obtain ⟨⟨⟨endpoint, phase, cancelled, sent, delivered⟩, awaitable, released⟩,
      greeting⟩ := h
  obtain rfl : cancelled = true := hcancelled
  rfl

/-- The owner cancels while the connection is in hand, and the rest follows. -/
theorem runs_cons_cancel_iff :
    h.Runs ((.cancel, answer) :: trace) h' ↔
      h.handle.released = false ∧ answer = .done ∧
        Runs { h with handle := h.handle.cancel } trace h' := by
  constructor
  · intro hruns
    cases hruns with
    | cons hact hruns =>
      cases act_eq_some_iff.mp hact with
      | cancel hheld => exact ⟨hheld, rfl, hruns⟩
  · rintro ⟨hheld, rfl, hruns⟩
    exact .cons (act_eq_some_iff.mpr (.cancel hheld)) hruns

/-- Wherever the owner cancels a connection that is not wanted, the rest is as without that. -/
theorem runs_cancel_iff (hcancelled : h.channel.cancelled) (hheld : h.handle.released = false) :
    h.Runs (first ++ (.cancel, .done) :: second) h' ↔
      h.Runs (first ++ second) h' ∧ ∀ e ∈ first, e.1 ≠ .release := by
  -- The connection stays unwanted, and it stays in hand unless it is released.
  have hmid {mid : Holding} (hruns : h.Runs first mid) :
      mid.Runs ((.cancel, .done) :: second) h' ↔
        mid.Runs second h' ∧ ∀ e ∈ first, e.1 ≠ .release := by
    have hstill : mid.handle.released = false ↔ ∀ e ∈ first, e.1 ≠ .release := by
      rw [← Bool.not_eq_true, hruns.released_iff, hheld]
      simp only [Bool.false_eq_true, false_or, not_exists, not_and, ne_eq]
    rw [runs_cons_cancel_iff, cancel_eq_self (hruns.cancelled_iff.mpr (.inl hcancelled)), hstill]
    simp [and_comm]
  simp only [runs_append_iff]
  constructor
  · rintro ⟨mid, hfirst, hsecond⟩
    obtain ⟨hsecond, hnone⟩ := (hmid hfirst).mp hsecond
    exact ⟨⟨mid, hfirst, hsecond⟩, hnone⟩
  · rintro ⟨⟨mid, hfirst, hsecond⟩, hnone⟩
    exact ⟨mid, hfirst, (hmid hfirst).mpr ⟨hsecond, hnone⟩⟩

/-- Several cancellations at once allow what one allows. -/
theorem runs_replicate_cancel_iff (n : Nat) :
    h.Runs (List.replicate (n + 1) (.cancel, .done) ++ trace) h' ↔
      h.Runs ((.cancel, .done) :: trace) h' := by
  induction n with
  | zero => rfl
  | succ n ih =>
    rw [List.replicate_succ, List.cons_append, runs_cons_cancel_iff, ← ih, List.replicate_succ,
      List.cons_append, runs_cons_cancel_iff, runs_cons_cancel_iff]
    -- The connection is unwanted after the first of them.
    have hagain : ({ h with handle := h.handle.cancel.cancel } : Holding) =
        { h with handle := h.handle.cancel } := rfl
    rw [hagain]
    exact ⟨fun ⟨hheld, _, _, _, hrest⟩ => ⟨hheld, rfl, hrest⟩,
      fun ⟨hheld, _, hrest⟩ => ⟨hheld, rfl, hheld, rfl, hrest⟩⟩

/-- A later cancellation allows what the first one allows. -/
theorem runs_cancel_later_iff :
    h.Runs ((.cancel, .done) :: first ++ (.cancel, .done) :: second) h' ↔
      h.Runs ((.cancel, .done) :: first ++ second) h' ∧ ∀ e ∈ first, e.1 ≠ .release := by
  have hcancelled : ({ h with handle := h.handle.cancel } : Holding).channel.cancelled := rfl
  rw [List.cons_append, List.cons_append, runs_cons_cancel_iff, runs_cons_cancel_iff]
  constructor
  · rintro ⟨hheld, -, hrest⟩
    obtain ⟨hrest, hnone⟩ := (runs_cancel_iff hcancelled hheld).mp hrest
    exact ⟨⟨hheld, rfl, hrest⟩, hnone⟩
  · rintro ⟨⟨hheld, -, hrest⟩, hnone⟩
    exact ⟨hheld, rfl, (runs_cancel_iff hcancelled hheld).mpr ⟨hrest, hnone⟩⟩

/-! ### Main result -/

/-- The life of a held connection. Let the owner and the task have acted in any order since the
connection was asked for. If the owner cancelled the connection or let go of it, then wherever the
task waits, before the connection stands or after it, it can stop and ends with that. Once the task
has ended, only the owner acts: nothing more is sent or handed over, and as long as the connection
is in hand the owner is told that it is over and waits no longer. To cancel several times, at once
or later on, allows the same as to cancel once. -/
theorem lifecycle {endpoint : String} {before : List (Act × Answer)}
    (hruns : (subscribe endpoint).Runs before h) :
    ((∃ e ∈ before, e.1 = .cancel ∨ e.1 = .release) → h.isListening →
      ∀ error, ∃ h' events,
      h.act (.step (.stop error)) = some (h', .logged events) ∧ h'.channel.isClosed) ∧
    (h.channel.isClosed → ∀ later h', h.Runs later h' →
      (∀ e ∈ later, e.1.isOwners) ∧ h'.channel.isClosed ∧
        h'.channel.sent = h.channel.sent ∧ h'.channel.delivered = h.channel.delivered ∧
        (h'.handle.released = false →
          h'.act .ask = some (h', .isClosed true) ∧
            ∃ h'', h'.act .wait = some (h'', .waited true))) ∧
    (∀ n later h', h.Runs (List.replicate (n + 1) (.cancel, .done) ++ later) h' ↔
      h.Runs ((.cancel, .done) :: later) h') ∧
    ∀ first second h', h.Runs ((.cancel, .done) :: first ++ (.cancel, .done) :: second) h' ↔
      h.Runs ((.cancel, .done) :: first ++ second) h' ∧ ∀ e ∈ first, e.1 ≠ .release := by
  refine ⟨?_, ?_, fun n later h' => runs_replicate_cancel_iff n,
    fun first second h' => runs_cancel_later_iff⟩
  · -- The wish is still there, whatever happened since.
    rintro ⟨e, hmem, hcancel⟩ hlistening error
    have hcancelled : h.channel.cancelled := by
      refine hruns.cancelled_iff.mpr (.inr ⟨e, hmem, ?_⟩)
      rcases hcancel with hcancel | hcancel <;> rw [hcancel] <;> rfl
    exact act_stop hlistening hcancelled error
  · -- The connection is over after each of the later acts, so the owner is told the same again and
    -- again.
    intro hclosed later h' hlater
    obtain ⟨howners, hclosed', hsent, hdelivered⟩ := hlater.of_isClosed hclosed
    exact ⟨howners, hclosed', hsent, hdelivered, fun hheld => act_of_isClosed hheld hclosed'⟩

/-- A connection that is cancelled while the login line goes out is stopped after that. -/
theorem lifecycle_of_greeting :
    let before : List (Act × Answer) := [(.connect, .logged []), (.cancel, .done),
      (.step (.ready "T1" none), .logged [.channelOpened "ws://news.test/ws"]),
      (.ask, .isClosed false)]
    let h : Holding :=
      ⟨⟨⟨"ws://news.test/ws", .looping, true, [.text "/login T1"], []⟩, true, false⟩,
        false⟩
    (subscribe "ws://news.test/ws").Runs before h ∧ h.isListening ∧
      ∃ h' events, h.act (.step (.stop none)) = some (h', .logged events) ∧
        h'.channel.isClosed := by
  intro before h
  have hruns : (subscribe "ws://news.test/ws").Runs before h :=
    .cons rfl (.cons rfl (.cons rfl (.cons rfl (.nil h))))
  have hlistening : h.isListening := rfl
  exact ⟨hruns, hlistening,
    (lifecycle hruns).1 ⟨(.cancel, .done), by decide, .inl rfl⟩ hlistening none⟩

end Holding

end NewsReader.Live
