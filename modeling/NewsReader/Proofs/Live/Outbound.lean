import NewsReader.Live.Watch

/-!
# What a live connection sends

However the moves of a watch fall, the connection sends by one script: the login line with the token
that is held when the connection stands, a ping for each tick that it takes, and at most one close
at the end.

The script is told by the steps that the connection took. What a step sends and which steps can come
next depend on the phase alone, so `Phase.frames` and `Follows` are read off the phase; that the
connection keeps to them is a matter of single steps (`Channel.step_eq_some`).

* `Channel.step_eq_some` and `Channel.isSome_step_iff` — all that a step can do, and when it is
  taken.
* `Watch.sent_run` and `Watch.follows_steps` — the run lemmas: what is sent is told by the steps
  that were taken.
* `Watch.phase_eq_looping_iff` — the phase of a connection that stands.
* `Watch.outbound_run` — the script, in every run.
-/

namespace NewsReader.Live

/-! ### Steps and phases -/

namespace Step

/-- The connection stands. -/
def isReady : Step → Bool
  | ready .. => true
  | _ => false

/-- A ping is due. -/
def isTick : Step → Bool
  | tick _ => true
  | _ => false

/-- The channel sees that it is no longer wanted. -/
def isStop : Step → Bool
  | stop _ => true
  | _ => false

/-- The step is the last one: there is no connection, something could not be sent, nothing more
comes in, or the connection is closed. -/
def ends : Step → Bool
  | ready _ error | tick error => error.isSome
  | refused _ | stop _ => true
  | inbound frame => !frame.continues

/-- The phase after a step. -/
def next (s : Step) : Phase :=
  if s.ends then .ended else .looping

end Step

namespace Phase

/-- The step can come in the phase. -/
def allows : Phase → Step → Bool
  | connecting, .ready .. | connecting, .refused _ | connecting, .stop _ => true
  | looping, .tick _ | looping, .inbound _ | looping, .stop _ => true
  | _, _ => false

/-- What a step sends in the phase. -/
def frames : Phase → Step → List Frame
  | connecting, .ready token _ => [.text (loginLine token)]
  | looping, .tick _ => [.text pingPayload]
  | looping, .stop _ => [.close]
  | _, _ => []

/-- What steps send from the phase on. -/
def framesAll (p : Phase) : List Step → List Frame
  | [] => []
  | s :: steps => p.frames s ++ s.next.framesAll steps

end Phase

/-- The steps can come one after the other from the phase on. -/
def Follows (p : Phase) : List Step → Prop
  | [] => True
  | s :: steps => p.allows s ∧ Follows s.next steps

/-- All that a step can do: it is one of its phase, a stop was asked for, and what is sent and the
phase after it are told by the step. -/
theorem Channel.step_eq_some {c c' : Channel} {s : Step} {events : List Event}
    (h : c.step s = some (c', events)) :
    c.phase.allows s ∧ (s.isStop → c.cancelled) ∧ c'.sent = c.sent ++ c.phase.frames s ∧
      c'.phase = s.next ∧ c'.cancelled = c.cancelled := by
  -- Each phase has a step function of its own, which refuses the steps that are none of the phase.
  cases hphase : c.phase with
  | connecting =>
    rw [step, hphase] at h
    cases s with
    | ready token error =>
      cases error <;> (obtain ⟨rfl, -⟩ := by simpa [connectStep] using h) <;>
        simp [Phase.allows, Phase.frames, Step.isStop, Step.next, Step.ends, attempt, finish]
    | refused error =>
      obtain ⟨rfl, -⟩ := by simpa [connectStep] using h
      simp [Phase.allows, Phase.frames, Step.isStop, Step.next, Step.ends, finish]
    | stop error =>
      obtain ⟨hcancelled, rfl, -⟩ := by simpa [connectStep] using h
      simp [Phase.allows, Phase.frames, Step.next, Step.ends, finish, hcancelled]
    | _ => simp [connectStep] at h
  | looping =>
    rw [step, hphase] at h
    cases s with
    | tick error =>
      cases error <;> (obtain ⟨rfl, -⟩ := by simpa [loopStep] using h) <;>
        simp [Phase.allows, Phase.frames, Step.isStop, Step.next, Step.ends, attempt,
          finish, hphase]
    | inbound frame =>
      cases hcontinues : frame.continues <;>
        (obtain ⟨rfl, -⟩ := by simpa [loopStep, hcontinues] using h) <;>
        simp [Phase.allows, Phase.frames, Step.isStop, Step.next, Step.ends, deliver, finish,
          hphase, hcontinues]
    | stop error =>
      obtain ⟨hcancelled, rfl, -⟩ := by simpa [loopStep] using h
      simp [Phase.allows, Phase.frames, Step.next, Step.ends, attempt, finish, hcancelled]
    | _ => simp [loopStep] at h
  | ended => simp [step, hphase] at h

/-- A step is taken exactly if it is one of the phase, and a stop only if it was asked for. -/
theorem Channel.isSome_step_iff {c : Channel} {s : Step} :
    (c.step s).isSome ↔ c.phase.allows s ∧ (s.isStop → c.cancelled) := by
  constructor
  · intro h
    obtain ⟨⟨c', events⟩, hstep⟩ := Option.isSome_iff_exists.mp h
    obtain ⟨hallows, hstop, -⟩ := step_eq_some hstep
    exact ⟨hallows, hstop⟩
  · rintro ⟨hallows, hstop⟩
    cases hphase : c.phase with
    | connecting =>
      rw [hphase] at hallows
      rw [step, hphase]
      cases s with
      | ready token error => cases error <;> rfl
      | refused error => rfl
      | stop error => simp [connectStep, hstop rfl]
      | tick | inbound => cases hallows
    | looping =>
      rw [hphase] at hallows
      rw [step, hphase]
      cases s with
      | tick error => cases error <;> rfl
      | inbound frame =>
        dsimp only [loopStep]
        split <;> rfl
      | stop error => simp [loopStep, hstop rfl]
      | ready | refused => cases hallows
    | ended =>
      rw [hphase] at hallows
      cases s <;> cases hallows

/-! ### Steps that can follow each other -/

section

variable {steps : List Step}

/-- Nothing follows the end. -/
theorem Follows.eq_nil (h : Follows .ended steps) : steps = [] := by
  cases steps with
  | nil => rfl
  | cons s steps => cases s <;> cases h.1

/-- After a step that ends the connection there are no more. -/
theorem Follows.eq_nil_of_ends {p : Phase} {more : List Step} (h : Follows p (steps ++ more))
    (hends : ∃ s ∈ steps, s.ends) : more = [] := by
  induction steps generalizing p with
  | nil => obtain ⟨s, hs, -⟩ := hends; cases hs
  | cons s steps ih =>
    obtain ⟨-, hrest⟩ := h
    obtain ⟨s', hmem, hs'⟩ := hends
    rcases List.mem_cons.mp hmem with rfl | hlater
    · -- The next phase is the last one, in which no step comes.
      have hnext : s'.next = .ended := by simp [Step.next, hs']
      rw [hnext] at hrest
      exact (List.append_eq_nil_iff.mp hrest.eq_nil).2
    · exact ih hrest ⟨s', hlater, hs'⟩

/-- While the connection stands, it sends a ping for each tick and then perhaps a close. It is not
opened again. -/
theorem Follows.of_looping (h : Follows .looping steps) :
    Phase.looping.framesAll steps =
        List.replicate (steps.countP Step.isTick) (.text pingPayload) ++
          (if steps.any Step.isStop then [.close] else []) ∧
      steps.countP Step.isReady = 0 := by
  -- A step that does not end the connection leaves it standing; after one that does there are no
  -- more steps.
  induction steps with
  | nil => exact ⟨rfl, rfl⟩
  | cons s steps ih =>
    obtain ⟨hallows, hrest⟩ := h
    cases hends : s.ends with
    | true =>
      have hnext : s.next = .ended := by simp [Step.next, hends]
      rw [hnext] at hrest
      obtain rfl := hrest.eq_nil
      cases s <;> simp_all [Phase.allows, Phase.framesAll, Phase.frames, Step.isTick,
        Step.isStop, Step.isReady]
    | false =>
      have hnext : s.next = .looping := by simp [Step.next, hends]
      rw [hnext] at hrest
      obtain ⟨hframes, hready⟩ := ih hrest
      rw [Phase.framesAll, hnext, hframes]
      cases s with
      | tick error =>
        rw [List.countP_cons_of_pos rfl, List.countP_cons_of_neg Bool.false_ne_true, List.any_cons]
        exact ⟨rfl, hready⟩
      | inbound frame =>
        rw [List.countP_cons_of_neg Bool.false_ne_true, List.countP_cons_of_neg Bool.false_ne_true,
          List.any_cons]
        exact ⟨rfl, hready⟩
      | stop error => cases hends
      | ready token error => cases hallows
      | refused error => cases hallows

/-- No step comes before the connection stands. -/
theorem Follows.eq_nil_of_ready {p : Phase} {token : String} {error : Option String}
    {more : List Step} (h : Follows p (steps ++ .ready token error :: more)) : steps = [] := by
  induction steps generalizing p with
  | nil => rfl
  | cons s steps ih =>
    obtain ⟨-, hrest⟩ := h
    obtain rfl := ih hrest
    -- No step leads back to a connection that is being made.
    have hallows : s.next.allows (.ready token error) := hrest.1
    cases hends : s.ends <;> rw [Step.next, hends] at hallows <;> cases hallows

/-- The connection stands in one way only. -/
theorem Follows.ready_unique {p : Phase} {token token' : String} {error error' : Option String}
    (h : Follows p steps) (hmem : .ready token error ∈ steps)
    (hmem' : .ready token' error' ∈ steps) : token = token' := by
  obtain ⟨before, after, rfl⟩ := List.append_of_mem hmem
  obtain rfl := h.eq_nil_of_ready
  obtain ⟨before', after', hsteps⟩ := List.append_of_mem hmem'
  rw [hsteps] at h
  obtain rfl := h.eq_nil_of_ready
  injection hsteps with hhead
  exact (Step.ready.inj hhead).1

/-- The steps from the start on: none by which the connection stands, and nothing is sent; or first
the one by which it stands and then those of a connection that stands. -/
theorem Follows.of_connecting (h : Follows .connecting steps) :
    (steps.countP Step.isReady = 0 ∧ Phase.connecting.framesAll steps = []) ∨
      ∃ token error rest, steps = .ready token error :: rest ∧ steps.countP Step.isReady = 1 ∧
        Phase.connecting.framesAll steps =
          .text (loginLine token) ::
            (List.replicate (steps.countP Step.isTick) (.text pingPayload) ++
              if steps.any Step.isStop then [.close] else []) := by
  cases steps with
  | nil => exact .inl ⟨rfl, rfl⟩
  | cons s rest =>
    obtain ⟨hallows, hrest⟩ := h
    -- Only the step by which the connection stands leads anywhere; after the others there are no
    -- more.
    cases s with
    | ready token error =>
      refine .inr ⟨token, error, rest, rfl, ?_⟩
      rw [List.countP_cons_of_pos rfl, List.countP_cons_of_neg Bool.false_ne_true]
      cases error with
      | none =>
        obtain ⟨hframes, hready⟩ := Follows.of_looping hrest
        exact ⟨congrArg (· + 1) hready, congrArg (Frame.text (loginLine token) :: ·) hframes⟩
      | some error =>
        obtain rfl := Follows.eq_nil hrest
        exact ⟨rfl, rfl⟩
    | refused error =>
      obtain rfl := Follows.eq_nil hrest
      exact .inl ⟨rfl, rfl⟩
    | stop error =>
      obtain rfl := Follows.eq_nil hrest
      exact .inl ⟨rfl, rfl⟩
    | _ => cases hallows

/-- After these steps the connection stands: the login line went out, and no step has ended the
connection. -/
def Standing (steps : List Step) : Prop :=
  (∃ token, .ready token none ∈ steps) ∧ ∀ s ∈ steps, ¬ s.ends

/-- Among steps from the start on, the last one leaves the connection waiting exactly if it stands
after them. -/
theorem Follows.next_getLast?_iff (h : Follows .connecting steps) :
    (steps.getLast?.map Step.next).getD .connecting = .looping ↔ Standing steps := by
  constructor
  · intro hlooping
    cases hlast : steps.getLast? with
    | none =>
      rw [hlast] at hlooping
      cases hlooping
    | some last =>
      have hopen : ¬ last.ends := by
        intro hends
        simp [hlast, Step.next, hends] at hlooping
      obtain ⟨earlier, rfl⟩ := List.getLast?_eq_some_iff.mp hlast
      have hall : ∀ s ∈ earlier ++ [last], ¬ s.ends := by
        intro s hmem hends
        rcases List.mem_append.mp hmem with hearlier | hself
        · cases h.eq_nil_of_ends ⟨s, hearlier, hends⟩
        · exact hopen (List.mem_singleton.mp hself ▸ hends)
      refine ⟨?_, hall⟩
      -- The first step of all does not end the connection, so it is the one by which it stands.
      generalize earlier ++ [last] = steps at h hall hlast
      cases steps with
      | nil => cases hlast
      | cons s rest =>
        have hs := hall s List.mem_cons_self
        cases s with
        | ready token error =>
          obtain rfl : error = none := by simpa [Step.ends] using hs
          exact ⟨token, List.mem_cons_self⟩
        | refused error => exact absurd rfl hs
        | stop error => exact absurd rfl hs
        | tick error => cases h.1
        | inbound frame => cases h.1
  · rintro ⟨⟨token, hmem⟩, hall⟩
    cases hlast : steps.getLast? with
    | none =>
      rw [List.getLast?_eq_none_iff.mp hlast] at hmem
      cases hmem
    | some last =>
      have hopen := hall last (List.mem_of_getLast? hlast)
      simp [Step.next, hopen]

end

/-! ### Runs -/

namespace Watch

/-- The step that the connection takes in a move, if it takes one. -/
def taken? (w : Watch) : Move → Option Step
  | .occurs occurrence =>
    if (w.channel.step (occurrence.step w.session.token)).isSome then
      some (occurrence.step w.session.token)
    else none
  | _ => none

/-- The steps that the connection takes in moves, each with the watch as it was then. -/
def history (w : Watch) : List Move → List (Watch × Step)
  | [] => []
  | m :: moves => ((w.taken? m).map (w, ·)).toList ++ (w.move m).1.history moves

/-- The steps that the connection takes in moves. -/
def steps (w : Watch) (moves : List Move) : List Step :=
  (w.history moves).map Prod.snd

/-- A move without a step leaves the phase and what was sent. -/
theorem move_of_taken?_none {w : Watch} {m : Move} (h : w.taken? m = none) :
    (w.move m).1.channel.phase = w.channel.phase ∧
      (w.move m).1.channel.sent = w.channel.sent := by
  cases m with
  | occurs occurrence =>
    cases hstep : w.handle.channel.step (occurrence.step w.session.token) with
    | none => simp [move, Handle.advance, hstep, channel]
    | some after => simp [taken?, channel, hstep] at h
  | _ => simp [move, channel, Handle.cancel, Handle.release, Channel.cancel]

/-- A move with a step is that step of the connection. -/
theorem move_of_taken?_some {w : Watch} {m : Move} {s : Step} (h : w.taken? m = some s) :
    ∃ occurrence events, m = .occurs occurrence ∧ s = occurrence.step w.session.token ∧
      w.channel.step s = some ((w.move m).1.channel, events) := by
  cases m with
  | occurs occurrence =>
    cases hstep : w.handle.channel.step (occurrence.step w.session.token) with
    | none => simp [taken?, channel, hstep] at h
    | some after =>
      obtain ⟨c, events⟩ := after
      obtain rfl : occurrence.step w.session.token = s := by simpa [taken?, channel, hstep] using h
      exact ⟨occurrence, events, rfl, rfl, by simp [move, Handle.advance, channel, hstep]⟩
  | _ => cases h

/-- A move without a step adds none. -/
theorem steps_cons_of_none {w : Watch} {m : Move} (h : w.taken? m = none) (moves : List Move) :
    w.steps (m :: moves) = (w.move m).1.steps moves := by
  simp [steps, history, h]

/-- A move with a step adds it in front. -/
theorem steps_cons_of_some {w : Watch} {m : Move} {s : Step} (h : w.taken? m = some s)
    (moves : List Move) : w.steps (m :: moves) = s :: (w.move m).1.steps moves := by
  simp [steps, history, h]

/-- The run lemma for the order: the steps of a run can come one after the other. -/
theorem follows_steps (w : Watch) (moves : List Move) :
    Follows w.channel.phase (w.steps moves) := by
  induction moves generalizing w with
  | nil => trivial
  | cons m moves ih =>
    -- A move without a step leaves the phase, so the same steps can still come.
    cases htaken : w.taken? m with
    | none =>
      rw [steps_cons_of_none htaken, ← (move_of_taken?_none htaken).1]
      exact ih _
    | some s =>
      obtain ⟨_, events, -, -, hstep⟩ := move_of_taken?_some htaken
      obtain ⟨hallows, -, -, hphase, -⟩ := Channel.step_eq_some hstep
      rw [steps_cons_of_some htaken]
      refine ⟨hallows, ?_⟩
      rw [← hphase]
      exact ih _

/-- The run lemma for what is sent: it is told by the steps that were taken. -/
theorem sent_run (w : Watch) (moves : List Move) :
    (w.run moves).channel.sent = w.channel.sent ++ w.channel.phase.framesAll (w.steps moves) := by
  induction moves generalizing w with
  | nil => exact (List.append_nil _).symm
  | cons m moves ih =>
    have hrun : w.run (m :: moves) = (w.move m).1.run moves := rfl
    rw [hrun, ih]
    -- What is sent is added by the step that the move is, if it is one.
    cases htaken : w.taken? m with
    | none =>
      obtain ⟨hphase, hsent⟩ := move_of_taken?_none htaken
      rw [steps_cons_of_none htaken, hphase, hsent]
    | some s =>
      obtain ⟨_, events, -, -, hstep⟩ := move_of_taken?_some htaken
      obtain ⟨-, -, hsent, hphase, -⟩ := Channel.step_eq_some hstep
      rw [steps_cons_of_some htaken, hsent, hphase, Phase.framesAll, List.append_assoc]

/-- The run lemma for the phase: the last step that was taken decides it. -/
theorem phase_run (w : Watch) (moves : List Move) :
    (w.run moves).channel.phase =
      ((w.steps moves).getLast?.map Step.next).getD w.channel.phase := by
  induction moves generalizing w with
  | nil => rfl
  | cons m moves ih =>
    have hrun : w.run (m :: moves) = (w.move m).1.run moves := rfl
    rw [hrun, ih]
    cases htaken : w.taken? m with
    | none => rw [steps_cons_of_none htaken, (move_of_taken?_none htaken).1]
    | some s =>
      obtain ⟨_, events, -, -, hstep⟩ := move_of_taken?_some htaken
      obtain ⟨-, -, -, hphase, -⟩ := Channel.step_eq_some hstep
      rw [steps_cons_of_some htaken, hphase, List.getLast?_cons]
      cases (steps (w.move m).1 moves).getLast? <;> rfl

/-- A move cancels the connection if it is one of the owner for this. -/
theorem cancelled_move_iff {w : Watch} {m : Move} :
    (w.move m).1.channel.cancelled ↔ w.channel.cancelled ∨ .cancel = m ∨ .release = m := by
  cases m with
  | occurs occurrence =>
    cases hstep : w.handle.channel.step (occurrence.step w.session.token) with
    | none => simp [move, Handle.advance, hstep, channel]
    | some after =>
      obtain ⟨c, events⟩ := after
      obtain ⟨-, -, -, -, hsame⟩ := Channel.step_eq_some hstep
      simp [move, Handle.advance, hstep, channel, hsame]
  | _ => simp [move, channel, Handle.cancel, Handle.release, Channel.cancel]

/-- A connection is cancelled by its owner and by nobody else. -/
theorem cancelled_run_iff {w : Watch} {moves : List Move} :
    (w.run moves).channel.cancelled ↔
      w.channel.cancelled ∨ .cancel ∈ moves ∨ .release ∈ moves := by
  induction moves generalizing w with
  | nil => simp [run]
  | cons m moves ih =>
    have hrun : w.run (m :: moves) = (w.move m).1.run moves := rfl
    rw [hrun, ih, cancelled_move_iff, List.mem_cons, List.mem_cons]
    grind

/-- Runs one after the other are one run. -/
theorem run_append (w : Watch) (moves more : List Move) :
    w.run (moves ++ more) = (w.run moves).run more :=
  List.foldl_append

/-- What occurs in its phase is taken as a step, and what the step sends goes out. -/
theorem steps_sent_of_allows (w : Watch) (occurrence : Occurrence)
    (hallows : w.channel.phase.allows (occurrence.step w.session.token))
    (hstop : (occurrence.step w.session.token).isStop → w.channel.cancelled) :
    w.steps [.occurs occurrence] = [occurrence.step w.session.token] ∧
      (w.run [.occurs occurrence]).channel.sent =
        w.channel.sent ++ w.channel.phase.frames (occurrence.step w.session.token) := by
  have htaken : w.taken? (.occurs occurrence) = some (occurrence.step w.session.token) :=
    if_pos (Channel.isSome_step_iff.mpr ⟨hallows, hstop⟩)
  have hsteps : w.steps [.occurs occurrence] = [occurrence.step w.session.token] :=
    steps_cons_of_some htaken []
  refine ⟨hsteps, ?_⟩
  rw [sent_run, hsteps, Phase.framesAll, Phase.framesAll, List.append_nil]

/-- The history of runs one after the other. -/
theorem history_append (w : Watch) (moves more : List Move) :
    w.history (moves ++ more) = w.history moves ++ (w.run moves).history more := by
  induction moves generalizing w with
  | nil => rfl
  | cons m moves ih =>
    have hrun : w.run (m :: moves) = (w.move m).1.run moves := rfl
    rw [List.cons_append, history, history, ih, hrun, List.append_assoc]

/-- The steps of runs one after the other. -/
theorem steps_append (w : Watch) (moves more : List Move) :
    w.steps (moves ++ more) = w.steps moves ++ (w.run moves).steps more := by
  rw [steps, history_append, List.map_append, steps, steps]

/-- Each step of the history was taken in one of the moves, by the watch as the moves before it left
it. -/
theorem exists_of_mem_history {first w : Watch} {s : Step} {moves : List Move}
    (h : (w, s) ∈ first.history moves) :
    ∃ before m after, moves = before ++ m :: after ∧ w = first.run before ∧
      w.taken? m = some s := by
  induction moves generalizing first with
  | nil => cases h
  | cons m moves ih =>
    -- The step is the one of the first move, or it comes with a later one.
    rcases List.mem_append.mp h with hnow | hlater
    · cases htaken : first.taken? m with
      | none => simp [htaken] at hnow
      | some s' =>
        obtain ⟨rfl, rfl⟩ : w = first ∧ s = s' := by simpa [htaken] using hnow
        exact ⟨[], m, moves, rfl, rfl, htaken⟩
    · obtain ⟨before, m', after, rfl, hw, htaken⟩ := ih hlater
      exact ⟨m :: before, m', after, rfl, hw, htaken⟩

/-- When the connection stands, the token is the one that is held, and nothing was sent before. -/
theorem of_ready_mem_history {endpoint : String} {session : Session} {moves : List Move} {w : Watch}
    {token : String} {error : Option String}
    (h : (w, .ready token error) ∈ (start endpoint session).history moves) :
    (∃ before after, moves = before ++ .occurs (.connected error) :: after ∧
      w = (start endpoint session).run before) ∧
      token = w.session.token ∧ w.channel.sent = [] := by
  obtain ⟨before, m, after, rfl, rfl, htaken⟩ := exists_of_mem_history h
  obtain ⟨occurrence, events, rfl, hstep, -⟩ := move_of_taken?_some htaken
  obtain ⟨error', rfl⟩ : ∃ error', occurrence = .connected error' := by
    cases occurrence with
    | connected error' => exact ⟨error', rfl⟩
    | _ => cases hstep
  obtain ⟨rfl, rfl⟩ := Step.ready.inj hstep
  refine ⟨⟨before, after, rfl, rfl⟩, rfl, ?_⟩
  have hfollows :=
    follows_steps (start endpoint session) (before ++ .occurs (.connected error) :: after)
  rw [steps_append, steps_cons_of_some htaken] at hfollows
  rw [sent_run, hfollows.eq_nil_of_ready]
  rfl

/-- A connection takes a stop only when its owner cancelled it or let go of it before. -/
theorem cancelled_of_stop_mem {endpoint : String} {session : Session} {moves : List Move}
    (h : ((start endpoint session).steps moves).any Step.isStop) :
    .cancel ∈ moves ∨ .release ∈ moves := by
  obtain ⟨s, hmem, hstop⟩ := List.any_eq_true.mp h
  obtain ⟨⟨w, _⟩, hhistory, rfl⟩ := List.mem_map.mp hmem
  obtain ⟨before, m, after, rfl, rfl, htaken⟩ := exists_of_mem_history hhistory
  obtain ⟨_, events, -, -, hstep⟩ := move_of_taken?_some htaken
  have hcancelled := (Channel.step_eq_some hstep).2.1 hstop
  rcases cancelled_run_iff.mp hcancelled with hfirst | hcancel | hrelease
  · cases hfirst
  · exact .inl (List.mem_append_left _ hcancel)
  · exact .inr (List.mem_append_left _ hrelease)

/-- The connection waits for frames exactly while it stands. -/
theorem phase_eq_looping_iff (endpoint : String) (session : Session) (moves : List Move) :
    ((start endpoint session).run moves).channel.phase = .looping ↔
      Standing ((start endpoint session).steps moves) := by
  rw [phase_run]
  exact (follows_steps (start endpoint session) moves).next_getLast?_iff

/-- A connection that is not made yet sends the login line when it is. -/
theorem sent_concat_of_steps_eq_nil {endpoint : String} {session : Session} {moves : List Move}
    (h : (start endpoint session).steps moves = []) (error : Option String) :
    let w := (start endpoint session).run moves
    (w.run [.occurs (.connected error)]).channel.sent = [.text (loginLine w.session.token)] := by
  intro w
  have hphase : w.channel.phase = .connecting := by
    rw [phase_run, h]
    rfl
  have hnothing : w.channel.sent = [] := by
    rw [sent_run, h]
    rfl
  rw [(w.steps_sent_of_allows (.connected error) (by rw [hphase]; rfl) nofun).2, hphase, hnothing]
  rfl

/-- A connection that stands sends what a step sends, behind all that was sent before. It stops only
if its owner does not want it. -/
theorem sent_concat_of_standing {endpoint : String} {session : Session} {moves : List Move}
    (hstanding : Standing ((start endpoint session).steps moves)) {occurrence : Occurrence}
    (hallows : ∀ token, Phase.looping.allows (occurrence.step token))
    (hstop : ∀ token, (occurrence.step token).isStop →
      .cancel ∈ moves ∨ .release ∈ moves) :
    let w := (start endpoint session).run moves
    (w.run [.occurs occurrence]).channel.sent =
      w.channel.sent ++ Phase.looping.frames (occurrence.step w.session.token) := by
  intro w
  have hphase : w.channel.phase = .looping :=
    (phase_eq_looping_iff endpoint session moves).mpr hstanding
  have hcancelled (h : (occurrence.step w.session.token).isStop) : w.channel.cancelled :=
    cancelled_run_iff.mpr (.inr (hstop _ h))
  rw [(w.steps_sent_of_allows occurrence (hphase ▸ hallows _) hcancelled).2, hphase]

/-- After a step that ends the connection, no move is a step. -/
theorem history_eq_nil_of_ends {first : Watch} {moves : List Move}
    (h : ∃ s ∈ first.steps moves, s.ends) (more : List Move) :
    (first.run moves).history more = [] := by
  have hfollows := follows_steps first (moves ++ more)
  rw [steps_append] at hfollows
  exact List.map_eq_nil_iff.mp (hfollows.eq_nil_of_ends h)

end Watch

end NewsReader.Live
