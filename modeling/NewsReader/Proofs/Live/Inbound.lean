import NewsReader.Proofs.Live.Outbound
import NewsReader.Proofs.Text.Utf8

/-!
# What a live connection hands over

The payloads that a connection hands over are those of the frames that it took, one by one and in
this order. A frame is taken exactly while the connection stands: the login line went out, and no
step has ended the connection since.

* `Inbound.payload?_eq_some_iff` — the payload of a frame is its text, or the text whose bytes it
  has.
* `Channel.delivered_of_step` — what one step hands over.
* `Watch.delivered_run` — the run lemma: what is handed over is told by the steps that were taken.
* `Watch.frames_concat_of_standing` — while the connection stands, every frame that comes in is
  taken.
-/

namespace NewsReader.Live

/-! ### Frames and their payloads -/

/-- The frame carries the payload, as a text or as the bytes of it. -/
inductive Inbound.Carries : Inbound → String → Prop where
  | text (s : String) : Carries (.text s) s
  | binary (s : String) : Carries (.binary (Text.encode s.toList)) s

namespace Inbound

/-- The payload of a frame is the one that the frame carries, character for character. -/
theorem payload?_eq_some_iff {frame : Inbound} {s : String} :
    frame.payload? = some s ↔ frame.Carries s := by
  constructor
  · intro h
    cases frame with
    | text t =>
      obtain rfl : t = s := by simpa [payload?] using h
      exact .text t
    | binary bytes =>
      obtain ⟨cs, hdecode, rfl⟩ := Option.map_eq_some_iff.mp h
      have hbytes : bytes = Text.encode (String.ofList cs).toList := by
        rw [String.toList_ofList]
        exact Text.decode?_eq_some_iff.mp hdecode
      rw [hbytes]
      exact .binary _
    | _ => cases h
  · rintro (_ | _)
    · rfl
    · simp [payload?]

/-- A connection goes on after texts, bytes of any kind, and pings and pongs, and after nothing
else. -/
theorem continues_iff {frame : Inbound} :
    frame.continues ↔
      (∃ s, frame = .text s) ∨ (∃ bytes, frame = .binary bytes) ∨ frame = .control := by
  cases frame <;> simp [continues]

end Inbound

/-- The frame that is taken in a step. -/
def Step.frame? : Step → Option Inbound
  | inbound frame => some frame
  | _ => none

/-- The frames that are taken in steps. -/
def frames (steps : List Step) : List Inbound :=
  steps.filterMap Step.frame?

/-- The payloads of the frames that are taken in steps. -/
def payloads (steps : List Step) : List String :=
  (frames steps).filterMap Inbound.payload?

/-- The payloads of steps one after the other. -/
theorem payloads_append (steps more : List Step) :
    payloads (steps ++ more) = payloads steps ++ payloads more := by
  rw [payloads, frames, List.filterMap_append, List.filterMap_append, payloads, payloads,
    frames, frames]

/-! ### One step -/

namespace Channel

variable {c c' : Channel} {s : Step} {events : List Event}

/-- A step hands over the payload of the frame that is taken in it, if there is one. -/
theorem delivered_of_step (h : c.step s = some (c', events)) :
    c'.delivered = c.delivered ++ payloads [s] := by
  cases hphase : c.phase with
  | connecting =>
    rw [step, hphase] at h
    cases s with
    | ready token error =>
      cases error <;> (obtain ⟨rfl, -⟩ := by simpa [connectStep] using h) <;>
        simp [payloads, frames, Step.frame?, attempt, finish]
    | refused error =>
      obtain ⟨rfl, -⟩ := by simpa [connectStep] using h
      simp [payloads, frames, Step.frame?, finish]
    | stop error =>
      obtain ⟨-, rfl, -⟩ := by simpa [connectStep] using h
      simp [payloads, frames, Step.frame?, finish]
    | _ => simp [connectStep] at h
  | looping =>
    rw [step, hphase] at h
    cases s with
    | tick error =>
      cases error <;> (obtain ⟨rfl, -⟩ := by simpa [loopStep] using h) <;>
        simp [payloads, frames, Step.frame?, attempt, finish]
    | inbound frame =>
      -- The payload is handed over whether or not the connection goes on.
      have hpayload : payloads [.inbound frame] = frame.payload?.toList := by
        cases h : frame.payload? <;> simp [payloads, frames, Step.frame?, h]
      rw [hpayload]
      cases hcontinues : frame.continues <;>
        (obtain ⟨rfl, -⟩ := by simpa [loopStep, hcontinues] using h) <;>
        simp [deliver, finish]
    | stop error =>
      obtain ⟨-, rfl, -⟩ := by simpa [loopStep] using h
      simp [payloads, frames, Step.frame?, attempt, finish]
    | _ => simp [loopStep] at h
  | ended => simp [step, hphase] at h

/-- A frame is taken exactly while the connection waits for one. -/
theorem isSome_step_inbound (c : Channel) (frame : Inbound) :
    (c.step (.inbound frame)).isSome ↔ c.phase = .looping := by
  rw [isSome_step_iff]
  cases c.phase <;> simp [Phase.allows, Step.isStop]

end Channel

/-! ### Runs -/

/-- The frame that comes in with a move. -/
def Watch.Move.frame? : Watch.Move → Option Inbound
  | .occurs (.inbound frame) => some frame
  | _ => none

/-- A frame comes in with one move only. -/
theorem Watch.Move.frame?_eq_some {m : Watch.Move} {frame : Inbound} :
    m.frame? = some frame ↔ m = .occurs (.inbound frame) := by
  cases m with
  | occurs occurrence => cases occurrence <;> simp [frame?]
  | _ => simp [frame?]

/-- What occurs brings the frame of its step. -/
theorem Watch.Move.frame?_occurs (occurrence : Occurrence) (token : String) :
    (Watch.Move.occurs occurrence).frame? = (occurrence.step token).frame? := by
  cases occurrence <;> rfl

namespace Watch

/-- A move without a step hands nothing over. -/
theorem delivered_of_taken?_none {w : Watch} {m : Move} (h : w.taken? m = none) :
    (w.move m).1.channel.delivered = w.channel.delivered := by
  cases m with
  | occurs occurrence =>
    cases hstep : w.handle.channel.step (occurrence.step w.session.token) with
    | none => simp [move, Handle.advance, hstep, channel]
    | some after => simp [taken?, channel, hstep] at h
  | _ => rfl

/-- The run lemma for what is handed over: it is told by the steps that were taken. -/
theorem delivered_run (w : Watch) (moves : List Move) :
    (w.run moves).channel.delivered = w.channel.delivered ++ payloads (w.steps moves) := by
  induction moves generalizing w with
  | nil => exact (List.append_nil _).symm
  | cons m moves ih =>
    have hrun : w.run (m :: moves) = (w.move m).1.run moves := rfl
    rw [hrun, ih]
    -- Only a step hands anything over, and a move is one step or none.
    cases htaken : w.taken? m with
    | none => rw [steps_cons_of_none htaken, delivered_of_taken?_none htaken]
    | some s =>
      obtain ⟨_, events, -, -, hstep⟩ := move_of_taken?_some htaken
      rw [steps_cons_of_some htaken, Channel.delivered_of_step hstep, List.append_assoc,
        ← payloads_append]
      rfl

section Start

variable (endpoint : String) (session : Session) (moves : List Move)

/-- A connection that is made stands. -/
theorem standing_concat_connected (h : (start endpoint session).steps moves = []) :
    Standing ((start endpoint session).steps (moves ++ [.occurs (.connected none)])) := by
  have hphase : ((start endpoint session).run moves).channel.phase = .connecting := by
    rw [phase_run, h]
    rfl
  rw [steps_append, h, (steps_sent_of_allows _ (.connected none) (by rw [hphase]; rfl) nofun).1]
  exact ⟨⟨_, List.mem_cons_self⟩, by simp [Occurrence.step, Step.ends]⟩

/-- A connection that stands goes on standing with what does not end it. -/
theorem standing_concat_of_not_ends {occurrence : Occurrence}
    (h : Standing ((start endpoint session).steps moves))
    (hopen : ¬ (occurrence.step ((start endpoint session).run moves).session.token).ends) :
    Standing ((start endpoint session).steps (moves ++ [.occurs occurrence])) := by
  rw [← phase_eq_looping_iff] at h ⊢
  rw [run_append, phase_run]
  cases htaken : ((start endpoint session).run moves).taken? (.occurs occurrence) with
  | none =>
    rw [steps_cons_of_none htaken]
    exact h
  | some s =>
    obtain ⟨occurrence', _, hmove, rfl, -⟩ := move_of_taken?_some htaken
    obtain rfl := Move.occurs.inj hmove
    rw [steps_cons_of_some htaken]
    simp [steps, history, Step.next, hopen]

/-- While the connection stands, the frame that comes in with a move is taken next. -/
theorem frames_concat_of_standing (m : Move) (h : Standing ((start endpoint session).steps moves)) :
    frames ((start endpoint session).steps (moves ++ [m])) =
      frames ((start endpoint session).steps moves) ++ m.frame?.toList := by
  have hphase := (phase_eq_looping_iff endpoint session moves).mpr h
  rw [steps_append, frames, List.filterMap_append]
  cases htaken : ((start endpoint session).run moves).taken? m with
  | none =>
    -- A move without a step brings no frame, since a frame would have been taken.
    have hframe : m.frame? = none := by
      cases hframe : m.frame? with
      | none => rfl
      | some frame =>
        obtain rfl := Move.frame?_eq_some.mp hframe
        have hstep := (Channel.isSome_step_inbound _ frame).mpr hphase
        have hsome : ((start endpoint session).run moves).taken? (.occurs (.inbound frame)) =
            some (.inbound frame) := if_pos hstep
        rw [hsome] at htaken
        cases htaken
    rw [steps_cons_of_none htaken, hframe]
    rfl
  | some s =>
    obtain ⟨occurrence, _, rfl, rfl, -⟩ := move_of_taken?_some htaken
    rw [steps_cons_of_some htaken, Move.frame?_occurs]
    cases hframe : (occurrence.step ((start endpoint session).run moves).session.token).frame? <;>
      simp [steps, history, hframe, frames]

/-- While the connection does not stand, no frame is taken. -/
theorem frames_concat_of_not_standing (m : Move)
    (h : ¬ Standing ((start endpoint session).steps moves)) :
    frames ((start endpoint session).steps (moves ++ [m])) =
      frames ((start endpoint session).steps moves) := by
  have hphase := mt (phase_eq_looping_iff endpoint session moves).mp h
  rw [steps_append, frames, List.filterMap_append]
  cases htaken : ((start endpoint session).run moves).taken? m with
  | none =>
    rw [steps_cons_of_none htaken]
    exact List.append_nil _
  | some s =>
    obtain ⟨_, _, -, -, hstep⟩ := move_of_taken?_some htaken
    have hframe : s.frame? = none := by
      cases s with
      | inbound frame =>
        refine absurd ((Channel.isSome_step_inbound _ frame).mp ?_) hphase
        rw [hstep]
        rfl
      | _ => rfl
    rw [steps_cons_of_some htaken]
    simp [steps, history, hframe, frames]

/-- The login line goes out before anything is handed over. -/
theorem sent_of_delivered_ne_nil
    (h : ((start endpoint session).run moves).channel.delivered ≠ []) :
    ∃ token rest, ((start endpoint session).run moves).channel.sent =
      .text (loginLine token) :: rest := by
  rw [delivered_run] at h
  rw [sent_run]
  rcases (follows_steps (start endpoint session) moves).of_connecting with
    ⟨hnone, -⟩ | ⟨token, _, _, -, -, hsent⟩
  · -- Without the step by which the connection stands there are no frames.
    refine absurd ?_ h
    have hfollows := follows_steps (start endpoint session) moves
    generalize (start endpoint session).steps moves = steps at hfollows hnone
    cases steps with
    | nil => rfl
    | cons s rest =>
      cases s with
      | ready token error => cases List.countP_eq_zero.mp hnone _ List.mem_cons_self rfl
      | refused error =>
        obtain rfl := Follows.eq_nil hfollows.2
        rfl
      | stop error =>
        obtain rfl := Follows.eq_nil hfollows.2
        rfl
      | tick error => cases hfollows.1
      | inbound frame => cases hfollows.1
  · exact ⟨token, _, hsent⟩

end Start

/-- After a step that ends the connection nothing more is handed over. -/
theorem delivered_of_ends {first : Watch} {moves : List Move}
    (h : ∃ s ∈ first.steps moves, s.ends) (more : List Move) :
    (first.run (moves ++ more)).channel.delivered = (first.run moves).channel.delivered := by
  have hnone : (first.run moves).steps more = [] := by
    rw [steps, history_eq_nil_of_ends h more, List.map_nil]
  rw [run_append, delivered_run, hnone]
  exact List.append_nil _

/-! ### Listening -/

/-- On a connection that is over nothing more is handed over. -/
theorem delivered_run_of_isClosed {w : Watch} (h : w.channel.isClosed) (moves : List Move) :
    (w.run moves).channel.delivered = w.channel.delivered := by
  have hphase : w.channel.phase = .ended := by simpa [Channel.isClosed] using h
  have hfollows := follows_steps w moves
  rw [hphase] at hfollows
  rw [delivered_run, hfollows.eq_nil]
  exact List.append_nil _

/-- Listening until the connection is over misses nothing that is handed over. -/
theorem delivered_listen (heard : String → List Event) (w : Watch) (moves : List Move) :
    (w.listen heard moves).1.channel.delivered = (w.run moves).channel.delivered := by
  fun_induction listen heard w moves with
  | case1 => rfl
  | case2 w m moves hclosed => exact (delivered_run_of_isClosed hclosed _).symm
  | case3 w m moves _ next events hmove last more hlisten ih =>
    have hrun : w.run (m :: moves) = next.run moves := by
      rw [run, List.foldl_cons, hmove]
      rfl
    rw [hlisten] at ih
    rw [hrun]
    exact ih

end Watch

end NewsReader.Live
