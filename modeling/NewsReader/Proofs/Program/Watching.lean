import NewsReader.Program.App
import NewsReader.Proofs.Live.Inbound

/-!
# What a watch prints

A watch prints a line for each payload that the connection hands over, or for each news item among
them. The connection decides what is handed over, and the printing is a matter of the payloads
alone.

* `App.listen_delivers` — the payloads are those of the frames that were taken, and all of them
  are printed.
-/

namespace NewsReader

namespace Live

/-- What happens to the connection leaves the session. -/
theorem Watch.session_move {m : Watch.Move}
    (h : m = .cancel ∨ ∃ occurrence, m = .occurs occurrence) (w : Watch) :
    (w.move m).1.session = w.session := by
  rcases h with rfl | ⟨occurrence, rfl⟩ <;> rfl

/-- A connection that only the other side and the end of the watch move leaves the session. -/
theorem Watch.session_listen {moves : List Watch.Move}
    (h : ∀ m ∈ moves, m = .cancel ∨ ∃ occurrence, m = .occurs occurrence)
    (heard : String → List Event) (w : Watch) : (w.listen heard moves).1.session = w.session := by
  induction moves generalizing w with
  | nil => rfl
  | cons m moves ih =>
    obtain ⟨hm, hmoves⟩ := List.forall_mem_cons.mp h
    rw [Watch.listen]
    split
    · rfl
    · exact (ih hmoves (w.move m).1).trans (session_move hm w)

/-- The moves that make a step happen change no token. -/
theorem Step.eq_of_mem_moves {s : Step} {m : Watch.Move} (h : m ∈ s.moves) :
    m = .cancel ∨ ∃ occurrence, m = .occurs occurrence := by
  cases s with
  | stop error =>
    rcases List.mem_cons.mp h with rfl | hstop
    · exact .inl rfl
    · exact .inr ⟨_, List.mem_singleton.mp hstop⟩
  | _ => exact .inr ⟨_, List.mem_singleton.mp h⟩

end Live

namespace Program.App

open Live (Inbound Standing Watch frames loginLine)

/-- A watch leaves the session. -/
theorem session_watch (app : App) (peer : Peer) : (app.watch peer).app.session = app.session := by
  refine Watch.session_listen (fun m hm => ?_) app.payloadEvents
    (Watch.start app.endpoint app.session)
  obtain ⟨step, -, hstep⟩ := List.mem_flatMap.mp hm
  exact Live.Step.eq_of_mem_moves hstep

/-- As JSON, each payload is a line as it is. -/
theorem shown_of_json {app : App} (h : app.json) (payloads : List String) :
    app.shown payloads = Listing.text payloads := by
  have hline : app.payloadLine? = some := by
    funext payload
    exact if_pos h
  rw [shown, hline, List.filterMap_some]

/-- Otherwise, each news item is a line, and a payload that is none is left out. -/
theorem shown_of_not_json {app : App} (h : ¬ app.json) (payloads : List String) :
    app.shown payloads = Listing.text ((payloads.filterMap Live.newsItem?).map NewsItem.line) := by
  have hline : app.payloadLine? = fun payload => (Live.newsItem? payload).map NewsItem.line := by
    funext payload
    exact if_neg h
  rw [shown, hline, List.map_filterMap]

/-- The payloads that the connection of a watch hands over, and what the watch prints. Let the moves
be any: frames that come in, ticks, sends that fail, cancellations, changes of the token.

* What is handed over is the payloads of the frames that were taken, in their order. The payload of
  a frame is what the frame carries, character for character.
* A frame is taken exactly if it comes in while the connection stands. Texts, bytes of any kind, and
  pings and pongs do not end it.
* The connection stands once it is made, and goes on standing with every step that does not end it.
* Nothing is handed over before the login line was sent, or after a step that ends the connection.
* The watch prints all that is handed over: each payload as it is, or the line for each news
  item. -/
theorem listen_delivers (app : App) (moves : List Watch.Move) :
    let first := Watch.start app.endpoint app.session
    let taken := first.steps moves
    let last := (first.run moves).channel
    (last.delivered = (frames taken).filterMap Inbound.payload? ∧
        ∀ (frame : Inbound) (s : String), frame.payload? = some s ↔ frame.Carries s) ∧
      (∀ m : Watch.Move,
        (Standing taken →
          frames (first.steps (moves ++ [m])) = frames taken ++ m.frame?.toList) ∧
          (¬ Standing taken → frames (first.steps (moves ++ [m])) = frames taken)) ∧
      (∀ frame : Inbound, ¬ (Live.Step.inbound frame).ends ↔
        (∃ s, frame = .text s) ∨ (∃ bytes, frame = .binary bytes) ∨ frame = .control) ∧
      (taken = [] → Standing (first.steps (moves ++ [.occurs (.connected none)]))) ∧
      (∀ occurrence, Standing taken →
        ¬ (occurrence.step (first.run moves).session.token).ends →
        Standing (first.steps (moves ++ [.occurs occurrence]))) ∧
      (last.delivered ≠ [] → ∃ token rest, last.sent = .text (loginLine token) :: rest) ∧
      ((∃ s ∈ taken, s.ends) →
        ∀ more, (first.run (moves ++ more)).channel.delivered = last.delivered) ∧
      (app.listen moves).printed =
        (if app.json then Listing.text last.delivered
        else Listing.text ((last.delivered.filterMap Live.newsItem?).map NewsItem.line)) ∧
      ∀ peer : Peer,
        app.watch peer = app.listen (peer.liveMoves app.endpoint app.session.token) := by
  intro first taken last
  refine ⟨⟨?_, fun _ _ => Inbound.payload?_eq_some_iff⟩, fun m => ⟨?_, ?_⟩,
    fun frame => ?_, ?_, ?_, ?_, ?_, ?_, fun _ => rfl⟩
  -- All but the last is about the connection, whoever listens.
  · exact Watch.delivered_run first moves
  · exact Watch.frames_concat_of_standing _ _ moves m
  · exact Watch.frames_concat_of_not_standing _ _ moves m
  · rw [← Inbound.continues_iff, Live.Step.ends]
    simp
  · exact Watch.standing_concat_connected _ _ moves
  · exact fun _ => Watch.standing_concat_of_not_ends _ _ moves
  · exact Watch.sent_of_delivered_ne_nil _ _ moves
  · exact Watch.delivered_of_ends
  · have hprinted : (app.listen moves).printed = app.shown last.delivered := by
      rw [← Watch.delivered_listen app.payloadEvents]
      rfl
    rw [hprinted]
    split
    · next hjson => exact shown_of_json hjson _
    · next hjson => exact shown_of_not_json hjson _

end Program.App

end NewsReader
