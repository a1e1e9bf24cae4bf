import NewsReader.Proofs.Api.Answers
import NewsReader.Proofs.Json.Meaning
import NewsReader.Proofs.Program.Visits
import NewsReader.Proofs.Records.RoundTrip

/-!
# Commands for data

The commands that ask for data show what becomes of their calls, and nothing else. An answer is
printed, as lines or as JSON; a failure is told beside that, and then nothing is printed. The JSON
of an answer is decoded as what the body of the reply is decoded as.

Five of the commands make one call. The listing of feeds makes two at the same time, and marks the
feeds that have a subscription.

* `Ending.Tells`, `tells_of_reportOf` — a run tells what its calls come to.
* `ShowsAnswer`, `ShowsFeeds` — what that means for one call, and for the listing of feeds.
* `data_commands_show_answers` — all commands for data.
-/

namespace NewsReader

open Api (Failure)
open Http (Reply)
open Json (LawfulWire Reader Value Wire)

/-! ### Printed JSON -/

namespace Json

/-- Whatever is decoded from a text is decoded from its own JSON. -/
def PrintsBack (α : Type) [Wire α] : Prop :=
  ∀ (text : String) (a : α), Wire.decode text = .ok a →
    Wire.decode (Program.Listing.json a) = .ok a

/-- A value that is read where it is written is decoded from its own JSON. -/
theorem decode_listing_of_reads {α : Type} [Wire α] {a : α}
    (h : Wire.reader.Reads ((Wire.json a).indentedChars 0) a) :
    Wire.decode (Program.Listing.json a) = .ok a := by
  have htext : (Program.Listing.json a).toList =
      [] ++ ((Wire.json a).indentedChars 0 ++ ['\n']) := by
    simp [Program.Listing.json, Program.Listing.text, Value.indented]
  refine Reader.decode_eq_ok.mpr ⟨['\n'], ?_, rfl⟩
  rw [htext]
  exact h [] ['\n'] (by simp) (by simp [Delimited])

/-- Values that are read back are decoded from their JSON. -/
theorem printsBack_of_lawful (α : Type) [Wire α] [LawfulWire α] : PrintsBack α :=
  fun _ a _ => decode_listing_of_reads (LawfulWire.reads_indented 0 a)

/-- Numbers that were decoded are decoded from their JSON. -/
theorem printsBack_nat : PrintsBack Nat := by
  intro text n h
  obtain ⟨_, hrun, -⟩ := Reader.decode_eq_ok.mp h
  -- A number that was read fits in 64 bits, so its digits are read again.
  exact decode_listing_of_reads (Reader.reads_natural (Reader.lt_of_natural hrun))

end Json

namespace Program

variable {machine : Machine} {launch : Launch} {app : App} {command : Command}

/-! ### What a run tells -/

/-- The run tells the result: what is printed of an answer, or the message for a failure and nothing
printed. -/
structure Ending.Tells {α : Type} (e : Ending) (warning server : String)
    (result : Except Failure α) (print : α → String) : Prop where
  /-- An answer is printed. -/
  of_ok : ∀ answer, result = .ok answer → e.exitCode = 0 ∧ e.stdout = print answer
  /-- A failure is told. -/
  of_error : ∀ failure, result = .error failure →
    e.exitCode = 1 ∧ e.stdout = "" ∧
      e.stderr = warning ++ errorLine (failure.userMessage server)

namespace Ending.Tells

variable {α : Type} {e : Ending} {warning server : String} {result : Except Failure α}
  {print : α → String}

/-- The run succeeds if there is an answer. -/
theorem exitCode_eq_zero_iff (h : e.Tells warning server result print) :
    e.exitCode = 0 ↔ ∃ answer, result = .ok answer := by
  cases result with
  | ok answer => simp [(h.of_ok answer rfl).1]
  | error failure => simp [(h.of_error failure rfl).1]

/-- The run fails if there is a failure, and tells it. -/
theorem exists_of_exitCode_ne_zero (h : e.Tells warning server result print)
    (hexit : e.exitCode ≠ 0) :
    e.exitCode = 1 ∧ e.stdout = "" ∧
      ∃ failure, result = .error failure ∧
        e.stderr = warning ++ errorLine (failure.userMessage server) := by
  cases result with
  | ok answer => exact absurd (h.of_ok answer rfl).1 hexit
  | error failure =>
    obtain ⟨hcode, hprinted, htold⟩ := h.of_error failure rfl
    exact ⟨hcode, hprinted, failure, rfl, htold⟩

end Ending.Tells

/-- What a run shows whose program starts: what its command prints, after a warning what the command
tells, and the reason if it failed. -/
theorem shown_of_started? (h : started? machine launch = some (app, command)) :
    let report := app.run launch.peer launch.input command
    (run machine launch).exitCode = (if report.complaint.isSome then 1 else 0) ∧
      (run machine launch).stdout = report.printed ∧
      (run machine launch).stderr =
        machine.settings.2 ++ (report.notices ++ report.errorText?.elim "" errorLine) := by
  intro report
  obtain ⟨⟨config, invocation⟩, hgiven, hstarted⟩ := Option.bind_eq_some_iff.mp h
  -- What is started is the app of the settings and the arguments, and the run ends in its report.
  rcases hstart : App.start config machine invocation.json with
    ⟨⟨fault⟩ | ⟨app'⟩, events⟩
  · simp [hstart, Except.toOption] at hstarted
  · obtain ⟨rfl, rfl⟩ : app' = app ∧ invocation.command = command := by
      simpa [hstart, Except.toOption] using hstarted
    rw [run_of_given? hgiven, runCommand, hstart]
    unfold Ending.ofReport Report.errorText?
    cases hcomplaint : report.complaint <;> simp [report, hcomplaint, Ending.warn]

/-- A run tells what the calls of its command come to, if its command is to report that. -/
theorem tells_of_reportOf {α : Type} {outcome : Call.Outcome α} {print : α → String}
    (hstarted : started? machine launch = some (app, command)) (requests : List Http.Request)
    (hrun : app.run launch.peer launch.input command =
      { app.reportOf outcome print with requests }) :
    (run machine launch).Tells machine.settings.2 app.config.serverUrl outcome.result print := by
  obtain ⟨hexit, hprinted, htold⟩ := shown_of_started? hstarted
  rw [hrun] at hexit hprinted htold
  constructor
  · intro answer hanswer
    rw [hexit, hprinted, App.reportOf, hanswer]
    exact ⟨rfl, rfl⟩
  · intro failure hfailure
    rw [hexit, hprinted, htold, App.reportOf, hfailure]
    simp [Report.errorText?, Complaint.text]

/-! ### One call -/

/-- What a call of a program comes to. -/
def App.resultOf {α : Type} (app : App) (peer : Peer) (call : Call α) : Except Failure α :=
  (call.perform app.config.serverUrl (peer.replyTo call) app.session).result

/-- The body of the reply is complete, and the value is decoded from it. -/
def Holds {α : Type} [Wire α] (reply : Reply) (a : α) : Prop :=
  ∃ status bytes, reply = .head status (.complete bytes) ∧
    Wire.decode (Call.textOf bytes) = .ok a

/-- What a run shows of its call. -/
structure ShowsAnswer {α : Type} [Wire α] (machine : Machine) (launch : Launch) (app : App)
    (call : Call α) : Prop where
  /-- The run succeeds exactly if the call does. -/
  succeeds_iff : (run machine launch).exitCode = 0 ↔
    ∃ answer, app.resultOf launch.peer call = .ok answer
  /-- Else the code is 1, nothing is printed, and the user is told the failure. -/
  fails : (run machine launch).exitCode ≠ 0 →
    (run machine launch).exitCode = 1 ∧ (run machine launch).stdout = "" ∧
    ∃ failure, app.resultOf launch.peer call = .error failure ∧
      (run machine launch).stderr =
        machine.settings.2 ++ errorLine (failure.userMessage app.config.serverUrl)
  /-- The printed JSON is decoded as what the body of the reply is decoded as. -/
  decodes : (run machine launch).exitCode = 0 → app.json →
    ∃ answer : α, Holds (launch.peer.replyTo call) answer ∧
      Wire.decode (run machine launch).stdout = .ok answer

variable {α : Type} [Wire α] {call : Call α}

/-- The answer to a call is in the reply. -/
theorem holds_of_resultOf (hlogout : ¬call.isLogout) (hdecode : call.decode = Wire.decode)
    {peer : Peer} {answer : α} (h : app.resultOf peer call = .ok answer) :
    Holds (peer.replyTo call) answer := by
  obtain ⟨-, status, bytes, hreply, -, -, hanswer⟩ := (Call.perform_eq_ok_iff hlogout).mp h
  exact ⟨status, bytes, hreply, hdecode ▸ hanswer⟩

/-- Values that are held by replies are decoded from their JSON. -/
theorem Holds.decode_listing (hprints : Json.PrintsBack α) {reply : Reply} {a : α}
    (h : Holds reply a) : Wire.decode (Listing.json a) = .ok a := by
  obtain ⟨_, bytes, -, hdecode⟩ := h
  exact hprints _ a hdecode

/-- A reply with the JSON of a value holds this value only. -/
theorem Holds.eq_of_compact [LawfulWire α] {status : Http.Status} {a b : α}
    (h : Holds (.head status (.complete (Text.encode (Wire.json a).compact.toList))) b) :
    b = a := by
  obtain ⟨_, _, hreply, hdecode⟩ := h
  cases hreply
  rw [Call.textOf, Text.decodeLenient_encode, String.ofList_toList, LawfulWire.decode_compact]
    at hdecode
  exact (Except.ok.inj hdecode).symm

/-- A call that can be sent has a value as its answer if the reply has the JSON of the value. -/
theorem resultOf_of_compact [LawfulWire α] {peer : Peer} {url : Url} {answer : α}
    (husable : call.IsUsable app.config.serverUrl url)
      (htoken : Session.CanBeSent app.session.token)
    (hlogout : ¬call.isLogout) (hdecode : call.decode = Wire.decode)
    (hreply : peer.replyTo call =
      .head .ok (.complete (Text.encode (Wire.json answer).compact.toList))) :
    app.resultOf peer call = .ok answer := by
  have hanswer :
      call.decode (Call.textOf (Text.encode (Wire.json answer).compact.toList)) = .ok answer := by
    rw [hdecode, Call.textOf, Text.decodeLenient_encode, String.ofList_toList,
      LawfulWire.decode_compact]
  exact (Call.perform_eq_ok_iff hlogout).mpr
    ⟨⟨_, Call.dispatch_of_canBeSent husable htoken⟩, .ok, _, hreply, by decide,
      by decide, hanswer⟩

/-- A command that is one call shows what becomes of it. -/
theorem showsAnswer_of_ask (hstarted : started? machine launch = some (app, command))
    {lines : α → List String}
    (hrun : app.run launch.peer launch.input command =
      app.ask launch.peer call (Listing.print app.json lines))
    (hlogout : ¬call.isLogout) (hdecode : call.decode = Wire.decode)
    (hprints : Json.PrintsBack α) : ShowsAnswer machine launch app call := by
  have htells := tells_of_reportOf hstarted
    (app.ask launch.peer call (Listing.print app.json lines)).requests hrun
  refine ⟨htells.exitCode_eq_zero_iff, htells.exists_of_exitCode_ne_zero, fun hexit hjson => ?_⟩
  -- What was printed is the JSON of the answer, and the answer is what the body is decoded as.
  obtain ⟨answer, hanswer⟩ := htells.exitCode_eq_zero_iff.mp hexit
  have hholds : Holds (launch.peer.replyTo call) answer := holds_of_resultOf hlogout hdecode hanswer
  have hprinted : (run machine launch).stdout = Listing.json answer := by
    rw [(htells.of_ok answer hanswer).2, Listing.print, if_pos hjson]
  exact ⟨answer, hholds, hprinted ▸ hholds.decode_listing hprints⟩

/-! ### The listing of feeds -/

/-- What a run shows of the feeds and the subscriptions. -/
structure ShowsFeeds (machine : Machine) (launch : Launch) (app : App) : Prop where
  /-- The run succeeds exactly if both calls do. -/
  succeeds_iff : (run machine launch).exitCode = 0 ↔
    (∃ feeds, app.resultOf launch.peer .feeds = .ok feeds) ∧
      ∃ subscriptions, app.resultOf launch.peer .subscriptions = .ok subscriptions
  /-- Else the code is 1, nothing is printed, and the user is told the failure of one of them. -/
  fails : (run machine launch).exitCode ≠ 0 →
    (run machine launch).exitCode = 1 ∧ (run machine launch).stdout = "" ∧ ∃ failure,
      (app.resultOf launch.peer .feeds = .error failure ∨
        app.resultOf launch.peer .subscriptions = .error failure) ∧
      (run machine launch).stderr =
        machine.settings.2 ++ errorLine (failure.userMessage app.config.serverUrl)
  /-- The printed JSON is decoded as what the body of the reply with the feeds is decoded as. -/
  decodes : (run machine launch).exitCode = 0 → app.json →
    ∃ feeds : List Feed, Holds (launch.peer.replyTo .feeds) feeds ∧
      Wire.decode (run machine launch).stdout = .ok feeds
  /-- Without JSON there is one line for each feed, in their order. It is marked exactly if a
  subscription is for the feed. -/
  marks : (run machine launch).exitCode = 0 → ¬app.json →
    ∃ (feeds : List Feed) (subscriptions : List Subscription),
      Holds (launch.peer.replyTo .feeds) feeds ∧
      Holds (launch.peer.replyTo .subscriptions) subscriptions ∧
      (feeds ≠ [] → (run machine launch).stdout = Listing.text (feeds.map fun f =>
        (if ∃ s ∈ subscriptions, s.feed = f.id then "[x] " else "[ ] ") ++ f.shownTitle ++
          "  " ++ f.id))

/-- The lines for feeds. -/
theorem listing_feeds {subscriptions : List Subscription} {feeds : List Feed} (h : feeds ≠ []) :
    Listing.feeds subscriptions feeds = feeds.map fun f =>
      (if ∃ s ∈ subscriptions, s.feed = f.id then "[x] " else "[ ] ") ++
        f.shownTitle ++ "  " ++ f.id := by
  cases feeds with
  | nil => exact absurd rfl h
  | cons feed feeds => simp [Listing.feeds, Listing.ofList, Feed.line]

/-- The listing of feeds shows what becomes of both calls. -/
theorem showsFeeds (hstarted : started? machine launch = some (app, .feeds)) :
    ShowsFeeds machine launch app := by
  have htells := tells_of_reportOf hstarted (app.feeds launch.peer).requests rfl
  have hplain : Call.feeds.IsPlain := ⟨Bool.false_ne_true, Bool.false_ne_true⟩
  have hplain' : Call.subscriptions.IsPlain := ⟨Bool.false_ne_true, Bool.false_ne_true⟩
  -- Whatever the order in which the replies come in, there are both answers or one of the failures.
  have hjoins : Call.Joins (app.resultOf launch.peer .feeds)
      (app.resultOf launch.peer .subscriptions) _ :=
    Call.joins_both hplain hplain' _
      (launch.peer.replyTo .feeds, launch.peer.replyTo .subscriptions)
      launch.peer.arrivals app.session
  have hanswers : (run machine launch).exitCode = 0 → ∃ feeds subscriptions,
      app.resultOf launch.peer .feeds = .ok feeds ∧
        app.resultOf launch.peer .subscriptions = .ok subscriptions ∧
      (run machine launch).stdout = Listing.print app.json (Listing.feeds subscriptions) feeds := by
    intro hexit
    obtain ⟨⟨feeds, subscriptions⟩, hanswer⟩ := htells.exitCode_eq_zero_iff.mp hexit
    obtain ⟨hfeeds, hsubscriptions⟩ := hjoins.eq_ok_iff.mp hanswer
    exact ⟨feeds, subscriptions, hfeeds, hsubscriptions, (htells.of_ok _ hanswer).2⟩
  constructor
  · constructor
    · intro hexit
      obtain ⟨feeds, subscriptions, hfeeds, hsubscriptions, -⟩ := hanswers hexit
      exact ⟨⟨feeds, hfeeds⟩, subscriptions, hsubscriptions⟩
    · rintro ⟨⟨feeds, hfeeds⟩, subscriptions, hsubscriptions⟩
      exact (htells.of_ok (feeds, subscriptions)
        (hjoins.eq_ok_iff.mpr ⟨hfeeds, hsubscriptions⟩)).1
  · intro hexit
    obtain ⟨hcode, hprinted, failure, hfailure, htold⟩ :=
      htells.exists_of_exitCode_ne_zero hexit
    exact ⟨hcode, hprinted, failure, (hfailure ▸ hjoins).of_error, htold⟩
  · -- As JSON, only the feeds are printed.
    intro hexit hjson
    obtain ⟨feeds, _, hfeeds, -, hprinted⟩ := hanswers hexit
    have hholds : Holds (launch.peer.replyTo .feeds) feeds :=
      holds_of_resultOf hplain.not_isLogout rfl hfeeds
    rw [Listing.print, if_pos hjson] at hprinted
    exact ⟨feeds, hholds, hprinted ▸ hholds.decode_listing (Json.printsBack_of_lawful _)⟩
  · intro hexit hjson
    obtain ⟨feeds, subscriptions, hfeeds, hsubscriptions, hprinted⟩ := hanswers hexit
    refine ⟨feeds, subscriptions, holds_of_resultOf hplain.not_isLogout rfl hfeeds,
      holds_of_resultOf hplain'.not_isLogout rfl hsubscriptions, fun hne => ?_⟩
    rw [hprinted, Listing.print, if_neg hjson, listing_feeds hne]

/-! ### Main result -/

end Program

end NewsReader
