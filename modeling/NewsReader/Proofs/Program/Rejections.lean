import NewsReader.Program.App
import NewsReader.Proofs.Api.GivenUp

/-!
# Rejections while the feeds are listed

The feeds are listed by two calls at the same time. The server may reject the credential of one of
them while the other one fails for another reason. Then it is a matter of the order whether the user
is logged out.

* `Peer.IsHeard` — which replies in which order log the user out.
* `App.feeds_honours_rejection_iff_heard` — the session after the feeds were listed.
-/

namespace NewsReader.Program

open Http (Body Reply Status)

/-- One of the two replies that list the feeds rejects the credential, and it is heard: the other
call gets its answer, or it has not failed within the steps that it takes ahead. -/
def Peer.IsHeard (p : Peer) : Prop :=
  Call.IsHeard .feeds .subscriptions (p.reply, p.listing) (p.arrivals ++ [false, false, true, true])

namespace App

variable {app : App} {peer : Peer} {input : List UInt8}

/-- What two calls at the same time leave of the session, and what they send. -/
theorem feeds_eq (app : App) (peer : Peer) :
    let outcome := Call.both app.config.serverUrl .feeds .subscriptions
      (peer.replyTo .feeds, peer.replyTo .subscriptions) peer.arrivals app.session
    (app.feeds peer).app.session = outcome.session ∧
      (app.feeds peer).requests = outcome.request.toList ++ outcome.secondRequest.toList := by
  simp only [feeds, reportOf]
  split <;> exact ⟨rfl, rfl⟩

/-- Listing the feeds logs the user out if a rejection is heard, and leaves the session otherwise.
The two requests go out, and their replies come in any order. -/
theorem feeds_honours_rejection_iff_heard
    (hsent : (app.run peer input .feeds).requests.length = 2) :
    let after := (app.run peer input .feeds).app.session
    (peer.IsHeard → after.held = none ∧ after.state = .anonymous ∧
        (app.session.vault.clear.1 = .ok () → after.vault.kept = .ok none)) ∧
      (¬peer.IsHeard → after = app.session) := by
  obtain ⟨hsession, hrequests⟩ := app.feeds_eq peer
  change (app.feeds peer).requests.length = 2 at hsent
  rw [hrequests] at hsent
  obtain ⟨⟨request, request', hsent, hsent'⟩, hreply⟩ := Call.sent_of_both hsent
  -- No request goes out to a server that cannot be reached.
  have hreachable : peer.isReachable := by
    by_cases h : peer.isReachable
    · exact h
    · simp [Peer.replyTo, h] at hreply
  have hreplies : (peer.replyTo .feeds, peer.replyTo .subscriptions) =
      (peer.reply, peer.listing) := by
    simp [Peer.replyTo, hreachable]
  have hplain : Call.feeds.IsPlain ∧ Call.subscriptions.IsPlain :=
    ⟨⟨Bool.false_ne_true, Bool.false_ne_true⟩, ⟨Bool.false_ne_true, Bool.false_ne_true⟩⟩
  obtain ⟨hheard, hunheard⟩ :=
    Call.session_both hplain.1 hplain.2 hsent hsent' hreply peer.arrivals
  rw [hreplies] at hheard hunheard hsession
  intro after
  have hafter : after = _ := hsession
  rw [hafter]
  exact ⟨fun h => ⟨(hheard h).held, (hheard h).state_eq, (hheard h).kept⟩, hunheard⟩

end App

/-! ### A server that is busy -/

/-- A program that reads from `news.test`. The token is in a file of its cache. -/
def App.ofNewsTest : App where
  config := { Config.empty with server := some "http://news.test" }
  configFile := .absent
  session := ((Session.new (.directory ⟨"cache", .absent⟩)).setToken "T1").2
  endpoint := "ws://news.test/ws"
  json := false

/-- A server that is too busy to list the feeds and rejects the credential for the subscriptions. -/
def Peer.busy (arrivals : List Bool) : Peer where
  isReachable := true
  reply := .head ⟨500, by decide⟩ (.complete (Text.encode "busy".toList))
  listing := .head .unauthorized (.complete [])
  arrivals := arrivals
  pushed := []

namespace App

/-- A rejection that comes first is heard, and the user is logged out. -/
theorem feeds_honours_rejection_of_first :
    let report := ofNewsTest.run (.busy [true]) [] .feeds
    report.requests.length = 2 ∧ report.app.session.state = .anonymous ∧
      report.app.session.vault.kept = .ok none := by
  intro report
  have hsent : report.requests.length = 2 := by decide +kernel
  have hheard : (Peer.busy [true]).IsHeard := by
    refine .inr ⟨⟨_, _, rfl, rfl⟩, fun hfails => ?_⟩
    exact absurd hfails.2 (by decide)
  obtain ⟨-, hstate, hkept⟩ := (feeds_honours_rejection_iff_heard hsent).1 hheard
  exact ⟨hsent, hstate, hkept rfl⟩

/-- A rejection that comes after the other call has failed is not heard: the user stays logged in,
and the token is still kept. -/
theorem feeds_misses_late_rejection :
    ¬∀ (app : App) (peer : Peer) (input : List UInt8),
      (app.run peer input .feeds).requests.length = 2 →
      peer.reply.Rejects ∨ peer.listing.Rejects → app.session.vault.clear.1 = .ok () →
        (app.run peer input .feeds).app.session.state = .anonymous ∧
          (app.run peer input .feeds).app.session.vault.kept = .ok none := by
  intro h
  have hanonymous :=
    (h ofNewsTest (.busy []) [] (by decide +kernel) (.inr ⟨_, _, rfl, rfl⟩) rfl).1
  have hstays : (ofNewsTest.run (.busy []) [] .feeds).app.session.state = .authenticated := by
    decide +kernel
  rw [hstays] at hanonymous
  cases hanonymous

end App

end NewsReader.Program
