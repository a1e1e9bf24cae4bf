import NewsReader.Proofs.Api.Endpoint
import NewsReader.Proofs.Json.Members
import NewsReader.Proofs.Json.Values
import NewsReader.Proofs.Url.Pairs

/-!
# Strings of the user in requests

Some calls bring a string of the user: the feed of a subscription, and the name and the password of
a login. It goes to the server in one of two forms, as a pair of the query or as a member of the
content, and the server decodes either. What it gets is the string as it was, whatever characters
there are in it.

The other parts of the request do not depend on the string. So the request is compared with one that
has none: a request about a subscription with the request for the list of them, and a login with any
other login.

* `Call.request_perform_map` — requests of two calls whose URLs belong together.
* `Call.server_gets_strings` — what the server decodes.
-/

namespace NewsReader

open Http (Reply Request)
open Json (Value)

namespace Call

variable {α β : Type}

/-! ### Calls that belong together -/

/-- Whether a request can be sent is a matter of its scheme and its host. -/
theorem isSendable_congr {r r' : Request} (hscheme : r.url.scheme = r'.url.scheme)
    (hhost : r.url.host? = r'.url.host?) : r.isSendable = r'.isSendable := by
  rw [Request.isSendable, Request.isSendable, hscheme, hhost]

/-- Calls with one path differ in their queries alone. -/
theorem url_of_path_eq (call : Call α) (other : Call β) (hpath : other.path = call.path)
    {change : Url → Url} (hquery : ∀ url, other.addQuery url = change (call.addQuery url))
    (server : String) : other.url server = (call.url server).map change := by
  have haddress : other.address server = call.address server := by rw [address, address, hpath]
  rw [Call.url, Call.url, haddress]
  cases Url.ofText (call.address server) with
  | error fault => rfl
  | ok url => cases hhost : url.host? <;> simp [hhost, hquery, Except.map]

/-- If the URL of one call is that of another one, but for a change that leaves the server, then so
is its request. -/
theorem request_perform_map {call : Call α} {other : Call β} {server : String}
    {change : Url → Url} (hurl : other.url server = (call.url server).map change)
    (hsame : ∀ url, (change url).IsSameServer url) (reply : Reply) (s : Session) :
    (other.perform server reply s).request =
      (call.perform server reply s).request.map fun r =>
        other.requestTo (change r.url) s.token := by
  have hsendable (url : Url) :
      (other.requestTo (change url) s.token).isSendable = (call.requestTo url s.token).isSendable :=
    isSendable_congr (hsame url).scheme_eq (hsame url).host_eq
  ext request
  rw [← Option.mem_def, mem_request_perform_iff, dispatch_eq_sent_iff, hurl]
  rw [Option.map_eq_some_iff]
  constructor
  · rintro ⟨⟨⟨htoken, _, hchanged, rfl⟩, hsent⟩, hreply⟩
    obtain ⟨url, hurl, rfl⟩ := Json.exists_of_map_eq_ok hchanged
    refine ⟨call.requestTo url s.token, ?_, rfl⟩
    exact mem_request_perform_iff.mpr ⟨dispatch_eq_sent_iff.mpr
      ⟨⟨htoken, url, hurl, rfl⟩, hsendable url ▸ hsent⟩, hreply⟩
  · rintro ⟨r, hr, rfl⟩
    obtain ⟨hdispatch, hreply⟩ := mem_request_perform_iff.mp hr
    obtain ⟨⟨htoken, url, hurl, rfl⟩, hsent⟩ := dispatch_eq_sent_iff.mp hdispatch
    exact ⟨⟨⟨htoken, change url, by rw [hurl]; rfl, rfl⟩, (hsendable url).trans hsent⟩,
      hreply⟩

/-- A call with the same path and other content goes to the same URL. -/
theorem request_perform_of_path_eq (call : Call α) (other : Call β)
    (hpath : other.path = call.path) (hquery : ∀ url, other.addQuery url = call.addQuery url)
    (server : String) (reply : Reply) (s : Session) :
    (other.perform server reply s).request =
      (call.perform server reply s).request.map fun r =>
        { r with method := other.method, body := other.content.map Value.compact } := by
  rw [request_perform_map (url_of_path_eq call other hpath hquery server :
    other.url server = (call.url server).map id) fun _ => ⟨rfl, rfl, rfl⟩]
  refine Option.map_congr fun r hr => ?_
  obtain ⟨⟨-, url, -, rfl⟩, -⟩ := dispatch_eq_sent_iff.mp (mem_request_perform_iff.mp hr).1
  rfl

section

variable {server : String} {u : Url}

/-- A call to a server without query and fragment has neither, unless it brings a query. -/
theorem unmarked_of_url (hserver : Url.ofText server = .ok u) (hscheme : u.scheme = "http")
    (hunmarked : u.query = none ∧ u.fragment = none) {call : Call α} {url : Url}
    (hurl : call.url server = .ok url) : url.query = call.query? ∧ url.fragment = none := by
  obtain ⟨hspecial, hfile⟩ := isSpecial_of_eq_http hscheme
  obtain ⟨v, hv, -, rfl⟩ := url_eq_ok_iff.mp hurl
  rw [address_eq_extended] at hv
  obtain ⟨hquery, hfragment⟩ :=
    Url.unmarked_of_ofText_extended hserver hspecial hfile hunmarked.1 hunmarked.2
      call.isPlain_suffix hv
  refine ⟨(call.addQuery_withoutUser_frame v).2.2 hquery, ?_⟩
  have hwithout : v.withoutUser.fragment = v.fragment := by
    unfold Url.withoutUser
    cases v.user? <;> rfl
  rw [← hfragment, ← hwithout]
  cases call <;> rfl

/-- The end of a subscription is asked for at the URL of the list with a query behind it, if the
list has none. -/
theorem request_unsubscribe {reply : Reply} {s : Session}
    (hlisted : ∀ r ∈ (subscriptions.perform server reply s).request, r.url.query = none)
    {feed : String} :
    ((unsubscribe feed).perform server reply s).request =
      (subscriptions.perform server reply s).request.map fun r =>
        { r with method := .delete, url := { r.url with query := (unsubscribe feed).query? } } := by
  have hurl : (unsubscribe feed).url server =
      (subscriptions.url server).map fun url => url.addPair "feed_id".toList feed.toList :=
    url_of_path_eq subscriptions (unsubscribe feed) rfl (fun _ => rfl) server
  rw [request_perform_map hurl fun _ => ⟨rfl, rfl, rfl⟩]
  refine Option.map_congr fun r hr => ?_
  have hquery := hlisted r hr
  obtain ⟨⟨-, url, -, rfl⟩, -⟩ := dispatch_eq_sent_iff.mp (mem_request_perform_iff.mp hr).1
  -- The pair is all there is in the query then.
  have hpair : url.addPair "feed_id".toList feed.toList =
      { url with query := (unsubscribe feed).query? } := by
    rw [Url.addPair, show url.query = none from hquery]
    rfl
  simp only [requestTo, hpair]
  rfl

/-! ### Main result -/

/-- What the server gets of the strings of the user. For every server without query and fragment and
for all strings:

* the request to end a subscription goes to the URL of the list with a query behind it, in which the
  feed is the one pair, and nothing in the query but letters, digits and a few signs can be taken
  for anything else;
* the request for a subscription goes to the URL of the list, and its content has the feed as its
  one member;
* a login goes to the URL of every login, and its content has the name and the password and no other
  members.

They are sent if the list and another login are; and these are sent from every address that more can
be put behind, if a header can carry the token. -/
theorem server_gets_strings (hserver : Url.ofText server = .ok u) (hscheme : u.scheme = "http")
    (hunmarked : u.query = none ∧ u.fragment = none) (reply : Reply) (s : Session) :
    let listing := (subscriptions.perform server reply s).request
    let anyLogin := ((login "" "").perform server reply s).request
    (∀ feed, ∃ query, Url.pairs query = [("feed_id", feed)] ∧
      (∀ c ∈ query, Url.isPlain c ∨ c ∈ ['%', '+', '=']) ∧
      ((unsubscribe feed).perform server reply s).request =
        listing.map (fun r =>
          { r with method := .delete, url := { r.url with query := some query } }) ∧
      ∀ r ∈ listing, ({ r.url with query := some query } : Url).chars =
        r.url.chars ++ '?' :: query) ∧
    (∀ feed, ∃ body, Json.textMembers body = .ok [("feed_id", feed)] ∧
      ((subscribe feed).perform server reply s).request =
        listing.map fun r => { r with method := .post, body := some body }) ∧
    (∀ name password, ∃ body,
      Json.textMembers body = .ok [("name", name), ("password", password)] ∧
      ((login name password).perform server reply s).request =
        anyLogin.map fun r => { r with method := .post, body := some body }) ∧
    (IsJoinable server u → Session.CanBeSent s.token → reply ≠ .unreachable →
      listing.isSome ∧ anyLogin.isSome) := by
  intro listing anyLogin
  -- The list goes to an address without marks, so what is added is the whole query.
  have hlisted {r : Request} (hr : r ∈ listing) :
      r.url.query = none ∧ r.url.fragment = none := by
    obtain ⟨⟨-, url, hurl, rfl⟩, -⟩ :=
      dispatch_eq_sent_iff.mp (mem_request_perform_iff.mp hr).1
    exact unmarked_of_url hserver hscheme hunmarked hurl
  have hsent (hjoinable : IsJoinable server u) (htoken : Session.CanBeSent s.token)
      (hreply : reply ≠ .unreachable)
      {γ : Type} (call : Call γ) : (call.perform server reply s).request.isSome := by
    obtain ⟨url, husable⟩ := isUsable_of_isJoinable hserver hscheme hjoinable call
    exact Option.isSome_of_mem
      (mem_request_perform_iff.mpr ⟨dispatch_of_canBeSent husable htoken, hreply⟩)
  refine ⟨fun feed => ?_, fun feed => ?_, fun name password => ?_,
    fun hjoinable htoken hreply => ?_⟩
  · let query := Url.formEncode "feed_id".toList ++ '=' :: Url.formEncode feed.toList
    refine ⟨query, ?_, fun c hc => ?_, ?_, fun r hr => ?_⟩
    · rw [Url.pairs_formEncode, String.ofList_toList, String.ofList_toList]
    · rcases List.mem_append.mp hc with hname | hvalue
      · exact (Url.isPlain_of_mem_formEncode hname).imp_right (by rintro (rfl | rfl) <;> simp)
      · rcases List.mem_cons.mp hvalue with rfl | hvalue
        · exact .inr (by simp)
        · exact (Url.isPlain_of_mem_formEncode hvalue).imp_right (by rintro (rfl | rfl) <;> simp)
    · exact request_unsubscribe fun r hr => (hlisted hr).1
    · obtain ⟨hquery, hfragment⟩ := hlisted hr
      simp [Url.chars, hquery, hfragment, Url.marked, Url.authorityChars]
  · exact ⟨_, Json.textMembers_compact [("feed_id", feed)],
      request_perform_of_path_eq subscriptions (subscribe feed) rfl (fun _ => rfl) server reply s⟩
  · exact ⟨_, Json.textMembers_compact [("name", name), ("password", password)],
      request_perform_of_path_eq (login "" "") (login name password) rfl (fun _ => rfl)
        server reply s⟩
  · exact ⟨hsent hjoinable htoken hreply subscriptions,
      hsent hjoinable htoken hreply (login "" "")⟩

/-- A feed whose name has the signs of queries, a blank and a letter that is not in ASCII is asked
for as it is. -/
theorem server_gets_strings_of_signs :
    let server := "http://news.test"
    let s : Session := ⟨some "T1", .memory (some "T1")⟩
    let feed := "a&feed_id=b#c? d+%41é\""
    (∃ request ∈ ((unsubscribe feed).perform server .none s).request, ∃ query,
      request.url.query = some query ∧ Url.pairs query = [("feed_id", feed)]) ∧
    ∃ request ∈ ((subscribe feed).perform server .none s).request, ∃ body,
      request.body = some body ∧ Json.textMembers body = .ok [("feed_id", feed)] := by
  intro server s feed
  let u : Url :=
    ⟨"http", some (.ofHost (.name "news.test".toList) none), .segments [[]], none, none⟩
  have hserver : Url.ofText server = .ok u := eq_ok_of_toOption_eq_some (by decide +kernel)
  have hextended : Url.ofText (Url.extended server []) = .ok u :=
    eq_ok_of_toOption_eq_some (by decide +kernel)
  have hjoinable : IsJoinable server u :=
    { unmarked := ⟨rfl, rfl⟩
      visible := by decide +kernel
      filled := by
        intro v hv
        obtain rfl := Except.ok.inj (hextended.symm.trans hv)
        decide +kernel
      named := by decide +kernel }
  obtain ⟨hunsubscribe, hsubscribe, -, hsent⟩ :=
    server_gets_strings hserver rfl ⟨rfl, rfl⟩ .none s
  obtain ⟨hlisting, -⟩ := hsent hjoinable (by decide) Reply.noConfusion
  obtain ⟨listed, hlisted⟩ := Option.isSome_iff_exists.mp hlisting
  obtain ⟨query, hpairs, -, hrequest, -⟩ := hunsubscribe feed
  obtain ⟨body, hmembers, hposted⟩ := hsubscribe feed
  rw [hlisted] at hrequest hposted
  exact ⟨⟨_, hrequest, query, rfl, hpairs⟩, _, hposted, body, rfl, hmembers⟩

end

end Call

end NewsReader
