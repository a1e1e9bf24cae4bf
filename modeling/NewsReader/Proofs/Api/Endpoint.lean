import NewsReader.Proofs.Api.Login
import NewsReader.Proofs.Config.Endpoint
import NewsReader.Proofs.Url.Extended

/-!
# Calls and the live endpoint

A server has one address, and two things are derived from it. The live endpoint is the URL of the
address with another scheme and path, and without query and fragment. The address of a call is a
text: the address of the server without the slashes at its end, and the path of the call. It is read
as a URL only then.

So the two agree only if more can be put behind the address. `Call.IsJoinable` has a condition for
each way in which that fails, and none of them is about the call.

* `Call.request_perform_iff` — when there is a request, and to which URL.
* `Call.url_of_isJoinable`, `Call.isJoinable_of_url` — where a call goes to, and which addresses
  such calls have.
* `Call.perform_meets_endpoint_iff` — a call goes to the server of the live endpoint exactly from
  such addresses.
-/

namespace NewsReader

open Http (Reply Request)

/-! ### Parts of a URL that stay -/

namespace Url

/-- Two URLs have one host, one port and one scheme. -/
structure IsSameServer (u v : Url) : Prop where
  /-- The scheme. -/
  scheme_eq : u.scheme = v.scheme
  /-- The host. -/
  host_eq : u.host? = v.host?
  /-- The port. -/
  port_eq : u.effectivePort? = v.effectivePort?

/-- One server is the server of a third URL. -/
theorem IsSameServer.trans {u v w : Url} (huv : u.IsSameServer v) (hvw : v.IsSameServer w) :
    u.IsSameServer w :=
  ⟨huv.scheme_eq.trans hvw.scheme_eq, huv.host_eq.trans hvw.host_eq,
    huv.port_eq.trans hvw.port_eq⟩

/-- The live endpoint of a server has another scheme, with the same host and the same port. -/
theorem exists_liveEndpoint? {server : String} {u : Url} (hserver : ofText server = .ok u)
    (h : u.scheme = "http") :
    ∃ endpoint, u.liveEndpoint? = some endpoint ∧ endpoint.scheme = "ws" ∧
      endpoint.host? = u.host? ∧ endpoint.effectivePort? = u.effectivePort? := by
  have hsocket : socketScheme? u.scheme = some "ws" :=
    socketScheme?_eq_some_iff.mpr (.inl ⟨.inl h, rfl⟩)
  obtain ⟨a, -, hlive, hof⟩ := exists_liveAt hserver hsocket
  exact ⟨_, hlive, rfl, hof.host.2, hof.port⟩

/-- Without its user, a URL has the same server, path and query. -/
theorem withoutUser_frame (u : Url) :
    u.withoutUser.IsSameServer u ∧ u.withoutUser.path = u.path ∧
      u.withoutUser.query = u.query := by
  unfold withoutUser
  cases u.user? with
  | none => exact ⟨⟨rfl, rfl, rfl⟩, rfl, rfl⟩
  | some user =>
    refine ⟨⟨rfl, ?_, ?_⟩, rfl, rfl⟩
    · cases hauthority : u.authority <;> simp [host?, hauthority, Authority.ofHost]
    · cases hauthority : u.authority <;> simp [effectivePort?, hauthority, Authority.ofHost]

end Url

namespace Call

variable {α : Type}

/-- The query of a call. -/
def query? : Call α → Option (List Char)
  | unsubscribe feed => some (Url.formEncode "feed_id".toList ++ '=' :: Url.formEncode feed.toList)
  | _ => none

/-- A call takes the user out of a URL and adds its query. -/
theorem addQuery_withoutUser_frame (call : Call α) (u : Url) :
    (call.addQuery u.withoutUser).IsSameServer u ∧ (call.addQuery u.withoutUser).path = u.path ∧
      (u.query = none → (call.addQuery u.withoutUser).query = call.query?) := by
  obtain ⟨hsame, hpath, hquery⟩ := u.withoutUser_frame
  have hadd : (call.addQuery u.withoutUser).IsSameServer u.withoutUser ∧
      (call.addQuery u.withoutUser).path = u.withoutUser.path := by
    cases call <;> exact ⟨⟨rfl, rfl, rfl⟩, rfl⟩
  refine ⟨hadd.1.trans hsame, hadd.2.trans hpath, fun h => ?_⟩
  rw [← hquery] at h
  cases call with
  | unsubscribe feed => simp [addQuery, Url.addPair, h, query?]
  | _ => exact h

/-! ### Addresses of calls -/

/-- What is put behind the address of the server and a slash. -/
def suffix (call : Call α) : List Char :=
  "api".toList ++ call.path.toList

/-- The address of a call is the address of the server with more behind it. -/
theorem address_eq_extended (server : String) (call : Call α) :
    call.address server = Url.extended server call.suffix := by
  have hroot : root.toList = '/' :: "api".toList := rfl
  rw [address, hroot, List.append_assoc]
  rfl

/-- A path of a call stays as it is behind a slash. -/
theorem isPlain_suffix (call : Call α) : Url.IsPlain call.suffix := by
  have hpaths :
      ∀ path ∈ ["/auth/login", "/auth/logout", "/auth/me", "/feeds", "/news", "/subscriptions"],
      Url.IsPlain ("api".toList ++ path.toList) := by decide +kernel
  exact hpaths call.path (by cases call <;> simp [path])

/-- The URL of a call is read from its address, without the user and with the query. -/
theorem url_eq_ok_iff {server : String} {call : Call α} {url : Url} :
    call.url server = .ok url ↔
      ∃ v, Url.ofText (call.address server) = .ok v ∧ v.host?.isSome ∧
        call.addQuery v.withoutUser = url := by
  unfold Call.url
  cases hread : Url.ofText (call.address server) with
  | error fault => simp
  | ok v => cases hhost : v.host? <;> simp [hhost]

/-- The request of a call goes out if it can be sent and the server can be reached. -/
theorem mem_request_perform_iff {call : Call α} {server : String} {reply : Reply} {s : Session}
    {request : Request} : request ∈ (call.perform server reply s).request ↔
      (call.dispatch server s.token).1 = .sent request ∧ reply ≠ .unreachable := by
  rcases hdispatch : call.dispatch server s.token with ⟨stage, events⟩
  cases stage <;> simp [perform, hdispatch, and_comm]

/-- A request goes out to the URL of the call, if it can be sent there. -/
theorem request_perform_iff {server : String} {call : Call α} {reply : Reply} {s : Session}
    {url : Url} (htoken : Session.CanBeSent s.token) (hreply : reply ≠ .unreachable) :
    (call.perform server reply s).request = some (call.requestTo url s.token) ↔
      call.url server = .ok url ∧ (call.requestTo url s.token).isSendable := by
  have hsame (url' : Url) :
      call.requestTo url s.token = call.requestTo url' s.token ↔ url' = url := by
    refine ⟨fun h => (congrArg Request.url h).symm, ?_⟩
    rintro rfl
    rfl
  rw [← Option.mem_def, mem_request_perform_iff, dispatch_eq_sent_iff]
  simp [htoken, hreply, hsame]

/-! ### Addresses that more can be put behind -/

/-- More can be put behind the address of a server, of which the URL is `u`. -/
structure IsJoinable (server : String) (u : Url) : Prop where
  /-- There is nothing behind the path that would take in what follows. -/
  unmarked : u.query = none ∧ u.fragment = none
  /-- There is no blank at the end that would count if more follows. -/
  visible : Url.EndsVisibly server.toList
  /-- There is no empty segment at the end of the path when the slashes are left out. -/
  filled : ∀ v, Url.ofText (Url.extended server []) = .ok v → ¬['/', '/'] <:+ v.path.chars
  /-- A request can name the host. -/
  named : ((u.host?.map Url.Host.chars).getD []).any Request.isRefusedInHost = false

section

variable {server : String} {u url : Url}

/-- The scheme of calls is one of those with a host. -/
theorem isSpecial_of_eq_http (h : u.scheme = "http") :
    Url.isSpecial u.scheme ∧ u.scheme ≠ "file" := by
  rw [h]
  decide

/-- Every call goes to a server with such an address, under the path of the server. -/
theorem url_of_isJoinable (hserver : Url.ofText server = .ok u) (hscheme : u.scheme = "http")
    (h : IsJoinable server u) (call : Call α) :
    ∃ url, call.url server = .ok url ∧ url.IsSameServer u ∧
      url.path.chars = Url.withoutSlashes u.path.chars ++ '/' :: call.suffix ∧
      url.query = call.query? := by
  obtain ⟨hspecial, hfile⟩ := isSpecial_of_eq_http hscheme
  obtain ⟨stem, n, hpath, hextended⟩ :=
    Url.ofText_extended hserver hspecial hfile h.unmarked.1 h.unmarked.2 h.visible
  have hstem : Url.withoutSlashes u.path.chars = Url.segmentChars stem := by
    -- The slashes behind the stem are left out, and none of its own, since it does not end in one.
    have hfilled := h.filled _ (hextended [] (by decide))
    rw [Url.chars_segments_append] at hfilled
    rw [hpath, Url.withoutSlashes_append_replicate]
    exact (Url.withoutSlashes_eq_self_iff _).mpr hfilled
  have hread := hextended _ call.isPlain_suffix
  rw [← address_eq_extended] at hread
  have hhost : u.host?.isSome := Url.isSome_host?_of_ofText hserver hspecial hfile
  obtain ⟨hsame, hcallPath, hquery⟩ :=
    call.addQuery_withoutUser_frame
      { u with path := .segments (stem ++ Url.splitAtChar '/' call.suffix) }
  refine ⟨_, url_eq_ok_iff.mpr ⟨_, hread, hhost, rfl⟩,
    ⟨hsame.scheme_eq, hsame.host_eq, hsame.port_eq⟩, ?_, hquery h.unmarked.1⟩
  rw [hcallPath, hstem]
  exact Url.chars_segments_append stem call.suffix

/-- Every call can be sent to a server with such an address. -/
theorem isUsable_of_isJoinable (hserver : Url.ofText server = .ok u) (hscheme : u.scheme = "http")
    (h : IsJoinable server u) (call : Call α) : ∃ url, call.IsUsable server url := by
  obtain ⟨url, hurl, hsame, -⟩ := url_of_isJoinable hserver hscheme h call
  exact ⟨url, hurl, hsame.scheme_eq.trans hscheme, by rw [hsame.host_eq]; exact h.named⟩

/-- A server to which a call goes that way has such an address. -/
theorem isJoinable_of_url (hserver : Url.ofText server = .ok u) (hscheme : u.scheme = "http")
    {call : Call α} (hurl : call.url server = .ok url)
    (hpath : url.path.chars = Url.withoutSlashes u.path.chars ++ '/' :: call.suffix)
    (hnamed : ((u.host?.map Url.Host.chars).getD []).any Request.isRefusedInHost = false) :
    IsJoinable server u := by
  obtain ⟨hspecial, hfile⟩ := isSpecial_of_eq_http hscheme
  obtain ⟨v, hv, -, rfl⟩ := url_eq_ok_iff.mp hurl
  rw [address_eq_extended] at hv
  rw [(call.addQuery_withoutUser_frame v).2.1] at hpath
  have hunmarked : u.query = none ∧ u.fragment = none := by
    -- Behind a mark the path stays as it is, and what it has after the slashes are left out is not
    -- the path of a call.
    by_contra hmarked
    obtain ⟨query, fragment, hsame⟩ :=
      Url.ofText_extended_of_marked hserver hspecial hfile hmarked call.isPlain_suffix
    obtain rfl := Except.ok.inj (hsame.symm.trans hv)
    obtain ⟨n, hn⟩ := Url.exists_eq_withoutSlashes u.path.chars
    have hslashes : '/' :: call.suffix = List.replicate n '/' :=
      List.append_cancel_left (hpath.symm.trans hn)
    have hmem : 'a' ∈ '/' :: call.suffix := by simp [suffix]
    rw [hslashes] at hmem
    exact absurd (List.eq_of_mem_replicate hmem) (by decide)
  have hvisible : Url.EndsVisibly server.toList := by
    -- Behind a blank the path gets too long.
    by_contra hblank
    have hlonger := Url.ofText_extended_of_blank hserver hspecial hfile hunmarked.1
      hunmarked.2 hblank call.isPlain_suffix hv
    have hle := Url.length_withoutSlashes_le u.path.chars
    rw [hpath, List.length_append, List.length_cons] at hlonger
    omega
  refine ⟨hunmarked, hvisible, fun w hw => ?_, hnamed⟩
  -- What is left of the path is the stem, so the stem does not end in a slash.
  obtain ⟨stem, n, hstem, hextended⟩ :=
    Url.ofText_extended hserver hspecial hfile hunmarked.1 hunmarked.2 hvisible
  obtain rfl := Except.ok.inj ((hextended _ call.isPlain_suffix).symm.trans hv)
  obtain rfl := Except.ok.inj ((hextended [] (by decide)).symm.trans hw)
  dsimp only at hpath ⊢
  rw [Url.chars_segments_append] at hpath ⊢
  rw [← Url.withoutSlashes_eq_self_iff]
  have hcancel := List.append_cancel_right hpath
  rw [hstem, Url.withoutSlashes_append_replicate] at hcancel
  exact hcancel.symm

/-! ### Main result -/

/-- A call finds its way to the server of the live endpoint exactly if more can be put behind the
address, so either all calls do or none. The address is the URL of a host without encryption, and
the token can be sent; then the endpoint is derived from the address, and a request goes to its host
and its port, under the path of the server and with no query but that of the call, if and only if
the address is such a one. -/
theorem perform_meets_endpoint_iff {c : Config} {s : Session} {reply : Reply}
    (hlive : c.live = none) (hserver : Url.ofText c.serverUrl = .ok u) (hscheme : u.scheme = "http")
    (htoken : Session.CanBeSent s.token) (hreply : reply ≠ .unreachable) (call : Call α) :
    ∃ endpoint, u.liveEndpoint? = some endpoint ∧ c.liveEndpoint = .ok endpoint.text ∧
      endpoint.scheme = "ws" ∧
      ((∃ url, (call.perform c.serverUrl reply s).request = some (call.requestTo url s.token) ∧
          url.host? = endpoint.host? ∧ url.effectivePort? = endpoint.effectivePort? ∧
          url.path.chars = Url.withoutSlashes u.path.chars ++ root.toList ++ call.path.toList ∧
          url.query = call.query?) ↔
        IsJoinable c.serverUrl u) := by
  obtain ⟨endpoint, hendpoint, hsocket, hhost, hport⟩ :=
    Url.exists_liveEndpoint? hserver hscheme
  have htext : c.liveEndpoint = .ok endpoint.text := by
    simp only [Config.liveEndpoint, hlive, Config.endpointOf, hserver, hendpoint]
  have hsuffix : root.toList ++ call.path.toList = '/' :: call.suffix := rfl
  refine ⟨endpoint, hendpoint, htext, hsocket, ?_⟩
  -- The host and the port are those of the server on either side, so all turns on the path.
  constructor
  · rintro ⟨url, hrequest, hurlHost, -, hpath, -⟩
    obtain ⟨hurl, hsendable⟩ := (request_perform_iff htoken hreply).mp hrequest
    rw [List.append_assoc, hsuffix] at hpath
    refine isJoinable_of_url hserver hscheme hurl hpath ?_
    rw [← hhost, ← hurlHost]
    simp only [Request.isSendable, requestTo, Bool.and_eq_true, Bool.not_eq_true'] at hsendable
    exact hsendable.2
  · intro hjoinable
    obtain ⟨url, hurl, hsame, hpath, hquery⟩ := url_of_isJoinable hserver hscheme hjoinable call
    refine ⟨url, (request_perform_iff htoken hreply).mpr ⟨hurl, ?_⟩,
      hsame.host_eq.trans hhost.symm, hsame.port_eq.trans hport.symm, ?_, hquery⟩
    · simp only [Request.isSendable, requestTo, hsame.scheme_eq, hsame.host_eq, hscheme,
        hjoinable.named]
      rfl
    · rw [List.append_assoc, hsuffix]
      exact hpath

/-- The calls to a server with a path go under that path, however many slashes stand behind it. -/
theorem perform_meets_endpoint_of_slashes :
    let c : Config := { Config.empty with server := some "http://news.test/app//" }
    let s : Session := ⟨some "T1", .memory (some "T1")⟩
    c.liveEndpoint = .ok "ws://news.test/ws" ∧
    ∃ url, (me.perform c.serverUrl .none s).request = some (me.requestTo url "T1") ∧
      url.path.chars = "/app/api/auth/me".toList := by
  intro c s
  let u : Url :=
    ⟨"http", some (.ofHost (.name "news.test".toList) none),
      .segments ["app".toList, [], []], none, none⟩
  have hserver : Url.ofText c.serverUrl = .ok u := eq_ok_of_toOption_eq_some (by decide +kernel)
  have hjoined : Url.ofText (Url.extended c.serverUrl []) =
      .ok { u with path := .segments ["app".toList, []] } :=
    eq_ok_of_toOption_eq_some (by decide +kernel)
  have hjoinable : IsJoinable c.serverUrl u :=
    { unmarked := ⟨rfl, rfl⟩
      visible := by decide +kernel
      filled := by
        intro v hv
        obtain rfl := Except.ok.inj (hjoined.symm.trans hv)
        decide +kernel
      named := by decide +kernel }
  have hreply : Reply.none ≠ .unreachable := Reply.noConfusion
  obtain ⟨endpoint, hendpoint, htext, -, hmeets⟩ :=
    perform_meets_endpoint_iff rfl hserver rfl (by decide : Session.CanBeSent s.token) hreply me
  obtain ⟨url, hrequest, -, -, hpath, -⟩ := hmeets.mpr hjoinable
  refine ⟨?_, url, hrequest, hpath.trans (by decide +kernel)⟩
  rw [htext, ← Option.some.inj hendpoint]
  decide +kernel

/-- A call to a server whose address has a query goes to the path of the server, and what it asks
for becomes a part of the query. The live endpoint is derived from the address all the same. -/
theorem perform_misses_endpoint_of_query :
    let c : Config := { Config.empty with server := some "http://news.test/app?x=1" }
    let s : Session := ⟨some "T1", .memory (some "T1")⟩
    c.liveEndpoint = .ok "ws://news.test/ws" ∧
    ∃ u url, Url.ofText c.serverUrl = .ok u ∧ u.path.chars = "/app".toList ∧
      (me.perform c.serverUrl .none s).request = some (me.requestTo url "T1") ∧
      url.path.chars = "/app".toList ∧ url.query = some "x=1/api/auth/me".toList := by
  intro c s
  let ofQuery (query : String) : Url :=
    ⟨"http", some (.ofHost (.name "news.test".toList) none), .segments ["app".toList],
      some query.toList, none⟩
  have hserver : Url.ofText c.serverUrl = .ok (ofQuery "x=1") :=
    eq_ok_of_toOption_eq_some (by decide +kernel)
  have hread : Url.ofText (me.address c.serverUrl) = .ok (ofQuery "x=1/api/auth/me") :=
    eq_ok_of_toOption_eq_some (by decide +kernel)
  have hurl : me.url c.serverUrl = .ok (ofQuery "x=1/api/auth/me") :=
    url_eq_ok_iff.mpr ⟨_, hread, rfl, by decide +kernel⟩
  have hrequest : (me.perform c.serverUrl .none s).request =
      some (me.requestTo (ofQuery "x=1/api/auth/me") "T1") :=
    (request_perform_iff (by decide : Session.CanBeSent s.token) Reply.noConfusion).mpr
      ⟨hurl, by decide +kernel⟩
  exact ⟨eq_ok_of_toOption_eq_some (by decide +kernel), _, _, hserver, rfl, hrequest, rfl, rfl⟩

end

end Call

end NewsReader
