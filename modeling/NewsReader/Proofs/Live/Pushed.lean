import NewsReader.Live.Payload
import NewsReader.Proofs.Api.Answers
import NewsReader.Proofs.Json.Joined
import NewsReader.Proofs.Records.RoundTrip
import NewsReader.Proofs.Records.Variation

/-!
# News that are pushed and news that are listed

The server pushes news items one by one, and lists them on request. A payload is read up to its end,
and nothing may be left over; an item of a list is read up to the comma or the bracket that follows
it. Both accept the same texts as the same items.

* `newsItem?_eq_some_iff` — what a payload is.
* `pushed_as_listed` — payloads put together to a list.
-/

namespace NewsReader

open Call (eq_ok_of_toOption_eq_some)
open Json (Reader Wire listText)

/-- News items are trees. -/
theorem NewsItem.readsTrees : shape.reader.ReadsTrees := by
  have htext := Reader.readsTrees_text "a string"
  exact Json.RecordShape.readsTrees ⟨htext.optional, htext, htext, htext, PublishDate.readsTrees,
    htext, trivial⟩

namespace Live

/-- A payload is a news item if it is decoded as the item. -/
theorem newsItem?_eq_some_iff {payload : String} {item : NewsItem} :
    newsItem? payload = some item ↔ NewsItem.shape.reader.decode payload = .ok item := by
  have hdecode : (Wire.decode payload : Except _ NewsItem) = NewsItem.shape.reader.decode payload :=
    rfl
  unfold newsItem? readPayload
  rw [hdecode]
  cases NewsItem.shape.reader.decode payload <;> simp [Except.toOption]

/-- A request for the news that was sent brings a list exactly if the reply to it, a success, is
decoded as the list. -/
theorem listed_iff {server body : String} {s : Session} {request : Http.Request}
    {items : List NewsItem} (hsent : (Call.news.dispatch server s.token).1 = .sent request) :
    (Call.news.perform server (.head .ok (.complete (Text.encode body.toList))) s).result =
      .ok items ↔ NewsItem.shape.reader.list.decode body = .ok items := by
  have htext : Call.textOf (Text.encode body.toList) = body := by
    rw [Call.textOf, Text.decodeLenient_encode, String.ofList_toList]
  have hlogout : ¬Call.news.isLogout := Bool.false_ne_true
  rw [Call.perform_eq_ok_iff hlogout, and_iff_right ⟨request, hsent⟩]
  constructor
  · rintro ⟨status, bytes, hreply, -, -, hdecode⟩
    cases hreply
    rwa [htext] at hdecode
  · intro hdecode
    exact ⟨.ok, _, rfl, by decide, by decide, htext.symm ▸ hdecode⟩

/-- Pushed and listed news are decoded in the same way. Let a request for the news be answered with
the status 200. A payload is pushed as a news item exactly if the payload between brackets is listed
as this item alone. Payloads that are pushed as news items, with commas between them and between
brackets, are listed as these items in their order. -/
theorem pushed_as_listed {server : String} {s : Session} {request : Http.Request}
    (hsent : (Call.news.dispatch server s.token).1 = .sent request) :
    let listed (body : String) : Except Api.Failure (List NewsItem) :=
      (Call.news.perform server (.head .ok (.complete (Text.encode body.toList))) s).result
    (∀ (payload : String) (item : NewsItem),
      newsItem? payload = some item ↔ listed ("[" ++ payload ++ "]") = .ok [item]) ∧
    ∀ (payloads : List String) (items : List NewsItem),
      payloads.map newsItem? = items.map some →
      listed ("[" ++ ",".intercalate payloads ++ "]") = .ok items := by
  intro listed
  constructor
  · intro payload item
    rw [newsItem?_eq_some_iff, listed_iff hsent, ← NewsItem.readsTrees.decode_bracketed_iff]
    rfl
  · intro payloads items hpayloads
    have hitems : List.Forall₂ (fun payload item => newsItem? payload = some item)
        payloads items := by
      rwa [← List.forall₂_eq_eq_eq, List.forall₂_map_left_iff, List.forall₂_map_right_iff]
        at hpayloads
    exact (listed_iff hsent).mpr
      (NewsItem.readsTrees.decode_joined (hitems.imp fun _ _ => newsItem?_eq_some_iff.mp))

/-- Two payloads, one of them with blanks and with members in another order, are listed as two
items. -/
theorem pushed_as_listed_pair :
    let s : Session := ⟨some "T1", .memory (some "T1")⟩
    let first := " \x7b\"feed_id\":\"f1\",\"title\":\"a,]\",\"author\":\"\"," ++
      "\"url\":\"u\",\"x\":[1,\x7b\x7d]\x7d\n"
    let second := "[\"2\",\"b\",\"B\",\"u\",null,\"f2\"]"
    (∃ request, (Call.news.dispatch "http://news.test" s.token).1 = .sent request) ∧
      newsItem? first = some ⟨none, "a,]", "", "u", none, "f1"⟩ ∧
      newsItem? second = some ⟨some "2", "b", "B", "u", none, "f2"⟩ ∧
      (Call.news.perform "http://news.test"
        (.head .ok
          (.complete (Text.encode ("[" ++ ",".intercalate [first, second] ++ "]").toList)))
        s).result =
        .ok [⟨none, "a,]", "", "u", none, "f1"⟩,
          ⟨some "2", "b", "B", "u", none, "f2"⟩] := by
  intro s first second
  have hserver : Call.news.IsUsable "http://news.test"
      ⟨"http", some (.ofHost (.name "news.test".toList) none),
        .segments ["api".toList, "news".toList], none, none⟩ :=
    { url_eq := eq_ok_of_toOption_eq_some (by decide +kernel)
      scheme_eq := rfl
      host := by decide }
  have hsent := Call.dispatch_of_canBeSent hserver (by decide : Session.CanBeSent s.token)
  have hfirst : newsItem? first = some ⟨none, "a,]", "", "u", none, "f1"⟩ := by decide +kernel
  have hsecond : newsItem? second = some ⟨some "2", "b", "B", "u", none, "f2"⟩ := by
    decide +kernel
  obtain ⟨-, hlist⟩ := pushed_as_listed hsent
  refine ⟨⟨_, hsent⟩, hfirst, hsecond, hlist _ [_, _] ?_⟩
  rw [List.map_cons, List.map_cons, hfirst, hsecond]
  rfl

end Live

end NewsReader
