import NewsReader.Records.PublishDate
import NewsReader.Text.Excerpt
import NewsReader.Text.Markup

/-!
# Feeds

A feed is a source of news that a user can subscribe to. A subscription joins a user and a feed.

A listing has one line for each feed: a mark that says whether the user subscribes to it, the title
without its markup, and the id that commands take.
-/

namespace NewsReader

open Calendar (Date)
open Json (Reader Field Fields RecordShape Value Wire)

/-- A source of news. -/
structure Feed where
  /-- The id. -/
  id : String
  /-- The address of the source. -/
  url : String
  /-- The title, with its markup. -/
  title : String
  /-- The author. -/
  author : String
  /-- The date of the latest change. -/
  published : Option Date
  deriving DecidableEq

namespace Feed

/-- The fields of a feed. -/
def shape : RecordShape Feed where
  name := "Feed"
  types := [String, String, String, String, Option Date]
  fields :=
    .cons (.required "id" (.text "a string")) <| .cons (.required "url" (.text "a string")) <|
    .cons (.required "title" (.text "a string")) <| .cons (.required "author" (.text "a string")) <|
    .cons PublishDate.field .nil
  build | (id, url, title, author, published, ()) => ⟨id, url, title, author, published⟩

/-- The written feed. -/
def json (f : Feed) : Value :=
  .object [("id", .text f.id), ("url", .text f.url), ("title", .text f.title),
    ("author", .text f.author), ("publish_date", PublishDate.json f.published)]

instance : Wire Feed where
  reader := shape.reader
  json := json

/-- The greatest length of a title in a listing. -/
def titleLimit : Nat :=
  80

/-- The title in a listing: without markup and cut, or the address if there is no title. -/
def shownTitle (f : Feed) : String :=
  let title := Text.plain f.title
  if title.isEmpty then f.url else Text.excerpt titleLimit title

/-- The line of the feed in a listing. -/
def line (f : Feed) (subscribed : Bool) : String :=
  (if subscribed then "[x] " else "[ ] ") ++ f.shownTitle ++ "  " ++ f.id

end Feed

/-- A user subscribes to a feed. -/
structure Subscription where
  /-- The id of the user. -/
  user : String
  /-- The id of the feed. -/
  feed : String
  deriving DecidableEq

namespace Subscription

/-- The fields of a subscription. -/
def shape : RecordShape Subscription where
  name := "Subscription"
  types := [String, String]
  fields :=
    .cons (.required "user_id" (.text "a string")) <|
    .cons (.required "feed_id" (.text "a string")) .nil
  build | (user, feed, ()) => ⟨user, feed⟩

/-- The written subscription. -/
def json (s : Subscription) : Value :=
  .object [("user_id", .text s.user), ("feed_id", .text s.feed)]

instance : Wire Subscription where
  reader := shape.reader
  json := json

end Subscription

end NewsReader
