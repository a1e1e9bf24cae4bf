import NewsReader.Records.PublishDate
import NewsReader.Text.Markup

/-!
# News items

A news item is an article of a feed. The server lists items and also pushes them one by one.
-/

namespace NewsReader

open Calendar (Date)
open Json (Reader Field Fields RecordShape Value Wire)

/-- An article of a feed. -/
structure NewsItem where
  /-- The id, if the server gave one. -/
  id : Option String
  /-- The title, with its markup. -/
  title : String
  /-- The author, or nothing. -/
  author : String
  /-- The address of the article. -/
  url : String
  /-- The date of publication. -/
  published : Option Date
  /-- The id of the feed. -/
  feed : String
  deriving DecidableEq

namespace NewsItem

/-- The fields of a news item. -/
def shape : RecordShape NewsItem where
  name := "NewsItem"
  types := [Option String, String, String, String, Option Date, String]
  fields :=
    .cons (.defaulted "id" (Reader.text "a string").optional none) <|
    .cons (.required "title" (.text "a string")) <| .cons (.required "author" (.text "a string")) <|
    .cons (.required "url" (.text "a string")) <| .cons PublishDate.field <|
    .cons (.required "feed_id" (.text "a string")) .nil
  build
    | (id, title, author, url, published, feed, ()) =>
      ⟨id, title, author, url, published, feed⟩

/-- The written news item. An id that is missing is left out. -/
def json (i : NewsItem) : Value :=
  .object (i.id.toList.map (("id", .text ·)) ++
    [("title", .text i.title), ("author", .text i.author), ("url", .text i.url),
      ("publish_date", PublishDate.json i.published), ("feed_id", .text i.feed)])

instance : Wire NewsItem where
  reader := shape.reader
  json := json

/-- The line of the item in a listing: the title without markup, the author if there is one, and the
date. -/
def line (i : NewsItem) : String :=
  Text.plain i.title ++ (if i.author.isEmpty then "" else " (" ++ i.author ++ ")") ++ " " ++
    Date.shown i.published

end NewsItem

end NewsReader
