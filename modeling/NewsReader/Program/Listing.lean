import NewsReader.Records.Account
import NewsReader.Records.Feed
import NewsReader.Records.NewsItem

/-!
# What commands print

The answer to a command is printed as lines, or as JSON if that is asked for. A list without
elements is printed as one line that says so.
-/

namespace NewsReader.Program.Listing

open Json (Wire)

/-- Each line with its end. -/
def text (lines : List String) : String :=
  String.join (lines.map (· ++ "\n"))

/-- The value as JSON. -/
def json {α : Type} [Wire α] (a : α) : String :=
  text [(Wire.json a).indented]

/-- Either the value as JSON or the lines for it. -/
def print {α : Type} [Wire α] (asJson : Bool) (lines : α → List String) (a : α) : String :=
  if asJson then json a else text (lines a)

/-- The lines for the elements of a list, or the one for a list without any. -/
def ofList {α : Type} (none : String) (line : α → String) : List α → List String
  | [] => [none]
  | as => as.map line

/-- The line for a user. -/
def user (u : User) : List String :=
  [u.name ++ " (" ++ u.id ++ ")"]

/-- The lines for feeds, with a mark at those that are subscribed to. -/
def feeds (subscriptions : List Subscription) : List Feed → List String :=
  ofList "No feeds" fun f => f.line (subscriptions.any (·.feed = f.id))

/-- The lines for news. -/
def news : List NewsItem → List String :=
  ofList "No news" NewsItem.line

/-- The lines for subscriptions. -/
def subscriptions : List Subscription → List String :=
  ofList "No subscriptions" Subscription.feed

/-- The line for a new subscription. -/
def subscribed (s : Subscription) : List String :=
  ["Subscribed to " ++ s.feed]

/-- The line for the end of subscriptions, of which there were `count`. -/
def unsubscribed (feed : String) (count : Nat) : List String :=
  [(if count = 0 then "Not subscribed to " else "Unsubscribed from ") ++ feed]

end NewsReader.Program.Listing
