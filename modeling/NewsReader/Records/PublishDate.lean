import NewsReader.Calendar.DateText
import NewsReader.Json.Wire

/-!
# Publish dates

The date on which something was published may be missing. A missing date is written as `null`; it is
read from `null`, from a blank text, and from a record without the field.
-/

namespace NewsReader

open Calendar (Date)

namespace PublishDate

/-- The date that a text gives, blanks around it aside. -/
def ofText (s : String) : Except Json.Fault (Option Date) :=
  let chars := Text.trimChars s.toList
  if chars.isEmpty then .ok none
  else
    match Date.ofChars? chars with
    | some d => .ok (some d)
    | none => .error (.notDate (String.ofList chars))

/-- The date that an optional text gives. -/
def ofText? : Option String → Except Json.Fault (Option Date)
  | none => .ok none
  | some s => ofText s

/-- Read a date that may be missing. -/
def reader : Json.Reader (Option Date) :=
  (Json.Reader.text "a string").optional.filterMap ofText?

/-- Write a date that may be missing. -/
def json (d : Option Date) : Json.Value :=
  .ofText? (d.map Date.text)

/-- The field of a record that holds the date. -/
def field : Json.Field (Option Date) :=
  .defaulted "publish_date" reader none

end PublishDate

end NewsReader
