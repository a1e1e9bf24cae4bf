import NewsReader.Json.Record
import NewsReader.Json.Value

/-!
# Types with a JSON form

A type has a JSON form if its values can be read from JSON and be written as JSON. Lists have the
form of their elements, and whole numbers have it too.
-/

namespace NewsReader.Json

/-- A type with a JSON form. -/
class Wire (α : Type) where
  /-- The reader of the values. -/
  reader : Reader α
  /-- The written value. -/
  json : α → Value

namespace Wire

variable {α : Type} [Wire α]

/-- The value that a whole text holds. -/
def decode (s : String) : Except Fault α :=
  Reader.decode reader s

instance : Wire (List α) where
  reader := reader.list
  json as := .list (as.map json)

instance : Wire Nat where
  reader := .natural
  json := .natural

end Wire

end NewsReader.Json
