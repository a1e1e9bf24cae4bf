import NewsReader.Json.Number
import NewsReader.Text.Quoted

/-!
# Faults of a JSON text

A text is read from left to right, and the first fault that is met is the answer. A fault says
either that the text breaks off, that it is malformed, or that it is well formed up to there and
holds something other than what is wanted.
-/

namespace NewsReader.Json

/-- A part of a text that breaks off. -/
inductive Part where
  | value
  | list
  | object
  | string
  deriving DecidableEq

/-- The part after its article. -/
def Part.text : Part → String
  | value => "a value"
  | list => "a list"
  | object => "an object"
  | string => "a string"

/-- What stands where something else is wanted. -/
inductive Found where
  | null
  | bool (b : Bool)
  | number (n : Number)
  | text (s : String)
  | list
  | object
  deriving DecidableEq

/-- What stands there, as faults name it. -/
def Found.described : Found → String
  | null => "null"
  | bool b => "boolean `" ++ (if b then "true" else "false") ++ "`"
  | number n => n.described
  | text s => "string " ++ Text.quoted s
  | list => "sequence"
  | object => "map"

/-- A reason why a text cannot be read. -/
inductive Fault where
  /-- The text ends inside of a part. -/
  | ended (part : Part)
  /-- No value can start here. -/
  | noValue
  /-- A word starts like `true`, `false` or `null` and goes on differently. -/
  | noWord
  /-- There is no colon after a key. -/
  | noColon
  /-- Neither a comma nor the end of the list follows an element. -/
  | noCommaInList
  /-- Neither a comma nor the end of the object follows a member. -/
  | noCommaInObject
  /-- A key is not a string. -/
  | keyNotText
  /-- Nothing follows a comma. -/
  | trailingComma
  /-- Something follows the value. -/
  | trailingText
  /-- A number is malformed. -/
  | badNumber
  /-- A number is too large. -/
  | numberTooLarge
  /-- A backslash is followed by something that cannot be escaped. -/
  | badEscape
  /-- A control character stands in a string as it is. -/
  | controlCharacter
  /-- One half of a character stands alone. -/
  | loneSurrogate
  /-- The second half of a character is not written by number. -/
  | unfinishedSurrogate
  /-- Something is of the wrong kind. -/
  | wrongKind (found : Found) (wanted : String)
  /-- The number `-n` stands where none below zero is wanted. -/
  | belowZero (n : Nat) (wanted : String)
  /-- A list ends before all fields that it needs. -/
  | tooFew (count : Nat) (wanted : String)
  /-- A field that is needed is not there. -/
  | missing (field : String)
  /-- A field is given twice. -/
  | repeated (field : String)
  /-- A name is none of the known ones. -/
  | unknownName (name : String) (known : List String)
  /-- A text is not a date. -/
  | notDate (text : String)
  deriving DecidableEq

/-- What a fault says about the text as a whole. -/
inductive Category where
  /-- The text breaks off. -/
  | unfinished
  /-- The text is malformed. -/
  | malformed
  /-- The text holds something else. -/
  | mismatched
  deriving DecidableEq

namespace Fault

/-- The category of a fault. -/
def category : Fault → Category
  | ended _ => .unfinished
  | wrongKind .. | belowZero .. | tooFew .. | missing _ | repeated _ | unknownName .. | notDate _ =>
    .mismatched
  | _ => .malformed

/-- A name in its marks. -/
def marked (name : String) : String :=
  "`" ++ name ++ "`"

/-- The text of a fault, without the place at which it is met. -/
def message : Fault → String
  | ended part => "EOF while parsing " ++ part.text
  | noValue => "expected value"
  | noWord => "expected ident"
  | noColon => "expected `:`"
  | noCommaInList => "expected `,` or `]`"
  | noCommaInObject => "expected `,` or `\x7d`"
  | keyNotText => "key must be a string"
  | trailingComma => "trailing comma"
  | trailingText => "trailing characters"
  | badNumber => "invalid number"
  | numberTooLarge => "number out of range"
  | badEscape => "invalid escape"
  | controlCharacter => "control character (\\u0000-\\u001F) found while parsing a string"
  | loneSurrogate => "lone leading surrogate in hex escape"
  | unfinishedSurrogate => "unexpected end of hex escape"
  | wrongKind found wanted => "invalid type: " ++ found.described ++ ", expected " ++ wanted
  | belowZero n wanted =>
    "invalid value: " ++ (Number.negative n).described ++ ", expected " ++ wanted
  | tooFew count wanted =>
    "invalid length " ++ String.ofList (Nat.toDigits 10 count) ++ ", expected " ++ wanted
  | missing field => "missing field " ++ marked field
  | repeated field => "duplicate field " ++ marked field
  | unknownName name known =>
    "unknown variant " ++ marked name ++ ", expected one of " ++
      ", ".intercalate (known.map marked)
  | notDate text => "invalid date: " ++ text

end Fault

/-- A result that was mapped comes from a result. -/
theorem exists_of_map_eq_ok {ε α β : Type} {x : Except ε α} {f : α → β} {b : β}
    (h : x.map f = .ok b) : ∃ a, x = .ok a ∧ f a = b := by
  cases x with
  | error _ => cases h
  | ok a => exact ⟨a, rfl, Except.ok.inj h⟩

end NewsReader.Json
