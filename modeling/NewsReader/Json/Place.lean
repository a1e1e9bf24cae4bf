import NewsReader.Json.NumberText
import NewsReader.Text.Markup

/-!
# Places of faults

A fault is met at a place of the text, and where it is shown the place stands after its message.
A message that itself ends in a place brings that one along: it is shown instead, unless its line
is zero.
-/

namespace NewsReader.Json

open Text (dropFront? isDigit numberOf)

/-- A place in a text. With a line of zero it is none. -/
structure Place where
  /-- The line, counted from one. -/
  line : Nat
  /-- The column in the line. -/
  column : Nat
  line_lt : line < wordLimit
  column_lt : column < wordLimit
  deriving DecidableEq

namespace Place

/-- What stands before the line. -/
def lineMark : List Char :=
  " at line ".toList

/-- What stands before the column. -/
def columnMark : List Char :=
  " column ".toList

/-- The place as it is shown, which is empty if it is none. -/
def chars (place : Place) : List Char :=
  if place.line = 0 then []
  else
    lineMark ++ Nat.toDigits 10 place.line ++ (columnMark ++ Nat.toDigits 10 place.column)

/-- The place as it is shown, as a text. -/
def text (place : Place) : String :=
  String.ofList place.chars

/-- The place with a line and a column in these digits. -/
def ofDigits? (line column : List Char) : Option Place :=
  if h : numberOf line < wordLimit ∧ numberOf column < wordLimit then
    if line = [] ∨ column = [] then none
    else some ⟨numberOf line, numberOf column, h.1, h.2⟩
  else none

/-- The place that a text consists of. -/
def read? (cs : List Char) : Option Place := do
  let cs ← dropFront? lineMark cs
  let column ← dropFront? columnMark (cs.dropWhile isDigit)
  if column.all isDigit then ofDigits? (cs.takeWhile isDigit) column else none

/-- The place that a text ends in, and what stands before it. There is only one way to split the
text, since no place has another one at its end. -/
def split? : List Char → Option (List Char × Place)
  | [] => none
  | c :: cs =>
    match read? (c :: cs) with
    | some place => some ([], place)
    | none => (split? cs).map fun found => (c :: found.1, found.2)

/-- The place, or the other one if it is none. -/
def or (own other : Place) : Place :=
  if own.line = 0 then other else own

/-- A message with the place at which its fault is met. -/
def shown (met : Place) (message : String) : String :=
  match split? message.toList with
  | none => message ++ met.text
  | some (front, own) => String.ofList front ++ (own.or met).text

end Place

end NewsReader.Json
