import NewsReader.Calendar.Moment
import NewsReader.Text.Blank
import NewsReader.Text.Digits

/-!
# Reading dates

A date is written either as its three numbers with hyphens between them or as a timestamp.

* `calendarDay?` reads the numbers. Blanks may stand before each. A year without a sign has at most
  four digits, one with a sign any number of them; month and day have at most two.
* `timestamp?` reads a timestamp with its time of day and its offset as the moment that it stands
  for. The date is the one on the clock of the timestamp.

Either form is the whole text. `Date.ofText?` tries them in this order.
-/

namespace NewsReader.Calendar

open Text (isDigit numberOf)

/-- Read one or more digits, as many as there are. -/
def digits? (cs : List Char) : Option (Nat × List Char) :=
  match cs.takeWhile isDigit with
  | [] => none
  | ds => some (numberOf ds, cs.dropWhile isDigit)

/-- Read one or more digits, but at most `max`. -/
def fewDigits? (max : Nat) (cs : List Char) : Option (Nat × List Char) :=
  match (cs.take max).takeWhile isDigit with
  | [] => none
  | ds => some (numberOf ds, cs.drop ds.length)

/-- Read exactly `count` digits. -/
def exactDigits? (count : Nat) (cs : List Char) : Option (Nat × List Char) :=
  let ds := cs.take count
  if ds.length = count ∧ ds.all isDigit then some (numberOf ds, cs.drop count) else none

/-- Read one given character. -/
def char? (c : Char) : List Char → Option (List Char)
  | [] => none
  | d :: cs => if d = c then some cs else none

/-- Read a year, with or without a sign. -/
def year? : List Char → Option (Int × List Char)
  | '-' :: cs => (digits? cs).map fun (n, rest) => (-(n : Int), rest)
  | '+' :: cs => (digits? cs).map fun (n, rest) => ((n : Int), rest)
  | cs => (fewDigits? 4 cs).map fun (n, rest) => ((n : Int), rest)

/-- Read the numbers of a date, with blanks before each, as the whole text. -/
def calendarDay? (cs : List Char) : Option Date := do
  let (year, cs) ← year? (cs.dropWhile Text.isBlank)
  let cs ← char? '-' cs
  let (month, cs) ← fewDigits? 2 (cs.dropWhile Text.isBlank)
  let cs ← char? '-' cs
  let (day, cs) ← fewDigits? 2 (cs.dropWhile Text.isBlank)
  if cs.isEmpty then Date.of? year month day else none

/-- Read a fraction, if there is one: a point and digits. -/
def fraction? : List Char → Option (List Char)
  | '.' :: cs => (digits? cs).map (·.2)
  | cs => some cs

/-- Read the time of day: hours, minutes and seconds, the last up to a leap second, and maybe a
fraction. The result is the second of the day. -/
def timeOfDay? (cs : List Char) : Option (Fin 86400 × List Char) := do
  let (hour, cs) ← exactDigits? 2 cs
  let cs ← char? ':' cs
  let (minute, cs) ← exactDigits? 2 cs
  let cs ← char? ':' cs
  let (second, cs) ← exactDigits? 2 cs
  if h : hour ≤ 23 ∧ minute ≤ 59 ∧ second ≤ 60 then
    (fraction? cs).map fun cs => (⟨hour * 3600 + minute * 60 + min second 59, by omega⟩, cs)
  else none

/-- Read an offset from universal time in seconds: `Z`, or a sign, hours and minutes, short of a
day. The sign may be U+2212 too. -/
def offset? : List Char → Option (Int × List Char)
  | [] => none
  | sign :: cs =>
    if sign = 'Z' ∨ sign = 'z' then some (0, cs)
    else if sign = '+' ∨ sign = '-' ∨ sign = '\u2212' then do
      let (hours, cs) ← exactDigits? 2 cs
      let cs ← char? ':' cs
      let (minutes, cs) ← exactDigits? 2 cs
      let seconds : Int := hours * 3600 + minutes * 60
      if hours ≤ 23 ∧ minutes ≤ 59 then some (if sign = '+' then seconds else -seconds, cs)
      else none
    else none

/-- Between the date and the time of day stands a `T` or a space. -/
def separator? : List Char → Option (List Char)
  | [] => none
  | c :: cs => if c = 'T' ∨ c = 't' ∨ c = ' ' then some cs else none

/-- Read a timestamp as the whole text. -/
def timestamp? (cs : List Char) : Option Timestamp := do
  let (year, cs) ← exactDigits? 4 cs
  let cs ← char? '-' cs
  let (month, cs) ← exactDigits? 2 cs
  let cs ← char? '-' cs
  let (day, cs) ← exactDigits? 2 cs
  let cs ← separator? cs
  let (time, cs) ← timeOfDay? cs
  let (offset, cs) ← offset? cs
  let date ← Date.of? year month day
  if cs.isEmpty then Timestamp.ofLocal? ⟨date, time⟩ offset else none

/-- The date that a text writes, as its numbers or as a timestamp. -/
def Date.ofChars? (cs : List Char) : Option Date :=
  (calendarDay? cs).orElse fun _ => (timestamp? cs).bind Timestamp.localDate?

/-- The date that a text writes, as its numbers or as a timestamp. -/
def Date.ofText? (s : String) : Option Date :=
  Date.ofChars? s.toList

end NewsReader.Calendar
