/-!
# Calendar dates

A date is a day of the proleptic Gregorian calendar in the years from -262143 to 262142. That it is
a day is part of the type, so a reader of dates has to show it.

The written form is year, month and day with hyphens between them. Years of one to four digits are
padded to four; a year after 9999 has a plus sign and a year before 0 a minus sign.
-/

namespace NewsReader.Calendar

/-- A year with a 29th of February. -/
def isLeap (year : Int) : Bool :=
  year % 4 == 0 && (year % 100 != 0 || year % 400 == 0)

/-- The number of days in a month, and none if there is no such month. -/
def daysIn (year : Int) (month : Nat) : Nat :=
  match month with
  | 1 | 3 | 5 | 7 | 8 | 10 | 12 => 31
  | 4 | 6 | 9 | 11 => 30
  | 2 => if isLeap year then 29 else 28
  | _ => 0

/-- The earliest year that a date can lie in. -/
def firstYear : Int :=
  -262143

/-- The latest year that a date can lie in. -/
def lastYear : Int :=
  262142

/-- There is such a day in the calendar. -/
def IsDay (year : Int) (month day : Nat) : Prop :=
  firstYear ≤ year ∧ year ≤ lastYear ∧ 1 ≤ day ∧ day ≤ daysIn year month

instance (year : Int) (month day : Nat) : Decidable (IsDay year month day) := by
  unfold IsDay
  infer_instance

/-- A day of the calendar. -/
structure Date where
  /-- The year; 0 is the year before 1. -/
  year : Int
  /-- The month, from 1 to 12. -/
  month : Nat
  /-- The day of the month, from 1. -/
  day : Nat
  /-- There is such a day. -/
  isDay : IsDay year month day
  deriving DecidableEq

namespace Date

/-- The date with these numbers, if there is such a day. -/
def of? (year : Int) (month day : Nat) : Option Date :=
  if h : IsDay year month day then some ⟨year, month, day, h⟩ else none

/-- The decimal digits of a number, with zeros in front up to `width` of them. -/
def padded (width n : Nat) : List Char :=
  let digits := Nat.toDigits 10 n
  List.replicate (width - digits.length) '0' ++ digits

/-- The written year. -/
def yearChars (year : Int) : List Char :=
  if year < 0 then '-' :: padded 4 year.natAbs
  else if year ≤ 9999 then padded 4 year.natAbs
  else '+' :: padded 4 year.natAbs

/-- The written date, as characters. -/
def chars (d : Date) : List Char :=
  yearChars d.year ++ '-' :: padded 2 d.month ++ '-' :: padded 2 d.day

/-- The written date. -/
def text (d : Date) : String :=
  String.ofList d.chars

/-- What is shown for a date that may be missing. -/
def shown : Option Date → String
  | some d => d.text
  | none => "undated"

end Date

end NewsReader.Calendar
