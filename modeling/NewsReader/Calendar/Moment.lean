import NewsReader.Calendar.Date

/-!
# Moments

A moment is a second of a day. On a clock that is ahead or behind, the same moment is another
second, and maybe one of another day. No clock is ahead or behind by a day, so the day is the same
one, the one before or the one after.

A timestamp is a moment of universal time with the offset of the clock that it is shown on.
-/

namespace NewsReader.Calendar

namespace Date

/-- The day after. -/
def next? (d : Date) : Option Date :=
  (of? d.year d.month (d.day + 1)).orElse fun _ =>
    (of? d.year (d.month + 1) 1).orElse fun _ => of? (d.year + 1) 1 1

/-- The day before. -/
def previous? (d : Date) : Option Date :=
  (of? d.year d.month (d.day - 1)).orElse fun _ =>
    (of? d.year (d.month - 1) (daysIn d.year (d.month - 1))).orElse fun _ => of? (d.year - 1) 12 31

/-- The day that is one later, one earlier or the same. -/
def turned? (d : Date) (days : Int) : Option Date :=
  if days = 1 then d.next? else if days = -1 then d.previous? else some d

end Date

/-- A second of a day. A leap second is counted as the second before it. -/
structure Moment where
  /-- The day. -/
  date : Date
  /-- The second of the day, of which there are 86400. -/
  second : Fin 86400
  deriving DecidableEq

/-- The same moment on a clock that is ahead by so many seconds. -/
def Moment.ahead? (m : Moment) (seconds : Int) : Option Moment :=
  let total := (m.second.val : Int) + seconds
  (m.date.turned? (total / 86400)).map fun date => ⟨date, ⟨(total % 86400).toNat, by omega⟩⟩

/-- A moment that is shown on a clock with an offset. -/
structure Timestamp where
  /-- The moment in universal time. -/
  universal : Moment
  /-- The seconds by which the clock is ahead of universal time. -/
  offset : Int

namespace Timestamp

/-- The moment that a clock shows, if it is in the calendar in universal time. -/
def ofLocal? (shown : Moment) (offset : Int) : Option Timestamp :=
  (shown.ahead? (-offset)).map fun universal => ⟨universal, offset⟩

/-- The day on the clock. -/
def localDate? (t : Timestamp) : Option Date :=
  (t.universal.ahead? t.offset).map fun shown => shown.date

end Timestamp

end NewsReader.Calendar
