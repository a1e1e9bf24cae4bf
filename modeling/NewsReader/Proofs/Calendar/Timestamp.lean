import NewsReader.Proofs.Calendar.DateText
import NewsReader.Proofs.Calendar.Moment

/-!
# Written timestamps are read as their date

A timestamp writes a date, the time of day on a clock, and the offset of the clock. Each of its
parts has a fixed number of digits, so it is read where it is written; the digits of a fraction end
where the offset starts. What is read is a moment of universal time, which may be on the day before
or after. Its day on the clock is the written one again.

* `exactDigits?_padded` — a number of the right width is read.
* `timeOfDay?_chars`, `offset?_chars` — a written time of day and a written offset are read.
* `timestamp?_chars` — a written timestamp is the moment that its clock shows.
* `Date.ofChars?_append_stamp` — the date of a written timestamp is the written one.
-/

namespace NewsReader.Calendar

open Text (isDigit isBlank numberOf)
open Date (padded)

/-! ### Parts of a timestamp -/

/-- A written time of day. -/
structure TimeText where
  /-- The hour. -/
  hour : Fin 24
  /-- The minute. -/
  minute : Fin 60
  /-- The second; 60 is a leap second. -/
  second : Fin 61
  /-- The digits behind the point; without any there is no point. -/
  fraction : List Char
  /-- They are digits. -/
  isDigit_of_mem : ∀ c ∈ fraction, isDigit c

namespace TimeText

/-- The written fraction. -/
def fractionChars (t : TimeText) : List Char :=
  if t.fraction = [] then [] else '.' :: t.fraction

/-- The written time of day, as characters. -/
def chars (t : TimeText) : List Char :=
  padded 2 t.hour ++ ':' :: (padded 2 t.minute ++ ':' :: (padded 2 t.second ++ t.fractionChars))

/-- The second of the day. A leap second counts as the second before it. -/
def secondOfDay (t : TimeText) : Fin 86400 :=
  ⟨t.hour.val * 3600 + t.minute.val * 60 + min t.second.val 59, by omega⟩

end TimeText

/-- A written offset from universal time. -/
inductive OffsetText where
  /-- There is none: a letter. -/
  | universal (letter : Char) (isLetter : letter = 'Z' ∨ letter = 'z')
  /-- A sign, hours and minutes. -/
  | signed (sign : Char) (isSign : sign = '+' ∨ sign = '-' ∨ sign = '\u2212') (hours : Fin 24)
    (minutes : Fin 60)

namespace OffsetText

/-- The written offset, as characters. -/
def chars : OffsetText → List Char
  | universal letter _ => [letter]
  | signed sign _ hours minutes => sign :: (padded 2 hours ++ ':' :: padded 2 minutes)

/-- The offset in seconds. -/
def seconds : OffsetText → Int
  | universal _ _ => 0
  | signed sign _ hours minutes =>
    let seconds : Int := hours.val * 3600 + minutes.val * 60
    if sign = '+' then seconds else -seconds

end OffsetText

/-- What a timestamp writes behind its date. -/
structure StampText where
  /-- What stands between the date and the time of day. -/
  separator : Char
  /-- It is a `T` or a space. -/
  isSeparator : separator = 'T' ∨ separator = 't' ∨ separator = ' '
  /-- The time of day. -/
  time : TimeText
  /-- The offset. -/
  offset : OffsetText

/-- What a timestamp writes behind its date, as characters. -/
def StampText.chars (s : StampText) : List Char :=
  s.separator :: (s.time.chars ++ s.offset.chars)

/-! ### Reading the parts -/

/-- A number below ten to the width is read off the front where it is written in that width. -/
theorem exactDigits?_padded {width n : Nat} (h : (Nat.toDigits 10 n).length ≤ width)
    (rest : List Char) : exactDigits? width (padded width n ++ rest) = some (n, rest) := by
  have hlength := Date.length_padded h
  have htake : (padded width n ++ rest).take width = padded width n := List.take_left' hlength
  have hdrop : (padded width n ++ rest).drop width = rest := List.drop_left' hlength
  have hall : (padded width n).all isDigit :=
    List.all_eq_true.mpr fun _ => Date.isDigit_of_mem_padded
  rw [exactDigits?, htake, hdrop, if_pos ⟨hlength, hall⟩, Date.numberOf_padded]

/-- A number below 100 is read off the front where it is written in two digits. -/
theorem exactDigits?_two {n : Nat} (h : n < 100) (rest : List Char) :
    exactDigits? 2 (padded 2 n ++ rest) = some (n, rest) :=
  exactDigits?_padded ((Nat.length_toDigits_le_iff (by decide) (by decide)).mpr h) rest

/-- A character is read off the front. -/
theorem char?_cons (c : Char) (rest : List Char) : char? c (c :: rest) = some rest :=
  if_pos rfl

/-- A written fraction is read up to where neither a digit nor a point follows. -/
theorem fraction?_chars (t : TimeText) {rest : List Char}
    (hrest : ∀ c ∈ rest.head?, isDigit c = false ∧ c ≠ '.') :
    fraction? (t.fractionChars ++ rest) = some rest := by
  unfold TimeText.fractionChars
  split
  · -- There is no point, so none may follow.
    unfold fraction?
    split
    · next heq => exact absurd rfl (hrest '.' (by rw [← List.nil_append rest, heq]; rfl)).2
    · rfl
  · next hne =>
    have hdigits : ∀ c ∈ rest.head?, isDigit c = false := fun c hc => (hrest c hc).1
    have htake := Text.takeWhile_isDigit_append t.isDigit_of_mem hdigits
    have hdrop := Text.dropWhile_isDigit_append t.isDigit_of_mem hdigits
    obtain ⟨c, cs, hcons⟩ := List.exists_cons_of_ne_nil hne
    rw [List.cons_append, fraction?, digits?, htake, hdrop]
    simp only [hcons, Option.map_some]

/-- A written time of day is read up to where neither a digit nor a point follows. -/
theorem timeOfDay?_chars (t : TimeText) {rest : List Char}
    (hrest : ∀ c ∈ rest.head?, isDigit c = false ∧ c ≠ '.') :
    timeOfDay? (t.chars ++ rest) = some (t.secondOfDay, rest) := by
  have hbounds : t.hour.val ≤ 23 ∧ t.minute.val ≤ 59 ∧ t.second.val ≤ 60 := by omega
  simp only [timeOfDay?, TimeText.chars, List.append_assoc, List.cons_append,
    exactDigits?_two (Nat.lt_trans t.hour.isLt (by decide)),
      exactDigits?_two (Nat.lt_trans t.minute.isLt (by decide)),
    exactDigits?_two (Nat.lt_trans t.second.isLt (by decide)), char?_cons, Option.bind_eq_bind,
    Option.bind_some,
    dif_pos hbounds, fraction?_chars t hrest, Option.map_some, TimeText.secondOfDay]

/-- A written offset is read as the whole text. -/
theorem offset?_chars (o : OffsetText) : offset? o.chars = some (o.seconds, []) := by
  cases o with
  | universal letter hletter =>
    simp only [OffsetText.chars, offset?, hletter, ↓reduceIte, OffsetText.seconds]
  | signed sign hsign hours minutes =>
    have hletter : ¬(sign = 'Z' ∨ sign = 'z') := by rcases hsign with rfl | rfl | rfl <;> decide
    have hbounds : hours.val ≤ 23 ∧ minutes.val ≤ 59 := by omega
    have hlast := exactDigits?_two (Nat.lt_trans minutes.isLt (by decide)) []
    rw [List.append_nil] at hlast
    simp only [OffsetText.chars, offset?, hletter, hsign,
      exactDigits?_two (Nat.lt_trans hours.isLt (by decide)),
      char?_cons, hlast, hbounds, Option.bind_eq_bind, Option.bind_some, and_self, ↓reduceIte,
        OffsetText.seconds]

/-- A written offset starts with neither a digit nor a point. -/
theorem OffsetText.head?_chars (o : OffsetText) :
    ∀ c ∈ o.chars.head?, isDigit c = false ∧ c ≠ '.' := by
  cases o with
  | universal letter hletter => rcases hletter with rfl | rfl <;> (rintro c ⟨⟩; decide)
  | signed sign hsign hours minutes =>
    rcases hsign with rfl | rfl | rfl <;> (rintro c ⟨⟩; decide)

/-! ### Reading a timestamp -/

namespace Date

/-- A year of at most four digits is written without a sign. -/
theorem chars_of_year_le {d : Date} (hlow : 0 ≤ d.year) (hhigh : d.year ≤ 9999) :
    d.chars = padded 4 d.year.natAbs ++ '-' :: (padded 2 d.month ++ '-' :: padded 2 d.day) := by
  rw [chars, yearChars, if_neg (by omega), if_pos hhigh, List.append_assoc, List.cons_append]

end Date

/-- A written timestamp is the moment that its clock shows. -/
theorem timestamp?_chars (d : Date) (s : StampText) (hlow : 0 ≤ d.year)
    (hhigh : d.year ≤ 9999) :
    timestamp? (d.chars ++ s.chars) =
      Timestamp.ofLocal? ⟨d, s.time.secondOfDay⟩ s.offset.seconds := by
  obtain ⟨hmonth, hday⟩ := d.length_month_day_le
  -- A year of at most four digits is written in exactly four.
  have hyear : (Nat.toDigits 10 d.year.natAbs).length ≤ 4 :=
    (Nat.length_toDigits_le_iff (by decide) (by decide)).mpr (by omega)
  have hseparator (cs : List Char) : separator? (s.separator :: cs) = some cs :=
    if_pos s.isSeparator
  have hof : Date.of? (d.year.natAbs : Int) d.month d.day = some d := by
    rw [Int.natAbs_of_nonneg hlow]
    exact Date.of?_eq_some_iff.mpr ⟨rfl, rfl, rfl⟩
  rw [Date.chars_of_year_le hlow hhigh, StampText.chars]
  simp only [timestamp?, List.append_assoc, List.cons_append, exactDigits?_padded hyear,
    exactDigits?_padded hmonth,
    exactDigits?_padded hday, char?_cons, hseparator, timeOfDay?_chars s.time s.offset.head?_chars,
    offset?_chars, Option.bind_eq_bind, Option.bind_some, hof, List.isEmpty_nil, ↓reduceIte]

/-- The date of a written timestamp is the written one, whatever the time of day and the offset. -/
theorem Date.ofChars?_append_stamp (d : Date) (s : StampText) (hlow : 0 ≤ d.year)
    (hhigh : d.year ≤ 9999) : ofChars? (d.chars ++ s.chars) = some d := by
  obtain ⟨t, hlocal, hdate⟩ := Timestamp.exists_ofLocal? ⟨d, s.time.secondOfDay⟩
    s.offset.seconds (by simp only [firstYear]; omega) (by simp only [lastYear]; omega)
  -- The numbers of the date are there, but not alone.
  have hnumbers : calendarDay? (d.chars ++ s.chars) = none := calendarDay?_append d s.chars
  rw [ofChars?, hnumbers, timestamp?_chars d s hlow hhigh, hlocal]
  exact hdate

end NewsReader.Calendar
