import NewsReader.Calendar.Moment

/-!
# Clocks ahead and behind

A day is followed by the next one of its month, by the first of the next month or by the first of
the next year. Since going a day forth and going a day back are the two sides of this relation, each
undoes the other, also over the ends of months and years. So a moment that is shown on one clock,
then on another and then on the first again has its day back.

* `Date.next?_eq_some_iff`, `Date.previous?_eq_some_iff` — a day forth and a day back.
* `Moment.ahead?_of_ahead?_neg` — clocks that are ahead and behind by the same time undo each
  other.
* `Timestamp.exists_ofLocal?` — a timestamp has the day that its clock shows.
-/

namespace NewsReader.Calendar

/-- A month has at least 28 days if it is one of the twelve, and none otherwise. -/
theorem daysIn_cases (year : Int) (month : Nat) :
    1 ≤ month ∧ month ≤ 12 ∧ 28 ≤ daysIn year month ∨
      (month = 0 ∨ 12 < month) ∧ daysIn year month = 0 := by
  unfold daysIn
  split
  case h_12 => split <;> omega
  case h_13 =>
    refine .inr ⟨?_, rfl⟩
    simp only [imp_false] at *
    omega
  all_goals omega

namespace Date

variable {d e : Date} {year : Int} {month day : Nat}

/-- The numbers of a date give that date and no other. -/
theorem of?_eq_some_iff :
    of? year month day = some d ↔ d.year = year ∧ d.month = month ∧ d.day = day := by
  constructor
  · intro h
    unfold of? at h
    split at h
    · obtain rfl := Option.some.inj h
      exact ⟨rfl, rfl, rfl⟩
    · cases h
  · rintro ⟨rfl, rfl, rfl⟩
    exact dif_pos d.isDay

/-- There is no date exactly where there is no day. -/
theorem of?_eq_none_iff : of? year month day = none ↔ ¬IsDay year month day :=
  dite_eq_right_iff.trans (by simp)

/-- The month of a date is one of the twelve, and the day is one of its days. -/
theorem month_day_le (d : Date) :
    1 ≤ d.month ∧ d.month ≤ 12 ∧ 1 ≤ d.day ∧ d.day ≤ daysIn d.year d.month := by
  obtain ⟨-, -, hday, hle⟩ := d.isDay
  rcases daysIn_cases d.year d.month with ⟨hfirst, hlast, -⟩ | ⟨-, hnone⟩
  · exact ⟨hfirst, hlast, hday, hle⟩
  · omega

/-- A date is the day after another. -/
inductive Follows (e d : Date) : Prop where
  /-- It is the next of the month. -/
  | day (hyear : e.year = d.year) (hmonth : e.month = d.month) (hday : e.day = d.day + 1)
  /-- It is the first of the next month, and the other is the last of its month. -/
  | month (hyear : e.year = d.year) (hmonth : e.month = d.month + 1) (hday : e.day = 1)
    (hlast : d.day = daysIn d.year d.month)
  /-- It is the first of the next year, and the other is the last of its year. -/
  | year (hyear : e.year = d.year + 1) (hmonth : e.month = 1) (hday : e.day = 1)
    (hlast : d.month = 12 ∧ d.day = 31)

/-- The day after a date follows it. -/
theorem next?_eq_some_iff : d.next? = some e ↔ e.Follows d := by
  obtain ⟨hlow, hhigh, -, -⟩ := d.isDay
  obtain ⟨hfirst, hlast, hday, hle⟩ := d.month_day_le
  have hmonths := daysIn_cases d.year (d.month + 1)
  -- The three candidates are tried in order, so the second and the third are taken where those
  -- before them are no days.
  simp only [next?, Option.orElse_eq_or, Option.or_eq_some_iff, of?_eq_some_iff,
    of?_eq_none_iff, IsDay]
  constructor
  · rintro (⟨hy, hm, hd⟩ | ⟨hmonthEnd, ⟨hy, hm, hd⟩ | ⟨hyearEnd, hy, hm, hd⟩⟩)
    · exact .day hy hm hd
    · exact .month hy hm hd (by omega)
    · have hmonth : d.month = 12 := by omega
      have hdays : daysIn d.year d.month = 31 := by rw [hmonth]; rfl
      exact .year hy hm hd ⟨hmonth, by omega⟩
  · rintro (⟨hy, hm, hd⟩ | ⟨hy, hm, hd, hend⟩ | ⟨hy, hm, hd, hmonth, hend⟩)
    · exact .inl ⟨hy, hm, hd⟩
    · exact .inr ⟨by omega, .inl ⟨hy, hm, hd⟩⟩
    · have hdays : daysIn d.year d.month = 31 := by rw [hmonth]; rfl
      exact .inr ⟨by omega, .inr ⟨by omega, hy, hm, hd⟩⟩

/-- A date follows the day before it. -/
theorem previous?_eq_some_iff : e.previous? = some d ↔ e.Follows d := by
  obtain ⟨hlow, hhigh, -, -⟩ := e.isDay
  obtain ⟨hfirst, hlast, hday, hle⟩ := e.month_day_le
  have hmonths := daysIn_cases e.year (e.month - 1)
  obtain ⟨hfirst', hlast', hday', hle'⟩ := d.month_day_le
  simp only [previous?, Option.orElse_eq_or, Option.or_eq_some_iff, of?_eq_some_iff,
    of?_eq_none_iff, IsDay]
  constructor
  · rintro (⟨hy, hm, hd⟩ | ⟨hmonthStart, ⟨hy, hm, hd⟩ | ⟨hyearStart, hy, hm, hd⟩⟩)
    · exact .day hy.symm hm.symm (by omega)
    · exact .month hy.symm (by omega) (by omega) (by rw [hd, hy, hm])
    · exact .year (by omega) (by omega) (by omega) ⟨hm, hd⟩
  · rintro (⟨hy, hm, hd⟩ | ⟨hy, hm, hd, hend⟩ | ⟨hy, hm, hd, hmonth, hend⟩)
    · exact .inl ⟨hy.symm, hm.symm, by omega⟩
    · have hbefore : d.month = e.month - 1 := by omega
      exact .inr ⟨by omega, .inl ⟨hy.symm, hbefore, by rw [hend, hy, hbefore]⟩⟩
    · exact .inr ⟨by omega, .inr ⟨by omega, by omega, hmonth, hend⟩⟩

/-- There is a day after each date that is not in the last year. -/
theorem exists_next? (h : d.year < lastYear) : ∃ e, d.next? = some e := by
  obtain ⟨hlow, -, -, -⟩ := d.isDay
  have hjanuary : daysIn (d.year + 1) 1 = 31 := rfl
  cases hnext : d.next? with
  | some e => exact ⟨e, rfl⟩
  | none =>
    simp only [next?, Option.orElse_eq_or, Option.or_eq_none_iff, of?_eq_none_iff, IsDay] at hnext
    omega

/-- There is a day before each date that is not in the first year. -/
theorem exists_previous? (h : firstYear < d.year) : ∃ e, d.previous? = some e := by
  obtain ⟨-, hhigh, -, -⟩ := d.isDay
  have hdecember : daysIn (d.year - 1) 12 = 31 := rfl
  cases hprevious : d.previous? with
  | some e => exact ⟨e, rfl⟩
  | none =>
    simp only [previous?, Option.orElse_eq_or, Option.or_eq_none_iff, of?_eq_none_iff, IsDay]
      at hprevious
    omega

/-- A day forth and a day back, in either order, lead to the same date. -/
theorem turned?_neg {days : Int} (h : d.turned? days = some e) : e.turned? (-days) = some d := by
  unfold turned? at h ⊢
  split at h
  · next hnext =>
    rw [if_neg (by omega), if_pos (by omega), previous?_eq_some_iff]
    exact next?_eq_some_iff.mp h
  · split at h
    · next hprevious =>
      rw [if_pos (by omega), next?_eq_some_iff]
      exact previous?_eq_some_iff.mp h
    · rw [if_neg (by omega), if_neg (by omega), Option.some.inj h]

/-- A date that is neither in the first nor in the last year has a day on each side. -/
theorem exists_turned? (hlow : firstYear < d.year) (hhigh : d.year < lastYear) (days : Int) :
    ∃ e, d.turned? days = some e := by
  unfold turned?
  split
  · exact exists_next? hhigh
  · split
    · exact exists_previous? hlow
    · exact ⟨d, rfl⟩

end Date

namespace Moment

variable {m u : Moment} {seconds : Int}

/-- A clock that is ahead shows the seconds of both, less those of a day that is over, and the day
that comes of it. -/
theorem ahead?_eq_some_iff : m.ahead? seconds = some u ↔
    m.date.turned? ((m.second.val + seconds) / 86400) = some u.date ∧
      (u.second.val : Int) = (m.second.val + seconds) % 86400 := by
  simp only [ahead?, Option.map_eq_some_iff]
  constructor
  · rintro ⟨date, hdate, rfl⟩
    exact ⟨hdate, Int.toNat_of_nonneg (by omega)⟩
  · rintro ⟨hdate, hsecond⟩
    have hsame : ((m.second.val + seconds) % 86400).toNat = u.second.val := by omega
    exact ⟨u.date, hdate, by simp only [hsame]⟩

/-- What a clock that is behind shows is what a clock that is ahead by the same time was showing
before. -/
theorem ahead?_of_ahead?_neg (h : m.ahead? (-seconds) = some u) : u.ahead? seconds = some m := by
  obtain ⟨hdate, hsecond⟩ := ahead?_eq_some_iff.mp h
  have hm := m.second.isLt
  -- The seconds that are left on the one clock make up for the day that is gone on it.
  have hdays : (u.second.val + seconds) / 86400 = -((m.second.val + -seconds) / 86400) := by omega
  refine ahead?_eq_some_iff.mpr ⟨?_, by omega⟩
  rw [hdays]
  exact Date.turned?_neg hdate

end Moment

namespace Timestamp

/-- Every clock can show a moment of a year that is neither the first nor the last, and the
timestamp has the day that the clock shows. -/
theorem exists_ofLocal? (shown : Moment) (offset : Int) (hlow : firstYear < shown.date.year)
    (hhigh : shown.date.year < lastYear) :
    ∃ t, ofLocal? shown offset = some t ∧ t.localDate? = some shown.date := by
  obtain ⟨date, hdate⟩ := Date.exists_turned? hlow hhigh ((shown.second.val + -offset) / 86400)
  have hlocal := Moment.ahead?_eq_some_iff
    (u := ⟨date, ⟨((shown.second.val + -offset) % 86400).toNat, by omega⟩⟩).mpr
    ⟨hdate, Int.toNat_of_nonneg (by omega)⟩
  refine ⟨_, by rw [ofLocal?, hlocal]; rfl, ?_⟩
  rw [localDate?, Moment.ahead?_of_ahead?_neg hlocal]
  rfl

end Timestamp

end NewsReader.Calendar
