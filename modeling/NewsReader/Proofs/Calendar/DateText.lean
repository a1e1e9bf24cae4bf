import NewsReader.Calendar.DateText
import NewsReader.Proofs.Text.Blank
import NewsReader.Proofs.Text.Digits

/-!
# Written dates are read back

The three numbers of a date are runs of digits with hyphens between them, so that each scanner stops
where its number ends. A year has four digits, or a sign before it; month and day have two.

* `year?_yearChars` — a written year is read back, whatever number of digits it has.
* `Date.ofChars?_chars` — a written date is read back.
* `Date.isBlank_of_mem_chars` — there are no blanks in a written date.
-/

namespace NewsReader.Calendar

open Text (isDigit isBlank numberOf isDigit_of_mem_toDigits)

/-! ### Padded numbers -/

namespace Date

variable {width n : Nat} {rest : List Char}

/-- A padded number has digits only. -/
theorem isDigit_of_mem_padded {c : Char} (h : c ∈ padded width n) : isDigit c := by
  rcases List.mem_append.mp h with hzero | hdigit
  · rw [List.eq_of_mem_replicate hzero]
    rfl
  · exact isDigit_of_mem_toDigits hdigit

/-- A padded number has no blanks. -/
theorem isBlank_of_mem_padded {c : Char} (h : c ∈ padded width n) : isBlank c = false :=
  Text.isBlank_of_isDigit (isDigit_of_mem_padded h)

/-- The zeros in front of a number make no difference. -/
theorem numberOf_padded (width n : Nat) : numberOf (padded width n) = n := by
  have hzeros (k : Nat) :
      (List.replicate k '0').foldl (fun n c => n * 10 + Text.digitValue c) 0 = 0 := by
    induction k with
    | zero => rfl
    | succ k ih => exact ih
  rw [padded, numberOf, List.foldl_append, hzeros]
  exact Text.numberOf_toDigits n

/-- A padded number that is not too long has the width. -/
theorem length_padded (h : (Nat.toDigits 10 n).length ≤ width) :
    (padded width n).length = width := by
  rw [padded, List.length_append, List.length_replicate]
  exact Nat.sub_add_cancel h

/-- A padded number starts with a digit. -/
theorem exists_cons_padded (width n : Nat) : ∃ c cs, padded width n = c :: cs ∧ isDigit c := by
  have hne : padded width n ≠ [] := by
    rw [padded]
    exact List.append_ne_nil_of_right_ne_nil _ Nat.toDigits_ne_nil
  obtain ⟨c, cs, hcons⟩ := List.exists_cons_of_ne_nil hne
  exact ⟨c, cs, hcons, isDigit_of_mem_padded (hcons ▸ List.mem_cons_self)⟩

/-- No blank stands before a padded number. -/
theorem dropWhile_isBlank_padded (width n : Nat) (rest : List Char) :
    (padded width n ++ rest).dropWhile isBlank = padded width n ++ rest := by
  obtain ⟨c, cs, hcons, hc⟩ := exists_cons_padded width n
  rw [hcons, List.cons_append]
  exact List.dropWhile_cons_of_neg (by simp [Text.isBlank_of_isDigit hc])

/-- As many digits as there are: a padded number is taken to its end. -/
theorem digits?_padded (hrest : ∀ c ∈ rest.head?, isDigit c = false) :
    digits? (padded width n ++ rest) = some (n, rest) := by
  have hall : ∀ c ∈ padded width n, isDigit c := fun _ => isDigit_of_mem_padded
  have htake := Text.takeWhile_isDigit_append hall hrest
  have hdrop := Text.dropWhile_isDigit_append hall hrest
  obtain ⟨c, cs, hcons, -⟩ := exists_cons_padded width n
  rw [digits?, htake, hdrop]
  simp only [hcons]
  rw [← hcons, numberOf_padded]

/-- At most as many digits as the width: a padded number is taken to its end. -/
theorem fewDigits?_padded (h : (Nat.toDigits 10 n).length ≤ width) (rest : List Char) :
    fewDigits? width (padded width n ++ rest) = some (n, rest) := by
  have hlength := length_padded h
  have htake : (padded width n ++ rest).take width = padded width n := by
    rw [List.take_append_of_le_length (Nat.le_of_eq hlength.symm),
      List.take_of_length_le (Nat.le_of_eq hlength)]
  have hall : ∀ c ∈ padded width n, isDigit c := fun _ => isDigit_of_mem_padded
  have hwhile :=
    Text.takeWhile_isDigit_append hall
      (by simp : ∀ c ∈ ([] : List Char).head?, isDigit c = false)
  rw [List.append_nil] at hwhile
  obtain ⟨c, cs, hcons, -⟩ := exists_cons_padded width n
  rw [fewDigits?, htake, hwhile]
  simp only [hcons]
  rw [← hcons, numberOf_padded, List.drop_left]

end Date

/-! ### Written dates -/

/-- A written year is read back. -/
theorem year?_yearChars (year : Int) (rest : List Char)
    (hrest : ∀ c ∈ rest.head?, isDigit c = false) :
    year? (Date.yearChars year ++ rest) = some (year, rest) := by
  rw [Date.yearChars]
  split
  · next hneg =>
    have hyear : -(year.natAbs : Int) = year := by omega
    rw [List.cons_append, year?, Date.digits?_padded hrest]
    exact congrArg (fun y => some (y, rest)) hyear
  · next hnonneg =>
    have hyear : (year.natAbs : Int) = year := by omega
    split
    · next hle =>
      -- Without a sign there are at most four digits, and the first character is one of them.
      have hdigits : (Nat.toDigits 10 year.natAbs).length ≤ 4 :=
        (Nat.length_toDigits_le_iff (by decide) (by decide)).mpr (by omega)
      have hfew := Date.fewDigits?_padded hdigits rest
      obtain ⟨c, cs, hcons, hc⟩ := Date.exists_cons_padded 4 year.natAbs
      rw [hcons, List.cons_append] at hfew ⊢
      unfold year?
      split
      · next heq => exact absurd hc (by rw [(List.cons.inj heq).1]; decide)
      · next heq => exact absurd hc (by rw [(List.cons.inj heq).1]; decide)
      · rw [hfew]
        exact congrArg (fun y => some (y, rest)) hyear
    · rw [List.cons_append, year?, Date.digits?_padded hrest]
      exact congrArg (fun y => some (y, rest)) hyear

/-- No blank stands before a written year. -/
theorem dropWhile_isBlank_yearChars (year : Int) (rest : List Char) :
    (Date.yearChars year ++ rest).dropWhile isBlank = Date.yearChars year ++ rest := by
  rw [Date.yearChars]
  split
  · rfl
  · split
    · exact Date.dropWhile_isBlank_padded _ _ _
    · rfl

/-- A written year has no blanks. -/
theorem isBlank_of_mem_yearChars {year : Int} {c : Char} (h : c ∈ Date.yearChars year) :
    isBlank c = false := by
  unfold Date.yearChars at h
  split at h
  · rcases List.mem_cons.mp h with rfl | hdigit
    · rfl
    · exact Date.isBlank_of_mem_padded hdigit
  · split at h
    · exact Date.isBlank_of_mem_padded h
    · rcases List.mem_cons.mp h with rfl | hdigit
      · rfl
      · exact Date.isBlank_of_mem_padded hdigit

/-- No month has more than 31 days, and none after the twelfth has any. -/
theorem daysIn_le (year : Int) (month : Nat) :
    daysIn year month ≤ 31 ∧ (0 < daysIn year month → month ≤ 12) := by
  unfold daysIn
  split
  case h_12 => split <;> omega
  all_goals omega

namespace Date

/-- The month and the day of a date have at most two digits. -/
theorem length_month_day_le (d : Date) :
    (Nat.toDigits 10 d.month).length ≤ 2 ∧ (Nat.toDigits 10 d.day).length ≤ 2 := by
  obtain ⟨-, -, hday, hle⟩ := d.isDay
  obtain ⟨hdays, hmonth⟩ := daysIn_le d.year d.month
  refine ⟨?_, ?_⟩
  · exact (Nat.length_toDigits_le_iff (by decide) (by decide)).mpr (by omega)
  · exact (Nat.length_toDigits_le_iff (by decide) (by decide)).mpr (by omega)

/-- A written date is read as its three numbers if nothing stands behind it. -/
theorem calendarDay?_append (d : Date) (rest : List Char) :
    calendarDay? (d.chars ++ rest) = if rest.isEmpty then some d else none := by
  obtain ⟨hmonth, hday⟩ := d.length_month_day_le
  have hyphen (cs : List Char) : ∀ c ∈ ('-' :: cs).head?, isDigit c = false := by
    rintro c ⟨⟩
    rfl
  have hchar (cs : List Char) : char? '-' ('-' :: cs) = some cs := rfl
  have hof : of? d.year d.month d.day = some d := dif_pos d.isDay
  simp only [calendarDay?, chars, List.append_assoc, List.cons_append, dropWhile_isBlank_yearChars,
    year?_yearChars d.year _ (hyphen _), hchar, dropWhile_isBlank_padded,
    fewDigits?_padded hmonth, fewDigits?_padded hday, Option.bind_eq_bind, Option.bind_some, hof]

/-- A written date is read as its three numbers. -/
theorem calendarDay?_chars (d : Date) : calendarDay? d.chars = some d := by
  have hread := d.calendarDay?_append []
  rwa [List.append_nil] at hread

/-- A written date is read back. -/
theorem ofChars?_chars (d : Date) : ofChars? d.chars = some d := by
  rw [ofChars?, calendarDay?_chars]
  rfl

/-- There are no blanks in a written date. -/
theorem isBlank_of_mem_chars {d : Date} {c : Char} (h : c ∈ d.chars) : isBlank c = false := by
  simp only [chars, List.mem_append, List.mem_cons] at h
  rcases h with (hyear | rfl | hmonth) | rfl | hday
  · exact isBlank_of_mem_yearChars hyear
  · rfl
  · exact isBlank_of_mem_padded hmonth
  · rfl
  · exact isBlank_of_mem_padded hday

/-- There are no blanks around a written date. -/
theorem trimChars_chars (d : Date) : Text.trimChars d.chars = d.chars := by
  have hnone {c : Char} (hc : c ∈ d.chars) : ¬isBlank c := by
    rw [isBlank_of_mem_chars hc]
    exact Bool.false_ne_true
  exact Text.trimChars_of_ends (fun _ hc => hnone (List.mem_of_mem_head? hc)) fun _ hc =>
    hnone (List.mem_of_mem_getLast? hc)

end Date

end NewsReader.Calendar
