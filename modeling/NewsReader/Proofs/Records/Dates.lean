import NewsReader.Proofs.Calendar.Timestamp
import NewsReader.Proofs.Records.RoundTrip

/-!
# Dates on the wire

A date is written as its three numbers and read back, and it is the date of each timestamp that was
written on it, by whatever clock. Where a date may be missing, blanks around the text make no
difference, neither to the date nor to the fault of a text that gives none.

* `PublishDate.decode_text` — a string gives the date that its text gives.
* `PublishDate.ofText_blanks` — blanks around the text make no difference.
* `PublishDate.date_is_the_written_one` — dates and timestamps of every day and every offset.
-/

namespace NewsReader

open Calendar (Date StampText OffsetText)
open Json (Layout Reader Value)
open Text (isBlank trimChars)

namespace Calendar

/-- A written offset has no blanks. -/
theorem OffsetText.isBlank_of_mem_chars {o : OffsetText} {c : Char} (h : c ∈ o.chars) :
    isBlank c = false := by
  cases o with
  | universal letter hletter =>
    obtain rfl := List.mem_singleton.mp h
    rcases hletter with rfl | rfl <;> decide
  | signed sign hsign hours minutes =>
    simp only [OffsetText.chars, List.mem_cons, List.mem_append] at h
    rcases h with rfl | hdigit | rfl | hdigit
    · rcases hsign with rfl | rfl | rfl <;> decide
    · exact Date.isBlank_of_mem_padded hdigit
    · decide
    · exact Date.isBlank_of_mem_padded hdigit

/-- There are no blanks around a written timestamp. -/
theorem Date.trimChars_append_stamp (d : Date) (s : StampText) :
    trimChars (d.chars ++ s.chars) = d.chars ++ s.chars := by
  refine Text.trimChars_of_ends (fun c hc => ?_) fun c hc => ?_
  · -- The first character is that of the date.
    have hdate : d.chars.head?.isSome := by
      rw [List.isSome_head?]
      simp [Date.chars]
    rw [List.head?_append, Option.or_of_isSome hdate] at hc
    rw [Date.isBlank_of_mem_chars (List.mem_of_mem_head? hc)]
    exact Bool.false_ne_true
  · -- The last character is that of the offset.
    have hoffset : s.offset.chars.getLast?.isSome := by
      rw [List.getLast?_isSome]
      cases s.offset <;> simp [OffsetText.chars]
    rw [StampText.chars, ← List.cons_append, ← List.append_assoc, List.getLast?_append,
      Option.or_of_isSome hoffset] at hc
    rw [OffsetText.isBlank_of_mem_chars (List.mem_of_mem_getLast? hc)]
    exact Bool.false_ne_true

end Calendar

namespace PublishDate

variable {lead trail : List Char} {s : String} {d : Date}

/-- A written string gives the date that its text gives, or the fault of the text. -/
theorem decode_text (s : String) : reader.decode (Value.text s).compact = ofText s := by
  have htext : (Reader.text "a string").optional.run (Value.text s).compactChars =
      .ok (some s, []) := by
    have hreads :=
      Layout.reads_text? (l := Layout.compact) "a string" (some s) [] [] (by simp) trivial
    rwa [List.nil_append, List.append_nil] at hreads
  simp only [Value.compact, Reader.decode, Reader.decodeChars, String.toList_ofList, reader,
    Reader.filterMap, htext, ofText?]
  cases ofText s <;> rfl

/-- Blanks around a text make no difference. -/
theorem ofText_blanks (hblank : ∀ c ∈ lead ++ trail, isBlank c) (s : String) :
    ofText (String.ofList (lead ++ s.toList ++ trail)) = ofText s := by
  simp only [ofText, String.toList_ofList, Text.trimChars_blanks hblank]

/-- A text that has no blanks around it and is read as a date gives the date. -/
theorem ofText_eq_ok (htrim : trimChars s.toList = s.toList) (h : Date.ofText? s = some d) :
    ofText s = .ok (some d) := by
  have hne : s.toList.isEmpty = false := by
    cases hs : s.toList with
    | nil =>
      rw [Date.ofText?, hs] at h
      cases h
    | cons c cs => rfl
  rw [Date.ofText?] at h
  simp only [ofText, htrim, hne, h, Bool.false_eq_true, ↓reduceIte]

/-- A text is read as a date, also where the date may be missing and with blanks around it. -/
structure IsReadAs (s : String) (d : Date) : Prop where
  /-- The text is read as the date. -/
  parsed : Date.ofText? s = some d
  /-- With any blanks around it, it is decoded as the date. -/
  decoded : ∀ lead trail, (∀ c ∈ lead ++ trail, isBlank c) →
    reader.decode (Value.text (String.ofList (lead ++ s.toList ++ trail))).compact = .ok (some d)

/-- A text without blanks around it that is read as a date is decoded as it too. -/
theorem isReadAs (htrim : trimChars s.toList = s.toList) (h : Date.ofText? s = some d) :
    IsReadAs s d where
  parsed := h
  decoded lead trail hblank := by rw [decode_text, ofText_blanks hblank, ofText_eq_ok htrim h]

/-- What is read is the date that is written. A date of the calendar is written so that it is read
back. For each day of the years 0 to 9999, each time of day up to a leap second, with a fraction or
without, each separator and each offset, the timestamp is read as the day itself. Where the date may
be missing, blanks around the text make no difference at all. -/
theorem date_is_the_written_one :
    (∀ d : Date, IsReadAs (Date.shown (some d)) d) ∧
    (∀ (d : Date) (s : StampText),
      0 ≤ d.year → d.year ≤ 9999 → IsReadAs (String.ofList (d.chars ++ s.chars)) d) ∧
    ∀ (text : String) (lead trail : List Char), (∀ c ∈ lead ++ trail, isBlank c) →
      reader.decode (Value.text (String.ofList (lead ++ text.toList ++ trail))).compact =
        reader.decode (Value.text text).compact := by
  refine ⟨fun d => isReadAs ?_ ?_, fun d s hlow hhigh => isReadAs ?_ ?_,
    fun text lead trail hblank => ?_⟩
  · rw [Date.shown, Date.text, String.toList_ofList, d.trimChars_chars]
  · rw [Date.shown, Date.text, Date.ofText?, String.toList_ofList, d.ofChars?_chars]
  · rw [String.toList_ofList, d.trimChars_append_stamp]
  · rw [Date.ofText?, String.toList_ofList, d.ofChars?_append_stamp s hlow hhigh]
  · rw [decode_text, decode_text, ofText_blanks hblank]

/-- The last day of the year 9999, at a leap second, on a clock so far behind that it is 10000 in
universal time. -/
theorem date_is_the_written_one_at_year_end :
    let d : Date := ⟨9999, 12, 31, by decide⟩
    (0 ≤ d.year ∧ d.year ≤ 9999) ∧ [' ', '\u00A0'].all isBlank ∧
      Date.ofText? "9999-12-31T23:59:60.5-23:59" = some d ∧
      reader.decode (Value.text " 9999-12-31T23:59:60.5-23:59\u00A0").compact = .ok (some d) := by
  intro d
  let s : StampText :=
    ⟨'T', by decide, ⟨23, 59, 60, ['5'], by simp; decide⟩, .signed '-' (by decide) 23 59⟩
  have hyears : 0 ≤ d.year ∧ d.year ≤ 9999 := by decide
  have hblank : [' ', '\u00A0'].all isBlank := by decide
  obtain ⟨hparsed, hdecoded⟩ := date_is_the_written_one.2.1 d s hyears.1 hyears.2
  have htext : String.ofList (d.chars ++ s.chars) = "9999-12-31T23:59:60.5-23:59" := by
    decide +kernel
  rw [htext] at hparsed hdecoded
  exact ⟨hyears, hblank, hparsed, hdecoded [' '] ['\u00A0'] (List.all_eq_true.mp hblank)⟩

end PublishDate

end NewsReader
