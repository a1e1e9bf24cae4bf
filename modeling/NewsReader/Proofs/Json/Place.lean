import NewsReader.Json.Place
import NewsReader.Proofs.Json.Values
import NewsReader.Proofs.Text.Digits
import NewsReader.Proofs.Text.Entities

/-!
# What the place adds to a message

A message is shown with a place behind it, its own one or the one at which the fault is met, and
either is written in a few characters.

* `length_shown_le`: how much longer a shown message can be.
* `shown_of_closes`: a message that does not end in a number behind a blank is shown with the whole
  place behind it.
* `split?_append`: whether a message ends in a place is up to what stands after its last words
  without a blank in front.
-/

namespace NewsReader.Json.Place

open Text (dropFront?_eq_some_iff dropFront?_of_ne isDigit)

variable {c : Char} {cs front : List Char} {own : Place}

/-- A place is written in a few characters. -/
theorem length_text_le (place : Place) : place.text.length ≤ 57 := by
  have hmarks : lineMark.length = 9 ∧ columnMark.length = 8 := by decide
  have hline := length_toDigits_le place.line_lt
  have hcolumn := length_toDigits_le place.column_lt
  rw [text, String.length_ofList, chars]
  split
  · exact Nat.zero_le 57
  · simp only [List.length_append]
    omega

/-! ### Where a text is split -/

/-- Only a blank starts a place. -/
theorem read?_of_ne_blank (hc : c ≠ ' ') (cs : List Char) : read? (c :: cs) = none := by
  have hmark : lineMark = ' ' :: "at line ".toList := rfl
  rw [read?, hmark, dropFront?_of_ne hc]
  rfl

/-- A character that does not start a place stands before the place that the text ends in. -/
theorem split?_cons (h : read? (c :: cs) = none) :
    split? (c :: cs) = (split? cs).map fun found => (c :: found.1, found.2) := by
  rw [split?, h]

/-- So do characters that are not blank. -/
theorem split?_append (h : ' ' ∉ front) (cs : List Char) :
    split? (front ++ cs) = (split? cs).map fun found => (front ++ found.1, found.2) := by
  induction front with
  | nil => exact Option.map_id'.symm
  | cons c front ih =>
    obtain ⟨hc, hfront⟩ := List.ne_and_not_mem_of_not_mem_cons h
    rw [List.cons_append, split?_cons (read?_of_ne_blank hc.symm _), ih hfront, Option.map_map]
    rfl

/-- A text is split into what stands before the place and what the place is read from. -/
theorem exists_append_of_split? (h : split? cs = some (front, own)) :
    ∃ tail, cs = front ++ tail ∧ read? tail = some own := by
  induction cs generalizing front with
  | nil => cases h
  | cons c cs ih =>
    rw [split?] at h
    split at h
    · next place hread =>
      obtain ⟨rfl, rfl⟩ := Prod.mk.inj (Option.some.inj h)
      exact ⟨_, rfl, hread⟩
    · obtain ⟨found, hfound, heq⟩ := Option.map_eq_some_iff.mp h
      obtain ⟨rfl, rfl⟩ := Prod.mk.inj heq
      obtain ⟨tail, hcs, hread⟩ := ih hfound
      exact ⟨tail, by rw [hcs, List.cons_append], hread⟩

/-- A place ends in the digits of its column, with a blank before them. -/
theorem exists_column_of_read? (h : read? cs = some own) :
    ∃ front column, cs = front ++ ' ' :: column ∧ ∀ c ∈ column, isDigit c := by
  rw [read?] at h
  obtain ⟨rest, hline, h⟩ := Option.bind_eq_some_iff.mp h
  obtain ⟨column, hcolumn, h⟩ := Option.bind_eq_some_iff.mp h
  have hdigits : column.all isDigit := by
    split at h
    · assumption
    · cases h
  have hrest := rest.takeWhile_append_dropWhile (p := isDigit)
  rw [dropFront?_eq_some_iff.mp hcolumn] at hrest
  generalize rest.takeWhile isDigit = line at hrest
  have hmark : columnMark = " column".toList ++ [' '] := rfl
  refine ⟨lineMark ++ line ++ " column".toList, column, ?_, List.all_eq_true.mp hdigits⟩
  rw [dropFront?_eq_some_iff.mp hline, ← hrest, hmark]
  simp only [List.append_assoc, List.singleton_append]

/-! ### How long a shown message is -/

/-- A shown message is longer by a place at most. -/
theorem length_shown_le (met : Place) (message : String) :
    (met.shown message).length ≤ message.length + 57 := by
  rw [shown]
  split
  · have hmet := met.length_text_le
    rw [String.length_append]
    omega
  · next front own hsplit =>
    obtain ⟨tail, hmessage, -⟩ := exists_append_of_split? hsplit
    have hplace := (own.or met).length_text_le
    have hlength : message.length = front.length + tail.length := by
      rw [← String.length_toList, hmessage, List.length_append]
    rw [String.length_append, String.length_ofList]
    omega

/-- The text has something before the digits at its end, if there are any, and that is not a
blank. -/
def closes (text : String) : Bool :=
  (text.toList.reverse.dropWhile isDigit).head?.any (· ≠ ' ')

/-- What it takes to close. -/
theorem closes_iff {text : String} :
    closes text ↔ ∃ c cs, text.toList.reverse.dropWhile isDigit = c :: cs ∧ c ≠ ' ' := by
  rw [closes]
  cases text.toList.reverse.dropWhile isDigit <;> simp

/-- What ends with a text that closes does so as well. -/
theorem closes_append {text : String} (h : closes text) (front : String) :
    closes (front ++ text) := by
  obtain ⟨c, cs, hcs, hblank⟩ := closes_iff.mp h
  refine closes_iff.mpr ⟨c, cs ++ front.toList.reverse, ?_, hblank⟩
  rw [String.toList_append, List.reverse_append, List.dropWhile_append, hcs]
  rfl

/-- A text that closes ends in no place. -/
theorem split?_of_closes {text : String} (h : closes text) : split? text.toList = none := by
  obtain ⟨c, cs, hcs, hblank⟩ := closes_iff.mp h
  rw [Option.eq_none_iff_forall_ne_some]
  rintro ⟨front, own⟩ hsplit
  obtain ⟨tail, htext, hread⟩ := exists_append_of_split? hsplit
  obtain ⟨line, column, rfl, hcolumn⟩ := exists_column_of_read? hread
  -- The last character that is not a digit would be both the one of the text and a blank.
  have hreverse :
      text.toList.reverse = column.reverse ++ ' ' :: (line.reverse ++ front.reverse) := by
    simpa using congrArg List.reverse htext
  have hdigits : ∀ c ∈ column.reverse, isDigit c := by simpa using hcolumn
  rw [hreverse, Text.dropWhile_isDigit_append hdigits (by simp [isDigit])] at hcs
  exact hblank (List.cons.inj hcs).1.symm

/-- A text that closes is shown with the whole place behind it. -/
theorem shown_of_closes {text : String} (h : closes text) (met : Place) :
    met.shown text = text ++ met.text := by
  rw [shown, split?_of_closes h]

end NewsReader.Json.Place
