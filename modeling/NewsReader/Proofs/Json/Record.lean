import NewsReader.Json.Record
import NewsReader.Proofs.Json.Text

/-!
# Objects are read member by member

A member is a key, a colon and a value. `Fields.readMembers` has an equation for each way in which
it goes on, and from these follows what is read of an object that has been written.

* `nextKey_textChars` and `nextKey_close` — what is found where a member or the end of the object
  is written.
* `Reader.run_textChars` — a written string is read as a value.
* `RecordShape.run_of_members` — a record is read from an object whose members fill its slots.
-/

namespace NewsReader.Json

/-- Blanks before a text make no difference. -/
theorem skipSpace_append {blanks : List Char} (h : ∀ c ∈ blanks, isSpace c) (s : List Char) :
    skipSpace (blanks ++ s) = skipSpace s :=
  List.dropWhile_append_of_pos h

/-- A text that does not start with a blank stays as it is. -/
theorem skipSpace_cons {c : Char} (h : isSpace c = false) (s : List Char) :
    skipSpace (c :: s) = c :: s :=
  List.dropWhile_cons_of_neg (by simp [h])

/-- The start of a line is blank. -/
theorem isSpace_of_mem_lineStart {depth : Nat} {c : Char} (h : c ∈ Value.lineStart depth) :
    isSpace c := by
  rcases List.mem_cons.mp h with rfl | h
  · rfl
  · rw [List.eq_of_mem_replicate h]
    rfl

/-- A written string starts with its quote. -/
theorem textChars_append (s : String) (rest : List Char) :
    textChars s ++ rest = '"' :: (s.toList.flatMap escapeChar ++ '"' :: rest) := by
  simp [textChars]

section Member

variable {blanks : List Char} (hblanks : ∀ c ∈ blanks, isSpace c)

include hblanks

/-- Where the first member is written, its key is found. -/
theorem nextKey_textChars (key : String) (rest : List Char) :
    nextKey true (blanks ++ (textChars key ++ rest)) = .ok (some (key.toList, rest)) := by
  have hstart : skipSpace (blanks ++ (textChars key ++ rest)) =
      '"' :: (key.toList.flatMap escapeChar ++ '"' :: rest) := by
    rw [skipSpace_append hblanks, textChars_append, skipSpace_cons rfl]
  simp only [nextKey, hstart, readText_escaped, Char.reduceEq, ↓reduceIte]
  rfl

/-- Where an object ends, no key is found. -/
theorem nextKey_close (first : Bool) (rest : List Char) :
    nextKey first (blanks ++ '\x7d' :: rest) = .ok none := by
  simp only [nextKey, skipSpace_append hblanks, skipSpace_cons (c := '\x7d') rfl, ↓reduceIte]

/-- The end of an object is read. -/
theorem endObject_close (rest : List Char) : endObject (blanks ++ '\x7d' :: rest) = .ok rest := by
  simp only [endObject, skipSpace_append hblanks, skipSpace_cons (c := '\x7d') rfl]

/-- A written string is read as a value. -/
theorem Reader.run_textChars (wanted s : String) (rest : List Char) :
    (Reader.text wanted).run (blanks ++ (textChars s ++ rest)) = .ok (s, rest) := by
  have hstart : skipSpace (blanks ++ (textChars s ++ rest)) =
      '"' :: (s.toList.flatMap escapeChar ++ '"' :: rest) := by
    rw [skipSpace_append hblanks, textChars_append, skipSpace_cons rfl]
  simp only [Reader.text, hstart, readText_escaped, Except.map, String.ofList_toList]

end Member

namespace Fields

variable {ts : List Type} {fields : Fields ts} {first : Bool} {slots slots' : Slots ts}
  {s s' rest key : List Char}

/-- Reading ends where no key is found. -/
theorem readMembers_of_end (hend : nextKey first s = .ok none) :
    fields.readMembers first slots s = .ok (slots, s) := by
  rw [readMembers]
  split <;> simp_all

/-- Reading goes on after a member. -/
theorem readMembers_of_member (hkey : nextKey first s = .ok (some (key, s')))
    (hmember : fields.readMember key slots s' = .ok (slots', rest)) :
    fields.readMembers first slots s = fields.readMembers false slots' rest := by
  rw [readMembers]
  -- As for strings, the equations of the matches are in the way of rewriting.
  split
  · simp_all
  · simp_all
  · next key' s'' hkey' =>
    rw [hkey] at hkey'
    obtain ⟨rfl, rfl⟩ := Prod.mk.inj (Option.some.inj (Except.ok.inj hkey'))
    split
    · simp_all
    · next slots'' rest' hmember' =>
      rw [hmember] at hmember'
      obtain ⟨rfl, rfl⟩ := Prod.mk.inj (Except.ok.inj hmember')
      rfl

end Fields

namespace RecordShape

variable {R : Type}

/-- A record is read from an object whose members fill the slots that it needs. -/
theorem run_of_members {shape : RecordShape R} {slots : Slots shape.types}
    {values : Values shape.types} {s s' rest : List Char}
    (hmembers : shape.fields.readMembers true (Slots.empty shape.types) s = .ok (slots, s'))
    (hvalues : shape.fields.complete slots = .ok values) (hend : endObject s' = .ok rest) :
    shape.reader.run ('\x7b' :: s) = .ok (shape.build values, rest) := by
  have hopen : skipSpace ('\x7b' :: s) = '\x7b' :: s := skipSpace_cons rfl s
  simp only [reader, hopen, readObject, hmembers, hvalues, hend, Except.map]

end RecordShape

end NewsReader.Json
