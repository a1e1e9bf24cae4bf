import NewsReader.Json.Wire

/-!
# The values of a record that has been read

Whatever text a record is read from, each of its values was read by the reader of the field, or is
one of the values that the field has where it is left out. So what holds of these holds of every
record that is read.

* `Fields.filled_of_readMember` — the step: a member fills a slot with a value that its reader
  reads.
* `Fields.filled_of_readMembers` — the run: so all slots are filled.
* `RecordShape.gives_of_decode` — the values of a record.
* `Reader.lt_of_natural` — a whole number that is read fits in 64 bits.
-/

namespace NewsReader.Json

/-! ### Whole numbers -/

/-- What is gathered fits in 64 bits. -/
theorem gather_lt {n : Nat} (h : n < wordLimit) (ds : List Char) : (gather n ds).1 < wordLimit := by
  induction ds generalizing n with
  | nil => exact h
  | cons d ds ih =>
    rw [gather]
    split
    · next hnext => exact ih hnext
    · exact h

/-- A number that fits in 64 bits has few digits. -/
theorem length_toDigits_le {n : Nat} (h : n < wordLimit) : (Nat.toDigits 10 n).length ≤ 20 :=
  (Nat.length_toDigits_le_iff (by decide) (by decide)).mpr (Nat.lt_of_lt_of_le h (by decide))

/-- A number that is read as a whole number from zero on fits in 64 bits. -/
theorem NumberText.lt_of_value {t : NumberText} {n : Nat} (h : t.value = .ok (.natural n)) :
    n < wordLimit := by
  have hreal (minus : Bool) (m : Nat) (shift : Int) :
      realNumber minus m shift ≠ .ok (.natural n) := by
    unfold realNumber
    split <;> simp
  have hgather := gather_lt (by decide : 0 < wordLimit) t.whole
  simp only [value] at h
  split at h
  · simp only [wholeNumber] at h
    split at h
    · split at h
      · cases h
      · exact (hreal _ _ _ h).elim
    · cases h
      exact hgather
  · exact (hreal _ _ _ h).elim

/-- A whole number that is read fits in 64 bits. -/
theorem Reader.lt_of_natural {s rest : List Char} {n : Nat}
    (h : Reader.natural.run s = .ok (n, rest)) : n < wordLimit := by
  -- The reader gives a number only where one without sign, places and exponent was read.
  simp only [natural] at h
  split at h
  · cases h
  · split at h
    · split at h
      · next hnumber =>
        obtain ⟨rfl, rfl⟩ := Prod.mk.inj (Except.ok.inj h)
        simp only [readNumber, bind, Except.bind] at hnumber
        split at hnumber
        · cases hnumber
        · split at hnumber
          · cases hnumber
          · next hvalue =>
            obtain ⟨rfl, -⟩ := Prod.mk.inj (Except.ok.inj hnumber)
            exact NumberText.lt_of_value hvalue
      · cases h
      · cases h
      · cases h
    · cases h

/-! ### Records -/

/-- The field can have the value: its reader reads it, or the field has it where it is left out. -/
def Field.Gives {α : Type} (field : Field α) (a : α) : Prop :=
  field.absent = some a ∨ field.omitted = some a ∨ ∃ s rest, field.value.run s = .ok (a, rest)

/-- A value of a field that may be `null` has been read. -/
theorem Field.run_of_gives_optional {α : Type} {name : String} {item : Reader α} {o : Option α}
    {a : α} (h : (Field.optional name item).Gives o) (ha : a ∈ o) :
    ∃ s rest, item.run s = .ok (a, rest) := by
  obtain rfl : o = some a := ha
  rcases h with habsent | homitted | ⟨s, rest, hrun⟩
  · cases habsent
  · cases homitted
  · simp only [Field.optional, Reader.optional] at hrun
    split at hrun
    · obtain ⟨_, -, hnone⟩ := exists_of_map_eq_ok hrun
      cases hnone
    · obtain ⟨⟨b, rest'⟩, hread, heq⟩ := exists_of_map_eq_ok hrun
      obtain ⟨hb, rfl⟩ := Prod.mk.inj heq
      obtain rfl := Option.some.inj hb
      exact ⟨skipSpace s, rest', hread⟩

namespace Fields

variable {ts : List Type}

/-- The fields can have the values. -/
def Gives : {ts : List Type} → Fields ts → Values ts → Prop
  | _, nil, _ => True
  | _, cons field fields, (a, as) => field.Gives a ∧ fields.Gives as

/-- What the slots are filled with has been read by the readers of the fields. -/
def Filled : {ts : List Type} → Fields ts → Slots ts → Prop
  | _, nil, _ => True
  | _, cons field fields, (slot, slots) =>
    (∀ a ∈ slot, ∃ s rest, field.value.run s = .ok (a, rest)) ∧ fields.Filled slots

/-- At first nothing is filled. -/
theorem filled_empty (fields : Fields ts) : fields.Filled (Slots.empty ts) := by
  induction fields with
  | nil => trivial
  | cons field fields ih =>
    refine ⟨?_, ih⟩
    intro a ha
    cases ha

/-- A member fills a slot with what has been read. -/
theorem filled_of_readMember {fields : Fields ts} {key s rest : List Char} {slots slots' : Slots ts}
    (h : fields.readMember key slots s = .ok (slots', rest)) (hfilled : fields.Filled slots) :
    fields.Filled slots' := by
  induction fields with
  | nil => trivial
  | cons field fields ih =>
    obtain ⟨slot, slots⟩ := slots
    obtain ⟨hslot, hslots⟩ := hfilled
    -- The member goes to the first field or to the later ones.
    simp only [readMember] at h
    split at h
    · split at h
      · cases h
      · cases h
      · next s' _ =>
        obtain ⟨⟨a, rest'⟩, hrun, heq⟩ := exists_of_map_eq_ok h
        obtain ⟨rfl, rfl⟩ := Prod.mk.inj heq
        refine ⟨fun b hb => ?_, hslots⟩
        obtain rfl := Option.mem_some.mp hb
        exact ⟨s', rest', hrun⟩
    · obtain ⟨⟨slots'', rest'⟩, hmember, heq⟩ := exists_of_map_eq_ok h
      obtain ⟨rfl, rfl⟩ := Prod.mk.inj heq
      exact ⟨hslot, ih hmember hslots⟩

/-- Members fill slots with what has been read. -/
theorem filled_of_readMembers {fields : Fields ts} {first : Bool} {s rest : List Char}
    {slots slots' : Slots ts} (h : fields.readMembers first slots s = .ok (slots', rest))
    (hfilled : fields.Filled slots) : fields.Filled slots' := by
  fun_induction readMembers fields first slots s with
  | case1 => cases h
  | case2 => simp_all
  | case3 => cases h
  | case4 first slots s key s' _ slots'' rest' hmember ih =>
    exact ih h (filled_of_readMember hmember hfilled)

/-- The values of filled slots are ones that the fields can have. -/
theorem gives_of_complete {fields : Fields ts} {slots : Slots ts} {as : Values ts}
    (h : fields.complete slots = .ok as) (hfilled : fields.Filled slots) : fields.Gives as := by
  induction fields with
  | nil => trivial
  | cons field fields ih =>
    obtain ⟨slot, slots⟩ := slots
    obtain ⟨hslot, hslots⟩ := hfilled
    simp only [complete] at h
    split at h
    · cases h
    · next a ha =>
      obtain ⟨as', hcomplete, rfl⟩ := exists_of_map_eq_ok h
      refine ⟨?_, ih hcomplete hslots⟩
      -- An empty slot gives the value of a missing field, a filled one what was read.
      cases slot with
      | none => exact .inl ha
      | some b => exact .inr (.inr (hslot a ha))

/-- The elements of a list are values that the fields can have. -/
theorem gives_of_readElements {wanted : String} {fields : Fields ts} {count : Nat}
    {s rest : List Char} {as : Values ts}
    (h : fields.readElements wanted count s = .ok (as, rest)) : fields.Gives as := by
  induction fields generalizing count s rest with
  | nil => trivial
  | cons field fields ih =>
    simp only [readElements] at h
    split at h
    · cases h
    · cases h
    · -- The list is over, and the field may be omitted.
      next a _ homitted =>
      obtain ⟨⟨as', rest'⟩, hread, heq⟩ := exists_of_map_eq_ok h
      obtain ⟨rfl, rfl⟩ := Prod.mk.inj heq
      exact ⟨.inr (.inl homitted), ih hread⟩
    · next s' _ =>
      split at h
      · cases h
      · next a s'' hrun =>
        obtain ⟨⟨as', rest'⟩, hread, heq⟩ := exists_of_map_eq_ok h
        obtain ⟨rfl, rfl⟩ := Prod.mk.inj heq
        exact ⟨.inr (.inr ⟨_, s'', hrun⟩), ih hread⟩

end Fields

namespace RecordShape

variable {R : Type} {shape : RecordShape R}

/-- A record that is read has values that its fields can have. -/
theorem gives_of_run {s rest : List Char} {r : R} (h : shape.reader.run s = .ok (r, rest)) :
    ∃ as, shape.fields.Gives as ∧ r = shape.build as := by
  -- A record is written as a list of its values or as an object.
  simp only [reader] at h
  split at h
  · simp only [readList] at h
    split at h
    · cases h
    · next as s' hread =>
      obtain ⟨_, -, heq⟩ := exists_of_map_eq_ok h
      obtain ⟨rfl, rfl⟩ := Prod.mk.inj heq
      exact ⟨as, Fields.gives_of_readElements hread, rfl⟩
  · simp only [readObject] at h
    split at h
    · cases h
    · next slots s' hread =>
      split at h
      · cases h
      · next as hcomplete =>
        obtain ⟨_, -, heq⟩ := exists_of_map_eq_ok h
        obtain ⟨rfl, rfl⟩ := Prod.mk.inj heq
        have hfilled := Fields.filled_of_readMembers hread (Fields.filled_empty _)
        exact ⟨as, Fields.gives_of_complete hcomplete hfilled, rfl⟩
  · cases h

/-- A record that is read from a whole text has values that its fields can have. -/
theorem gives_of_decode {text : String} {r : R} (h : shape.reader.decode text = .ok r) :
    ∃ as, shape.fields.Gives as ∧ r = shape.build as := by
  simp only [Reader.decode, Reader.decodeChars] at h
  split at h
  · cases h
  · next hrun =>
    split at h
    · obtain rfl := Except.ok.inj h
      exact gives_of_run hrun
    · cases h

end RecordShape

end NewsReader.Json
