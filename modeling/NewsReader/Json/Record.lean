import NewsReader.Json.Reader

/-!
# Records

A record has named fields of different types. It is read from an object, whose members stand in any
order and may have others among them, or from a list that has the fields in their order.

While an object is read, each field has a slot for its value. A member with the name of a field
fills its slot, and no slot is filled twice. At the end an empty slot takes the value that the field
has when it is absent; the first field without such a value is the fault.
-/

namespace NewsReader.Json

/-- A field of a record. -/
structure Field (α : Type) where
  /-- The name of the field. -/
  name : String
  /-- The reader of its values. -/
  value : Reader α
  /-- The value of the field in an object without it, unless it is needed there. -/
  absent : Option α
  /-- The value of the field in a list that ends before it, unless it is needed there. -/
  omitted : Option α

/-- A field that every record has. -/
def Field.required {α : Type} (name : String) (value : Reader α) : Field α :=
  ⟨name, value, none, none⟩

/-- A field that an object may leave out or give as `null`. A list has to give it. -/
def Field.optional {α : Type} (name : String) (value : Reader α) : Field (Option α) :=
  ⟨name, value.optional, some none, none⟩

/-- A field that an object may leave out, and a list too if no needed field follows. -/
def Field.defaulted {α : Type} (name : String) (value : Reader α) (default : α) : Field α :=
  ⟨name, value, some default, some default⟩

/-- The fields of a record, in their order. -/
inductive Fields : List Type → Type 1 where
  | nil : Fields []
  | cons {α : Type} {ts : List Type} (field : Field α) (fields : Fields ts) : Fields (α :: ts)

/-- One value for each type. -/
def Values : List Type → Type
  | [] => Unit
  | α :: ts => α × Values ts

/-- One slot for each type. -/
def Slots : List Type → Type
  | [] => Unit
  | α :: ts => Option α × Slots ts

/-- Slots without values. -/
def Slots.empty : (ts : List Type) → Slots ts
  | [] => ()
  | _ :: ts => (none, Slots.empty ts)

/-- Go to the next member of an object and read its key, if there is one. `first` says that none has
been read. The answer is the key with what follows it, or nothing if the object ends here. -/
def nextKey (first : Bool) (s : List Char) : Except Fault (Option (List Char × List Char)) :=
  let key : List Char → Except Fault (Option (List Char × List Char))
    | [] => .error (.ended .value)
    | '"' :: s => (readText s).map some
    | '\x7d' :: _ => .error .trailingComma
    | _ => .error .keyNotText
  match skipSpace s with
  | [] => .error (.ended .object)
  | c :: rest =>
    if c = '\x7d' then .ok none
    else if first then key (c :: rest)
    else if c = ',' then key (skipSpace rest)
    else .error .noCommaInObject

/-- Read the end of an object. -/
def endObject (s : List Char) : Except Fault (List Char) :=
  match skipSpace s with
  | [] => .error (.ended .object)
  | '\x7d' :: s => .ok s
  | ',' :: _ => .error .trailingComma
  | _ => .error .trailingText

namespace Fields

variable {ts : List Type}

/-- The number of fields. -/
def count : {ts : List Type} → Fields ts → Nat
  | _, nil => 0
  | _, cons _ fields => fields.count + 1

/-- Read the value of a member whose key has been read. A member without a field is passed over. -/
def readMember : {ts : List Type} → Fields ts → List Char → Slots ts → List Char →
    Except Fault (Slots ts × List Char)
  | _, nil, _, slots, s =>
    match readColon s with
    | .error fault => .error fault
    | .ok s => (skipFrom [] s).map (slots, ·)
  | _, cons field fields, key, (slot, slots), s =>
    if key = field.name.toList then
      match slot, readColon s with
      | some _, _ => .error (.repeated field.name)
      | none, .error fault => .error fault
      | none, .ok s => (field.value.run s).map fun (a, rest) => ((some a, slots), rest)
    else (fields.readMember key slots s).map fun (slots, rest) => ((slot, slots), rest)

/-- A character is taken. -/
theorem length_of_readMember {ts : List Type} {fields : Fields ts} {key s rest : List Char}
    {slots slots' : Slots ts} (h : fields.readMember key slots s = .ok (slots', rest)) :
    rest.length < s.length := by
  -- A key is compared with the names one after the other, so the induction is on the fields.
  induction fields with
  | nil =>
    simp only [readMember] at h
    split at h
    · contradiction
    · next s' hs =>
      obtain ⟨r, hr, heq⟩ := exists_of_map_eq_ok h
      obtain ⟨-, rfl⟩ := Prod.mk.inj heq
      have := length_of_readColon hs
      have := length_of_skipFrom hr
      omega
  | cons field fields ih =>
    obtain ⟨slot, slots⟩ := slots
    simp only [readMember] at h
    split at h
    · split at h
      · contradiction
      · contradiction
      · next s' hs =>
        obtain ⟨r, hr, heq⟩ := exists_of_map_eq_ok h
        obtain ⟨-, rfl⟩ := Prod.mk.inj heq
        have := length_of_readColon hs
        have := field.value.length_lt hr
        omega
    · obtain ⟨r, hr, heq⟩ := exists_of_map_eq_ok h
      obtain ⟨-, rfl⟩ := Prod.mk.inj heq
      exact ih hr

end Fields

/-- No character is gained. -/
theorem length_of_nextKey {first : Bool} {s key rest : List Char}
    (h : nextKey first s = .ok (some (key, rest))) : rest.length ≤ s.length := by
  have hle := length_skipSpace_le s
  -- Wherever the quote stands, reading the key takes at least the quote behind it.
  have read {t : List Char} (h : (readText t).map some = .ok (some (key, rest))) :
      rest.length < t.length := by
    obtain ⟨r, hr, heq⟩ := exists_of_map_eq_ok h
    obtain rfl := Option.some.inj heq
    exact length_of_readText hr
  unfold nextKey at h
  simp only at h
  split at h
  · contradiction
  · next c r hs =>
    rw [hs, List.length_cons] at hle
    split at h
    · simp at h
    · split at h
      · split at h
        · contradiction
        · next heq =>
          have := read h
          simp only [List.cons.injEq] at heq
          rw [heq.2] at hle
          omega
        · contradiction
        · contradiction
      · split at h
        · have hle' := length_skipSpace_le r
          split at h
          · contradiction
          · next heq =>
            have := read h
            rw [heq, List.length_cons] at hle'
            omega
          · contradiction
          · contradiction
        · contradiction

/-- A character is taken. -/
theorem length_of_endObject {s rest : List Char} (h : endObject s = .ok rest) :
    rest.length < s.length := by
  have hle := length_skipSpace_le s
  unfold endObject at h
  split at h
  · contradiction
  · next hs =>
    obtain rfl := Except.ok.inj h
    rw [hs, List.length_cons] at hle
    omega
  · contradiction
  · contradiction

namespace Fields

variable {ts : List Type}

/-- Read members up to the end of the object, and not the end itself. -/
def readMembers (fields : Fields ts) (first : Bool) (slots : Slots ts) (s : List Char) :
    Except Fault (Slots ts × List Char) :=
  match _h : nextKey first s with
  | .error fault => .error fault
  | .ok none => .ok (slots, s)
  | .ok (some (key, s')) =>
    match _h' : fields.readMember key slots s' with
    | .error fault => .error fault
    | .ok (slots, rest) => fields.readMembers false slots rest
termination_by s.length
decreasing_by
  have := length_of_nextKey _h
  have := length_of_readMember _h'
  omega

/-- The values of the slots, or the first field that is needed and has none. -/
def complete : {ts : List Type} → Fields ts → Slots ts → Except Fault (Values ts)
  | _, nil, _ => .ok ()
  | _, cons field fields, (slot, slots) =>
    match slot.or field.absent with
    | none => .error (.missing field.name)
    | some a => (fields.complete slots).map (a, ·)

/-- Read the elements of a list as the fields in their order, after `count` fields before them. -/
def readElements (wanted : String) : {ts : List Type} → Fields ts → Nat → List Char →
    Except Fault (Values ts × List Char)
  | _, nil, _, s => .ok ((), s)
  | _, cons field fields, count, s =>
    match nextElement (count == 0) s, field.omitted with
    | .error fault, _ => .error fault
    | .ok none, none => .error (.tooFew count wanted)
    | .ok none, some a => (fields.readElements wanted (count + 1) s).map fun (as, s) => ((a, as), s)
    | .ok (some s), _ =>
      match field.value.run s with
      | .error fault => .error fault
      | .ok (a, s) => (fields.readElements wanted (count + 1) s).map fun (as, s) => ((a, as), s)

/-- No character is gained. -/
theorem length_of_readMembers {fields : Fields ts} {first : Bool} {slots slots' : Slots ts}
    {s rest : List Char} (h : fields.readMembers first slots s = .ok (slots', rest)) :
    rest.length ≤ s.length := by
  fun_induction readMembers fields first slots s with
  | case1 => contradiction
  | case2 => simp_all
  | case3 => contradiction
  | case4 first slots s key s' hs slots r hr ih =>
    have := length_of_nextKey hs
    have := length_of_readMember hr
    have := ih h
    omega

/-- No character is gained. -/
theorem length_of_readElements {wanted : String} {ts : List Type} {fields : Fields ts} {count : Nat}
    {s rest : List Char} {as : Values ts}
    (h : fields.readElements wanted count s = .ok (as, rest)) : rest.length ≤ s.length := by
  induction fields generalizing count s rest with
  | nil =>
    have : s = rest := congrArg Prod.snd (Except.ok.inj h)
    simp [this]
  | cons field fields ih =>
    simp only [readElements] at h
    split at h
    · contradiction
    · contradiction
    · -- The list is over, and a field that may be left out takes no element of it.
      obtain ⟨r, hr, heq⟩ := exists_of_map_eq_ok h
      obtain ⟨-, rfl⟩ := Prod.mk.inj heq
      exact ih hr
    · next hn =>
      have := length_of_nextElement hn
      split at h
      · contradiction
      · next a s' hv =>
        obtain ⟨r, hr, heq⟩ := exists_of_map_eq_ok h
        obtain ⟨-, rfl⟩ := Prod.mk.inj heq
        have := field.value.length_lt hv
        have := ih hr
        omega

end Fields

/-- How a record is read. -/
structure RecordShape (R : Type) where
  /-- The name that faults have for the record. -/
  name : String
  /-- The types of the fields. -/
  types : List Type
  /-- The fields. -/
  fields : Fields types
  /-- The record that has these values. -/
  build : Values types → R

namespace RecordShape

variable {R : Type}

/-- What faults say is wanted where there is no record at all. -/
def wanted (shape : RecordShape R) : String :=
  "struct " ++ shape.name

/-- What faults say is wanted where a list is too short. -/
def wantedLength (shape : RecordShape R) : String :=
  shape.wanted ++ " with " ++ String.ofList (Nat.toDigits 10 shape.fields.count) ++
    if shape.fields.count = 1 then " element" else " elements"

/-- Read a record from a list, whose bracket has been taken. -/
def readList (shape : RecordShape R) (s : List Char) : Except Fault (R × List Char) :=
  match shape.fields.readElements shape.wantedLength 0 s with
  | .error fault => .error fault
  | .ok (values, s) => (endList s).map (shape.build values, ·)

/-- Read a record from an object, whose bracket has been taken. -/
def readObject (shape : RecordShape R) (s : List Char) : Except Fault (R × List Char) :=
  match shape.fields.readMembers true (Slots.empty shape.types) s with
  | .error fault => .error fault
  | .ok (slots, s) =>
    match shape.fields.complete slots with
    | .error fault => .error fault
    | .ok values => (endObject s).map (shape.build values, ·)

/-- Read a record. -/
def reader (shape : RecordShape R) : Reader R where
  run s :=
    match skipSpace s with
    | '[' :: s => shape.readList s
    | '\x7b' :: s => shape.readObject s
    | s => .error (otherKind shape.wanted s)
  length_lt {s rest r} h := by
    have hle := length_skipSpace_le s
    split at h
    · next hs =>
      rw [hs, List.length_cons] at hle
      simp only [readList] at h
      split at h
      · contradiction
      · next s'' he =>
        have := Fields.length_of_readElements he
        obtain ⟨r, hr, heq⟩ := exists_of_map_eq_ok h
        obtain ⟨-, rfl⟩ := Prod.mk.inj heq
        have := length_of_endList hr
        omega
    · next hs =>
      rw [hs, List.length_cons] at hle
      simp only [readObject] at h
      split at h
      · contradiction
      · next s'' he =>
        have := Fields.length_of_readMembers he
        split at h
        · contradiction
        · obtain ⟨r, hr, heq⟩ := exists_of_map_eq_ok h
          obtain ⟨-, rfl⟩ := Prod.mk.inj heq
          have := length_of_endObject hr
          omega
    · contradiction

end RecordShape

end NewsReader.Json
