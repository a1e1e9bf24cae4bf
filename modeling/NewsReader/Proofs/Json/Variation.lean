import NewsReader.Proofs.Json.Compound

/-!
# Members that make no difference

An object is taken as the record that its members make up. Each member fills a slot of its own, so
their order makes no difference. A member whose key names no field does nothing. A member that gives
its field the value which the field has when it is absent does as much as no member.

* `RecordShape.holds_perm` — the order of the members.
* `RecordShape.holds_cons_of_not_mem` — members with other names.
* `RecordShape.holds_cons_of_spares` — members that could as well be absent.
-/

namespace NewsReader.Json

variable {s rest : List Char}

namespace Fields

variable {ts : List Type} {fields : Fields ts} {key key' : List Char} {t t' : Tree}
  {slots slots' slots'' : Slots ts}

/-! ### Order -/

/-- What two members do they do in either order. -/
theorem Sets.swap (h : fields.Sets key t slots slots') (h' : fields.Sets key' t' slots' slots'') :
    ∃ mid, fields.Sets key' t' slots mid ∧ fields.Sets key t mid slots'' := by
  induction fields with
  | nil => exact ⟨slots, trivial, trivial⟩
  | cons field fields ih =>
    obtain ⟨slot, slots⟩ := slots
    obtain ⟨slot', slots'⟩ := slots'
    obtain ⟨slot'', slots''⟩ := slots''
    by_cases hkey : key = field.name.toList
    · obtain ⟨rfl, rfl, hvalue⟩ := (sets_cons_pos hkey).mp h
      by_cases hkey' : key' = field.name.toList
      · -- The slot that the first member has filled would have to be empty for the second one.
        obtain ⟨rfl, -, -⟩ := (sets_cons_pos hkey').mp h'
        obtain ⟨a, ha, -⟩ := hvalue
        cases ha
      · obtain ⟨rfl, hsets'⟩ := (sets_cons_neg hkey').mp h'
        exact ⟨(none, slots''), (sets_cons_neg hkey').mpr ⟨rfl, hsets'⟩,
          (sets_cons_pos hkey).mpr ⟨rfl, rfl, hvalue⟩⟩
    · obtain ⟨rfl, hsets⟩ := (sets_cons_neg hkey).mp h
      by_cases hkey' : key' = field.name.toList
      · obtain ⟨rfl, rfl, hvalue⟩ := (sets_cons_pos hkey').mp h'
        exact ⟨(slot'', slots), (sets_cons_pos hkey').mpr ⟨rfl, rfl, hvalue⟩,
          (sets_cons_neg hkey).mpr ⟨rfl, hsets⟩⟩
      · obtain ⟨rfl, hsets'⟩ := (sets_cons_neg hkey').mp h'
        obtain ⟨mid, hmid', hmid⟩ := ih hsets hsets'
        exact ⟨(slot'', mid), (sets_cons_neg hkey').mpr ⟨rfl, hmid'⟩,
          (sets_cons_neg hkey).mpr ⟨rfl, hmid⟩⟩

/-- What members do they do in any order. -/
theorem Fills.perm {ms ms' : List (List Char × Tree)} (h : ms.Perm ms')
    (hfills : fields.Fills slots ms slots') : fields.Fills slots ms' slots' := by
  -- Neighbours are all that has to change places, since the order is a chain of such swaps.
  induction h generalizing slots with
  | nil => exact hfills
  | cons m _ ih =>
    obtain _ | ⟨hraw, hsets, hfills⟩ := hfills
    exact .cons hraw hsets (ih hfills)
  | swap m m' ms =>
    obtain _ | ⟨hraw, hsets, hfills⟩ := hfills
    obtain _ | ⟨hraw', hsets', hfills⟩ := hfills
    obtain ⟨mid, hmid', hmid⟩ := hsets.swap hsets'
    exact .cons hraw' hmid' (.cons hraw hmid hfills)
  | trans _ _ ih ih' => exact ih' (ih hfills)

/-- What the last member does it does to the slots that the others leave. -/
theorem fills_concat {ms : List (List Char × Tree)} {raw : List Char} :
    fields.Fills slots (ms ++ [(raw, t)]) slots'' ↔
      ∃ slots' key, fields.Fills slots ms slots' ∧ WritesText raw key ∧
        fields.Sets key t slots' slots'' := by
  induction ms generalizing slots with
  | nil =>
    constructor
    · rintro (_ | ⟨hraw, hsets, _ | _⟩)
      exact ⟨slots, _, .nil, hraw, hsets⟩
    · rintro ⟨_, key, _ | _, hraw, hsets⟩
      exact .cons hraw hsets .nil
  | cons m ms ih =>
    constructor
    · rintro (_ | ⟨hraw, hsets, hfills⟩)
      obtain ⟨slots', key, hfills, hlast⟩ := ih.mp hfills
      exact ⟨slots', key, .cons hraw hsets hfills, hlast⟩
    · rintro ⟨slots', key, _ | ⟨hraw, hsets, hfills⟩, hlast⟩
      exact .cons hraw hsets (ih.mpr ⟨slots', key, hfills, hlast⟩)

/-! ### Other names -/

/-- A member whose key names no field does nothing. -/
theorem sets_iff_of_not_mem (h : String.ofList key ∉ fields.names) :
    fields.Sets key t slots slots' ↔ slots' = slots := by
  -- The key is compared with each name in turn and is none of them.
  induction fields with
  | nil => exact ⟨fun _ => rfl, fun _ => trivial⟩
  | cons field fields ih =>
    obtain ⟨slot, slots⟩ := slots
    obtain ⟨slot', slots'⟩ := slots'
    obtain ⟨hne, hlater⟩ := not_or.mp (mt List.mem_cons.mpr h)
    have hkey : key ≠ field.name.toList := by
      rintro rfl
      exact hne String.ofList_toList
    rw [sets_cons_neg hkey, ih hlater]
    exact Prod.mk.injEq .. ▸ Iff.rfl

/-! ### Values of absent fields -/

/-- A member with this key and value gives its field the value that the field has when it is absent,
and no other. -/
def Spares : {ts : List Type} → Fields ts → List Char → Tree → Prop
  | _, nil, _, _ => True
  | _, cons field fields, key, t =>
    if key = field.name.toList then
      ∃ a, field.absent = some a ∧ ∀ a', field.value.Takes t a' ↔ a' = a
    else fields.Spares key t

/-- For the name of the first field, the first field tells. -/
theorem spares_cons_pos {α : Type} {field : Field α} (h : key = field.name.toList) :
    (cons field fields).Spares key t ↔
      ∃ a, field.absent = some a ∧ ∀ a', field.value.Takes t a' ↔ a' = a := by
  rw [Spares, if_pos h]

/-- For another name, the other fields tell. -/
theorem spares_cons_neg {α : Type} {field : Field α} (h : key ≠ field.name.toList) :
    (cons field fields).Spares key t ↔ fields.Spares key t := by
  rw [Spares, if_neg h]

/-- The slot of the field with this name is empty. -/
def Lacks : {ts : List Type} → Fields ts → List Char → Slots ts → Prop
  | _, nil, _, _ => True
  | _, cons field fields, key, (slot, slots) =>
    if key = field.name.toList then slot = none else fields.Lacks key slots

/-- At first all slots are empty. -/
theorem lacks_empty (fields : Fields ts) (key : List Char) : fields.Lacks key (Slots.empty ts) := by
  induction fields with
  | nil => trivial
  | cons field fields ih =>
    by_cases hkey : key = field.name.toList
    · rw [Slots.empty, Lacks, if_pos hkey]
    · rw [Slots.empty, Lacks, if_neg hkey]
      exact ih

/-- A member with another key leaves the slot empty. -/
theorem Lacks.of_sets (h : fields.Lacks key slots) (hsets : fields.Sets key' t slots slots')
    (hne : key' ≠ key) : fields.Lacks key slots' := by
  induction fields with
  | nil => trivial
  | cons field fields ih =>
    obtain ⟨slot, slots⟩ := slots
    obtain ⟨slot', slots'⟩ := slots'
    -- The slot in question is the one of the first field with the key.
    by_cases hkey : key = field.name.toList
    · rw [Lacks, if_pos hkey] at h ⊢
      exact ((sets_cons_neg (hkey ▸ hne)).mp hsets).1.trans h
    · rw [Lacks, if_neg hkey] at h ⊢
      by_cases hkey' : key' = field.name.toList
      · obtain ⟨-, rfl, -⟩ := (sets_cons_pos hkey').mp hsets
        exact h
      · exact ih h ((sets_cons_neg hkey').mp hsets).2

/-- Members with other keys leave the slot empty. -/
theorem Lacks.of_fills {ms : List (List Char × Tree)} (h : fields.Lacks key slots)
    (hfills : fields.Fills slots ms slots') (hms : ∀ m ∈ ms, ¬WritesText m.1 key) :
    fields.Lacks key slots' := by
  induction hfills with
  | nil => exact h
  | @cons _ _ _ _ key' _ _ hraw hsets _ ih =>
    obtain ⟨hm, hms⟩ := List.forall_mem_cons.mp hms
    have hne : key' ≠ key := by
      rintro rfl
      exact hm hraw
    exact ih (h.of_sets hsets hne) hms

/-- A member that could as well be absent fills an empty slot. -/
theorem Lacks.exists_sets (h : fields.Lacks key slots) (hspares : fields.Spares key t) :
    ∃ slots', fields.Sets key t slots slots' := by
  induction fields with
  | nil => exact ⟨slots, trivial⟩
  | cons field fields ih =>
    obtain ⟨slot, slots⟩ := slots
    by_cases hkey : key = field.name.toList
    · rw [Lacks, if_pos hkey] at h
      obtain ⟨a, -, htakes⟩ := (spares_cons_pos hkey).mp hspares
      exact ⟨(some a, slots), (sets_cons_pos hkey).mpr ⟨h, rfl, a, rfl, (htakes a).mpr rfl⟩⟩
    · rw [Lacks, if_neg hkey] at h
      obtain ⟨slots', hsets⟩ := ih h ((spares_cons_neg hkey).mp hspares)
      exact ⟨(slot, slots'), (sets_cons_neg hkey).mpr ⟨rfl, hsets⟩⟩

/-- A member that could as well be absent makes no difference to the values. -/
theorem Spares.complete_eq (h : fields.Spares key t) (hsets : fields.Sets key t slots slots') :
    fields.complete slots' = fields.complete slots := by
  induction fields with
  | nil => rfl
  | cons field fields ih =>
    obtain ⟨slot, slots⟩ := slots
    obtain ⟨slot', slots'⟩ := slots'
    by_cases hkey : key = field.name.toList
    · obtain ⟨a, habsent, htakes⟩ := (spares_cons_pos hkey).mp h
      obtain ⟨rfl, rfl, a', rfl, ha'⟩ := (sets_cons_pos hkey).mp hsets
      -- What is taken is the very value that stands in for an empty slot.
      obtain rfl := (htakes a').mp ha'
      simp [complete, habsent]
    · obtain ⟨rfl, hlater⟩ := (sets_cons_neg hkey).mp hsets
      simp only [complete, ih ((spares_cons_neg hkey).mp h) hlater]

end Fields

namespace RecordShape

variable {R : Type} {shape : RecordShape R} {r : R} {ms ms' : List (List Char × Tree)}
  {raw key : List Char} {t : Tree}

/-- The order of the members makes no difference. -/
theorem holds_perm (h : ms.Perm ms') : shape.Holds ms r ↔ shape.Holds ms' r := by
  constructor
  · rintro ⟨slots, values, hfills, hvalues⟩
    exact ⟨slots, values, hfills.perm h, hvalues⟩
  · rintro ⟨slots, values, hfills, hvalues⟩
    exact ⟨slots, values, hfills.perm h.symm, hvalues⟩

/-- A member whose key names no field makes no difference. -/
theorem holds_cons_of_not_mem (hraw : WritesText raw key)
    (h : String.ofList key ∉ shape.fields.names) :
    shape.Holds ((raw, t) :: ms) r ↔ shape.Holds ms r := by
  constructor
  · rintro ⟨slots, values, _ | ⟨hraw', hsets, hfills⟩, hvalues⟩
    obtain rfl := hraw.unique hraw'
    obtain rfl := (Fields.sets_iff_of_not_mem h).mp hsets
    exact ⟨slots, values, hfills, hvalues⟩
  · rintro ⟨slots, values, hfills, hvalues⟩
    exact ⟨slots, values, .cons hraw ((Fields.sets_iff_of_not_mem h).mpr rfl) hfills, hvalues⟩

/-- A member that could as well be absent makes no difference where no other member has its key. -/
theorem holds_cons_of_spares (hraw : WritesText raw key) (hspares : shape.fields.Spares key t)
    (hms : ∀ m ∈ ms, ¬WritesText m.1 key) :
    shape.Holds ((raw, t) :: ms) r ↔ shape.Holds ms r := by
  -- Let the member come last, when the others have left its slot empty.
  rw [holds_perm (List.perm_append_singleton (raw, t) ms).symm]
  constructor
  · rintro ⟨slots, values, hfills, hcomplete, hr⟩
    obtain ⟨slots', key', hfills, hraw', hsets⟩ := Fields.fills_concat.mp hfills
    obtain rfl := hraw.unique hraw'
    exact ⟨slots', values, hfills, (hspares.complete_eq hsets).symm.trans hcomplete, hr⟩
  · rintro ⟨slots, values, hfills, hcomplete, hr⟩
    have hlacks := (Fields.lacks_empty shape.fields key).of_fills hfills hms
    obtain ⟨slots', hsets⟩ := hlacks.exists_sets hspares
    exact ⟨slots', values, Fields.fills_concat.mpr ⟨slots, key, hfills, hraw, hsets⟩,
      (hspares.complete_eq hsets).trans hcomplete, hr⟩

end RecordShape

end NewsReader.Json
