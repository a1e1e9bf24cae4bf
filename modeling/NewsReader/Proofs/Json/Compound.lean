import NewsReader.Proofs.Json.Lists
import NewsReader.Proofs.Json.Meaning

/-!
# Lists and records as trees

A list is taken element by element. A record is taken from an object by its members: one after
another fills the slot of its field, or none if its key is no name of a field (`Fields.Fills`), and
in the end the slots give the values. A list is taken as a record too, if its elements are the
values of the fields in their order (`Fields.Lists`).

* `Reader.ReadsTrees.list` — lists are trees if their elements are.
* `RecordShape.readsTrees` — records are trees if the values of their fields are.
* `RecordShape.takes_object_iff` — what an object is taken as depends on its members alone.
-/

namespace NewsReader.Json

variable {s rest : List Char} {first : Bool}

/-! ### Elements -/

/-- A list ends where its bracket stands. -/
theorem endList_eq_ok_iff : endList s = .ok rest ↔ skipSpace s = ']' :: rest := by
  unfold endList
  constructor
  · intro h
    split at h
    · cases h
    · next hs => exact Except.ok.inj h ▸ hs
    · split at h <;> cases h
    · cases h
  · intro h
    simp only [h]

/-- No element is found where the list ends. -/
theorem nextElement_eq_none_iff :
    nextElement first s = .ok none ↔ ∃ rest, skipSpace s = ']' :: rest := by
  unfold nextElement
  constructor
  · intro h
    split at h
    · cases h
    · next c rest hs =>
      split at h
      · next hc => exact ⟨rest, hc ▸ hs⟩
      · split at h
        · cases h
        · split at h
          · split at h <;> cases h
          · cases h
  · rintro ⟨rest, hs⟩
    simp only [hs, ↓reduceIte]

/-- An element that is found is the next one. -/
theorem exists_of_nextElement {s' : List Char} (h : nextElement first s = .ok (some s')) :
    ∃ s₁, NextAt first s s₁ ∧ skipSpace s₁ = s' := by
  unfold nextElement at h
  split at h
  · cases h
  · next c rest hs =>
    split at h
    · cases h
    · split at h
      · next hfirst =>
        -- The first element stands where the list begins; all others stand behind a comma.
        obtain rfl := Option.some.inj (Except.ok.inj h)
        exact ⟨s, by rw [NextAt, if_pos hfirst], hs⟩
      · next hfirst =>
        split at h
        · next hc =>
          have hnext : NextAt first s rest := by
            rw [NextAt, if_neg hfirst, hs, hc]
          split at h
          · cases h
          · cases h
          · next hrest =>
            obtain rfl := Option.some.inj (Except.ok.inj h)
            exact ⟨rest, hnext, rfl⟩
        · cases h

/-- The next element is found. -/
theorem nextElement_of_stands {t : Tree} {s' mid : List Char} (hnext : NextAt first s s')
    (hvalue : Stands (.value t) (skipSpace s') mid) :
    nextElement first s = .ok (some (skipSpace s')) := by
  obtain ⟨c, s'', hs', hstart⟩ := hvalue.startsWith
  have hc : c ≠ ']' := by
    rintro rfl
    exact hstart.not_mem.2 (by simp)
  cases first with
  | true =>
    obtain rfl : s = s' := hnext
    simp only [nextElement, hs', if_neg hc, ↓reduceIte]
  | false =>
    have hcomma : skipSpace s = ',' :: s' := hnext
    simp only [nextElement, hcomma, hs', Char.reduceEq, Bool.false_eq_true, ↓reduceIte]
    split
    · next heq => cases heq
    · next heq => exact absurd (List.cons.inj heq).1 hc
    · rfl

namespace Reader

variable {α : Type} {item : Reader α}

/-- Elements are read one after another. -/
theorem elements_of_stands {ts : List Tree} {as : List α} (h : List.Forall₂ item.Takes ts as)
    (hts : Stands (.elements first ts) s rest) :
    ∃ s', item.elements first s = .ok (as, s') ∧ skipSpace s' = ']' :: rest := by
  induction h generalizing first s with
  | nil =>
    cases hts with
    | endElements h => exact ⟨s, elements_of_end (nextElement_eq_none_iff.mpr ⟨rest, h⟩), h⟩
  | @cons t a ts as htakes _ ih =>
    cases hts with
    | element hnext hvalue hlater =>
      -- What follows the element is a comma or a bracket, so that a number ends here.
      have hrun := htakes _ _ (by rwa [skipSpace_skipSpace]) hlater.stopsAt_of_elements
      obtain ⟨s', hread, hend⟩ := ih hlater
      refine ⟨s', ?_, hend⟩
      rw [elements_of_item (nextElement_of_stands hnext hvalue) hrun, hread]
      rfl

/-- The elements that are read are those that stand there. -/
theorem ReadsTrees.exists_of_elements (hitem : item.ReadsTrees) {as : List α} {s' : List Char}
    (h : item.elements first s = .ok (as, s')) (hend : skipSpace s' = ']' :: rest) :
    ∃ ts, Stands (.elements first ts) s rest ∧ List.Forall₂ item.Takes ts as := by
  -- The trees are collected along the reading, each with what was read of it.
  fun_induction elements item first s generalizing as s' with
  | case1 => cases h
  | case2 first s hnone =>
    obtain ⟨rfl, rfl⟩ := Prod.mk.inj (Except.ok.inj h)
    exact ⟨[], .endElements hend, .nil⟩
  | case3 => cases h
  | case4 first s s₁ hsome a s₂ hrun ih =>
    obtain ⟨⟨as, _⟩, hread, heq⟩ := exists_of_map_eq_ok h
    obtain ⟨rfl, rfl⟩ := Prod.mk.inj heq
    obtain ⟨s₀, hnext, rfl⟩ := exists_of_nextElement hsome
    obtain ⟨t, hvalue, -, htakes⟩ := hitem hrun
    rw [skipSpace_skipSpace] at hvalue
    obtain ⟨ts, hlater, hall⟩ := ih hread hend
    exact ⟨t :: ts, .element hnext hvalue hlater, .cons htakes hall⟩

/-- A list is taken element by element. -/
theorem takes_list {ts : List Tree} {as : List α} (h : List.Forall₂ item.Takes ts as) :
    item.list.Takes (.list ts) as := by
  intro s rest hstands _
  obtain ⟨s₁, hs, hts⟩ := stands_list.mp hstands
  obtain ⟨s', hread, hend⟩ := elements_of_stands h hts
  simp only [list, hs, hread, endList_eq_ok_iff.mpr hend, Except.map]

/-- What is read as a list is one whose elements are taken. -/
theorem ReadsTrees.exists_of_list (hitem : item.ReadsTrees) {as : List α}
    (h : item.list.run s = .ok (as, rest)) :
    ∃ ts, Stands (.value (.list ts)) (skipSpace s) rest ∧ List.Forall₂ item.Takes ts as := by
  simp only [Reader.list] at h
  split at h
  · next hs =>
    split at h
    · cases h
    · next hread =>
      obtain ⟨_, hend, heq⟩ := exists_of_map_eq_ok h
      obtain ⟨rfl, rfl⟩ := Prod.mk.inj heq
      obtain ⟨ts, hts, hall⟩ := hitem.exists_of_elements hread (endList_eq_ok_iff.mp hend)
      exact ⟨ts, hs ▸ .list hts, hall⟩
  · cases h

/-- Lists are trees if their elements are. -/
theorem ReadsTrees.list (hitem : item.ReadsTrees) : item.list.ReadsTrees := by
  intro s rest as h
  obtain ⟨ts, hstands, hall⟩ := hitem.exists_of_list h
  exact ⟨.list ts, hstands, by rintro _ ⟨⟩, takes_list hall⟩

/-- A list that is written somewhere is taken element by element, and in no other way. -/
theorem ReadsTrees.takes_list_iff (hitem : item.ReadsTrees) {ts : List Tree} {as : List α}
    (hstands : Stands (.value (.list ts)) s rest) :
    item.list.Takes (.list ts) as ↔ List.Forall₂ item.Takes ts as := by
  refine ⟨fun h => ?_, takes_list⟩
  have hspace := hstands.skipSpace_eq
  have hrun : item.list.run s = .ok (as, rest) :=
    h _ _ (hspace.symm ▸ hstands) (by rintro _ ⟨⟩)
  obtain ⟨ts', hstands', hall⟩ := hitem.exists_of_list hrun
  rw [hspace] at hstands'
  obtain ⟨htree, -⟩ := hstands.unique hstands' (by rintro _ ⟨⟩) (by rintro _ ⟨⟩)
  cases htree
  exact hall

end Reader

/-- Each element of a list stands somewhere. -/
theorem Stands.exists_of_mem {t : Tree} {ts : List Tree} (h : Stands (.elements first ts) s rest)
    (ht : t ∈ ts) : ∃ s' rest', Stands (.value t) s' rest' := by
  induction ts generalizing first s with
  | nil => cases ht
  | cons t' ts ih =>
    cases h with
    | element hnext hvalue hlater =>
      rcases List.mem_cons.mp ht with rfl | ht
      · exact ⟨_, _, hvalue⟩
      · exact ih hlater ht

/-! ### Members -/

/-- An object ends where its bracket stands. -/
theorem endObject_eq_ok_iff : endObject s = .ok rest ↔ skipSpace s = '\x7d' :: rest := by
  unfold endObject
  constructor
  · intro h
    split at h
    · cases h
    · next hs => exact Except.ok.inj h ▸ hs
    · cases h
    · cases h
  · intro h
    simp only [h]

/-- A key that is found is that of the next member. -/
theorem exists_of_nextKey {key s' : List Char} (h : nextKey first s = .ok (some (key, s'))) :
    ∃ s₁ raw, NextAt first s s₁ ∧ skipSpace s₁ = '"' :: (raw ++ '"' :: s') ∧
      WritesText raw key := by
  -- The quote of a key stands in two places, behind the bracket or behind a comma.
  have hread {s₁ s₂ : List Char} (hnext : NextAt first s s₁)
      (hs₁ : skipSpace s₁ = '"' :: s₂) (h : (readText s₂).map some = .ok (some (key, s'))) :
      ∃ s₁ raw, NextAt first s s₁ ∧ skipSpace s₁ = '"' :: (raw ++ '"' :: s') ∧
        WritesText raw key := by
    obtain ⟨_, hread, heq⟩ := exists_of_map_eq_ok h
    obtain rfl := Option.some.inj heq
    obtain ⟨raw, rfl, hraw⟩ := readText_eq_ok_iff.mp hread
    exact ⟨s₁, raw, hnext, hs₁, hraw⟩
  unfold nextKey at h
  simp only at h
  split at h
  · cases h
  · next c rest hs =>
    split at h
    · cases h
    · split at h
      · next hfirst =>
        have hnext : NextAt first s s := by rw [NextAt, if_pos hfirst]
        split at h
        · cases h
        · next heq => exact hread hnext (hs.trans heq) h
        · cases h
        · cases h
      · next hfirst =>
        split at h
        · next hc =>
          have hnext : NextAt first s rest := by rw [NextAt, if_neg hfirst, hs, hc]
          split at h
          · cases h
          · next heq => exact hread hnext heq h
          · cases h
          · cases h
        · cases h

/-- The key of the next member is found. -/
theorem nextKey_of_stands {raw key s₁ s₂ : List Char} (hnext : NextAt first s s₁)
    (hkey : skipSpace s₁ = '"' :: (raw ++ '"' :: s₂)) (hraw : WritesText raw key) :
    nextKey first s = .ok (some (key, s₂)) := by
  have hread : readText (raw ++ '"' :: s₂) = .ok (key, s₂) :=
    readText_eq_ok_iff.mpr ⟨raw, rfl, hraw⟩
  cases first with
  | true =>
    obtain rfl : s = s₁ := hnext
    simp [nextKey, hkey, hread, Except.map]
  | false =>
    have hcomma : skipSpace s = ',' :: s₁ := hnext
    simp [nextKey, hcomma, hkey, hread, Except.map]

namespace Fields

variable {ts : List Type}

/-- The values of the fields are trees. -/
def ReadTrees : {ts : List Type} → Fields ts → Prop
  | _, nil => True
  | _, cons field fields => field.value.ReadsTrees ∧ fields.ReadTrees

/-- What a member does: it fills the empty slot of the field that has its key as a name, and if
there is no such field it leaves the slots as they are. -/
def Sets : {ts : List Type} → Fields ts → List Char → Tree → Slots ts → Slots ts → Prop
  | _, nil, _, _, _, _ => True
  | _, cons field fields, key, t, (slot, slots), (slot', slots') =>
    if key = field.name.toList then slot = none ∧ slots' = slots ∧
      ∃ a, slot' = some a ∧ field.value.Takes t a
    else slot' = slot ∧ fields.Sets key t slots slots'

/-- What the members do one after another. -/
inductive Fills (fields : Fields ts) :
    Slots ts → List (List Char × Tree) → Slots ts → Prop where
  | nil {slots : Slots ts} : Fills fields slots [] slots
  | cons {slots slots' slots'' : Slots ts} {raw key : List Char} {t : Tree}
    {ms : List (List Char × Tree)}
    (hraw : WritesText raw key) (hsets : fields.Sets key t slots slots')
      (hfills : Fills fields slots' ms slots'') :
    Fills fields slots ((raw, t) :: ms) slots''

/-- The elements of a list are the values of the fields in their order, and the fields that are left
are omitted. -/
def Lists : {ts : List Type} → Fields ts → List Tree → Values ts → Prop
  | _, nil, trees, _ => trees = []
  | _, cons field fields, [], (a, as) => field.omitted = some a ∧ fields.Lists [] as
  | _, cons field fields, t :: trees, (a, as) => field.value.Takes t a ∧ fields.Lists trees as

variable {fields : Fields ts} {key : List Char} {t : Tree} {slots slots' : Slots ts}

/-- A member with the name of the first field fills its slot. -/
theorem sets_cons_pos {α : Type} {field : Field α} {slot slot' : Option α}
    (h : key = field.name.toList) :
    (cons field fields).Sets key t (slot, slots) (slot', slots') ↔
      slot = none ∧ slots' = slots ∧ ∃ a, slot' = some a ∧ field.value.Takes t a := by
  rw [Sets, if_pos h]

/-- A member with another name is left to the other fields. -/
theorem sets_cons_neg {α : Type} {field : Field α} {slot slot' : Option α}
    (h : key ≠ field.name.toList) :
    (cons field fields).Sets key t (slot, slots) (slot', slots') ↔
      slot' = slot ∧ fields.Sets key t slots slots' := by
  rw [Sets, if_neg h]

/-- A member is read as what it does. -/
theorem readMember_of_sets {s' : List Char} (h : fields.Sets key t slots slots')
    (hcolon : skipSpace s = ':' :: s') (hvalue : Stands (.value t) (skipSpace s') rest)
    (hstop : t.StopsAt rest) : fields.readMember key slots s = .ok (slots', rest) := by
  induction fields with
  | nil =>
    -- No field is left that the member could belong to, so its value is passed over.
    simp only [readMember, readColon_eq_ok_iff.mpr hcolon, skipFrom_of_stands hvalue hstop]
    rfl
  | cons field fields ih =>
    obtain ⟨slot, slots⟩ := slots
    obtain ⟨slot', slots'⟩ := slots'
    by_cases hkey : key = field.name.toList
    · obtain ⟨rfl, rfl, a, rfl, htakes⟩ := (sets_cons_pos hkey).mp h
      simp only [readMember, if_pos hkey, readColon_eq_ok_iff.mpr hcolon, htakes _ _ hvalue hstop]
      rfl
    · obtain ⟨rfl, hsets⟩ := (sets_cons_neg hkey).mp h
      simp only [readMember, if_neg hkey, ih hsets]
      rfl

/-- A member that is read does what was read. -/
theorem sets_of_readMember (hfields : fields.ReadTrees)
    (h : fields.readMember key slots s = .ok (slots', rest)) :
    ∃ s' t, skipSpace s = ':' :: s' ∧ Stands (.value t) (skipSpace s') rest ∧
      fields.Sets key t slots slots' := by
  induction fields with
  | nil =>
    simp only [readMember] at h
    split at h
    · cases h
    · next s' hcolon =>
      obtain ⟨_, hskip, heq⟩ := exists_of_map_eq_ok h
      obtain ⟨rfl, rfl⟩ := Prod.mk.inj heq
      obtain ⟨t, hvalue, -⟩ := exists_of_skipFrom hskip
      exact ⟨s', t, readColon_eq_ok_iff.mp hcolon, hvalue, trivial⟩
  | cons field fields ih =>
    obtain ⟨slot, slots⟩ := slots
    obtain ⟨slot', slots'⟩ := slots'
    obtain ⟨hfield, hfields⟩ := hfields
    simp only [readMember] at h
    split at h
    · next hkey =>
      -- The key is the name of the field: its slot is filled, and it was empty.
      split at h
      · cases h
      · cases h
      · next s' hcolon =>
        obtain ⟨⟨a, _⟩, hrun, heq⟩ := exists_of_map_eq_ok h
        obtain ⟨hslots, rfl⟩ := Prod.mk.inj heq
        obtain ⟨rfl, rfl⟩ := Prod.mk.inj hslots
        obtain ⟨t, hvalue, -, htakes⟩ := hfield hrun
        exact ⟨s', t, readColon_eq_ok_iff.mp hcolon, hvalue,
          (sets_cons_pos hkey).mpr ⟨rfl, rfl, a, rfl, htakes⟩⟩
    · next hkey =>
      obtain ⟨⟨slots'', _⟩, hread, heq⟩ := exists_of_map_eq_ok h
      obtain ⟨hslots, rfl⟩ := Prod.mk.inj heq
      obtain ⟨rfl, rfl⟩ := Prod.mk.inj hslots
      obtain ⟨s', t, hcolon, hvalue, hsets⟩ := ih hfields hread
      exact ⟨s', t, hcolon, hvalue, (sets_cons_neg hkey).mpr ⟨rfl, hsets⟩⟩

/-- Members are read as what they do one after another. -/
theorem readMembers_of_fills {ms : List (List Char × Tree)} (h : fields.Fills slots ms slots')
    (hms : Stands (.members first ms) s rest) :
    ∃ s', fields.readMembers first slots s = .ok (slots', s') ∧
      skipSpace s' = '\x7d' :: rest := by
  -- The induction is on what the members do, and each of them stands where it is read.
  induction h generalizing first s with
  | nil =>
    cases hms with
    | endMembers h =>
      refine ⟨s, readMembers_of_end ?_, h⟩
      simp only [nextKey, h, ↓reduceIte]
  | cons hraw hsets _ ih =>
    cases hms with
    | member hnext hkey _ hcolon hvalue hlater =>
      obtain ⟨s', hread, hend⟩ := ih hlater
      have hmember := readMember_of_sets hsets hcolon hvalue hlater.stopsAt_of_members
      exact ⟨s', (readMembers_of_member (nextKey_of_stands hnext hkey hraw) hmember).trans hread,
        hend⟩

/-- The members that are read do what was read. -/
theorem fills_of_readMembers (hfields : fields.ReadTrees) {s' : List Char}
    (h : fields.readMembers first slots s = .ok (slots', s'))
    (hend : skipSpace s' = '\x7d' :: rest) :
    ∃ ms, Stands (.members first ms) s rest ∧ fields.Fills slots ms slots' := by
  -- The members are collected along the reading, each with what it does to the slots.
  fun_induction readMembers fields first slots s with
  | case1 => cases h
  | case2 first slots s hnone =>
    obtain ⟨rfl, rfl⟩ := Prod.mk.inj (Except.ok.inj h)
    exact ⟨[], .endMembers hend, .nil⟩
  | case3 => cases h
  | case4 first slots s key s₂ hkey slots₁ mid hmember ih =>
    obtain ⟨s₁, raw, hnext, hkey, hraw⟩ := exists_of_nextKey hkey
    obtain ⟨s₃, t, hcolon, hvalue, hsets⟩ := sets_of_readMember hfields hmember
    obtain ⟨ms, hlater, hfills⟩ := ih h
    exact ⟨(raw, t) :: ms, .member hnext hkey hraw.isRaw hcolon hvalue hlater,
      .cons hraw hsets hfills⟩

/-- Elements are read as the fields in their order. -/
theorem readElements_of_lists (wanted : String) (count : Nat) {trees : List Tree} {as : Values ts}
    (h : fields.Lists trees as) (htrees : Stands (.elements (count == 0) trees) s rest) :
    ∃ s', fields.readElements wanted count s = .ok (as, s') ∧ skipSpace s' = ']' :: rest := by
  induction fields generalizing count trees s with
  | nil =>
    obtain rfl : trees = [] := h
    cases htrees with
    | endElements h => exact ⟨s, rfl, h⟩
  | cons field fields ih =>
    obtain ⟨a, as⟩ := as
    cases htrees with
    | endElements hend =>
      -- The list ends before this field, and so before all that follow it.
      obtain ⟨homitted, hlists⟩ := h
      have hnone : nextElement (count == 0) s = .ok none :=
        nextElement_eq_none_iff.mpr ⟨rest, hend⟩
      have hlater : Stands (.elements (count + 1 == 0) []) s rest := .endElements hend
      obtain ⟨s', hread, hend'⟩ := ih (count + 1) hlists hlater
      refine ⟨s', ?_, hend'⟩
      simp only [readElements, hnone, homitted, hread]
      rfl
    | element hnext hvalue hlater =>
      obtain ⟨htakes, hlists⟩ := h
      have hsome := nextElement_of_stands hnext hvalue
      have hrun := htakes _ _ (by rwa [skipSpace_skipSpace]) hlater.stopsAt_of_elements
      have hlater : Stands (.elements (count + 1 == 0) _) _ rest := hlater
      obtain ⟨s', hread, hend⟩ := ih (count + 1) hlists hlater
      refine ⟨s', ?_, hend⟩
      simp only [readElements, hsome, hrun, hread]
      rfl

/-- The elements that are read are the fields in their order. -/
theorem lists_of_readElements (hfields : fields.ReadTrees) {wanted : String} {count : Nat}
    {as : Values ts} {s' : List Char} (h : fields.readElements wanted count s = .ok (as, s'))
    (hend : skipSpace s' = ']' :: rest) :
    ∃ trees, Stands (.elements (count == 0) trees) s rest ∧ fields.Lists trees as := by
  induction fields generalizing count s with
  | nil =>
    obtain ⟨rfl, rfl⟩ := Prod.mk.inj (Except.ok.inj h)
    exact ⟨[], .endElements hend, rfl⟩
  | cons field fields ih =>
    obtain ⟨hfield, hfields⟩ := hfields
    simp only [readElements] at h
    split at h
    · cases h
    · cases h
    · next hnone homitted =>
      obtain ⟨⟨as, _⟩, hread, heq⟩ := exists_of_map_eq_ok h
      obtain ⟨rfl, rfl⟩ := Prod.mk.inj heq
      obtain ⟨trees, htrees, hlists⟩ := ih hfields hread
      obtain ⟨rest', hclose⟩ := nextElement_eq_none_iff.mp hnone
      -- The list is over, so the later fields are omitted as well.
      cases htrees with
      | endElements hend => exact ⟨[], .endElements hend, homitted, hlists⟩
      | element hnext hvalue _ => exact absurd hclose (Stands.skipSpace_ne_of_element hnext hvalue)
    · next hsome =>
      split at h
      · cases h
      · next hrun =>
        obtain ⟨⟨as, _⟩, hread, heq⟩ := exists_of_map_eq_ok h
        obtain ⟨rfl, rfl⟩ := Prod.mk.inj heq
        obtain ⟨s₀, hnext, rfl⟩ := exists_of_nextElement hsome
        obtain ⟨t, hvalue, -, htakes⟩ := hfield hrun
        rw [skipSpace_skipSpace] at hvalue
        obtain ⟨trees, hlater, hlists⟩ := ih hfields hread
        exact ⟨t :: trees, .element hnext hvalue hlater, htakes, hlists⟩

end Fields

/-! ### Records -/

namespace RecordShape

variable {R : Type} {shape : RecordShape R} {r : R} {ms : List (List Char × Tree)}

/-- The members make up the record: they fill slots, and these give its values. -/
def Holds (shape : RecordShape R) (ms : List (List Char × Tree)) (r : R) : Prop :=
  ∃ slots values, shape.fields.Fills (Slots.empty shape.types) ms slots ∧
    shape.fields.complete slots = .ok values ∧ r = shape.build values

/-- An object is taken as the record that its members make up. -/
theorem Holds.takes (h : shape.Holds ms r) : shape.reader.Takes (.object ms) r := by
  obtain ⟨slots, values, hfills, hcomplete, rfl⟩ := h
  intro s rest hstands _
  obtain ⟨s₁, hs, hms⟩ := stands_object.mp hstands
  obtain ⟨s', hread, hend⟩ := Fields.readMembers_of_fills hfills hms
  simp only [reader, hs, readObject, hread, hcomplete, endObject_eq_ok_iff.mpr hend, Except.map]

/-- What is read of an object is the record that its members make up. -/
theorem holds_of_readObject (hfields : shape.fields.ReadTrees)
    (h : shape.readObject s = .ok (r, rest)) :
    ∃ ms, Stands (.members true ms) s rest ∧ shape.Holds ms r := by
  simp only [readObject] at h
  split at h
  · cases h
  · next hread =>
    split at h
    · cases h
    · next hcomplete =>
      obtain ⟨_, hend, heq⟩ := exists_of_map_eq_ok h
      obtain ⟨rfl, rfl⟩ := Prod.mk.inj heq
      obtain ⟨ms, hms, hfills⟩ :=
        Fields.fills_of_readMembers hfields hread (endObject_eq_ok_iff.mp hend)
      exact ⟨ms, hms, _, _, hfills, hcomplete, rfl⟩

/-- A list is taken as the record that has its elements as values. -/
theorem takes_list {trees : List Tree} {values : Values shape.types}
    (h : shape.fields.Lists trees values) :
    shape.reader.Takes (.list trees) (shape.build values) := by
  intro s rest hstands _
  obtain ⟨s₁, hs, htrees⟩ := stands_list.mp hstands
  obtain ⟨s', hread, hend⟩ := Fields.readElements_of_lists shape.wantedLength 0 h htrees
  simp only [reader, hs, readList, hread, endList_eq_ok_iff.mpr hend, Except.map]

/-- What is read of a list is the record that has its elements as values. -/
theorem lists_of_readList (hfields : shape.fields.ReadTrees)
    (h : shape.readList s = .ok (r, rest)) :
    ∃ trees values, Stands (.elements true trees) s rest ∧ shape.fields.Lists trees values ∧
      r = shape.build values := by
  simp only [readList] at h
  split at h
  · cases h
  · next values _ hread =>
    obtain ⟨_, hend, heq⟩ := exists_of_map_eq_ok h
    obtain ⟨rfl, rfl⟩ := Prod.mk.inj heq
    obtain ⟨trees, htrees, hlists⟩ :=
      Fields.lists_of_readElements hfields hread (endList_eq_ok_iff.mp hend)
    exact ⟨trees, values, htrees, hlists, rfl⟩

/-- What is read as a record is an object or a list. -/
theorem exists_of_run (hfields : shape.fields.ReadTrees) (h : shape.reader.run s = .ok (r, rest)) :
    ∃ t, Stands (.value t) (skipSpace s) rest ∧ t.kind ≠ .number ∧
      shape.reader.Takes t r := by
  simp only [reader] at h
  split at h
  · next hs =>
    obtain ⟨trees, values, htrees, hlists, rfl⟩ := lists_of_readList hfields h
    exact ⟨.list trees, hs ▸ .list htrees, by simp [Tree.kind], takes_list hlists⟩
  · next hs =>
    obtain ⟨ms, hms, hholds⟩ := holds_of_readObject hfields h
    exact ⟨.object ms, hs ▸ .object hms, by simp [Tree.kind], hholds.takes⟩
  · cases h

/-- Records are trees if the values of their fields are. -/
theorem readsTrees (hfields : shape.fields.ReadTrees) : shape.reader.ReadsTrees := by
  intro s rest r h
  obtain ⟨t, hstands, hkind, htakes⟩ := exists_of_run hfields h
  exact ⟨t, hstands, Tree.stopsAt_of_kind hkind rest, htakes⟩

/-- A record ends with its bracket: what a text goes on with is left. -/
theorem run_append (hfields : shape.fields.ReadTrees) (h : shape.reader.run s = .ok (r, rest))
    (more : List Char) : shape.reader.run (s ++ more) = .ok (r, rest ++ more) := by
  obtain ⟨t, hstands, hkind, htakes⟩ := exists_of_run hfields h
  obtain ⟨c, s', hs, -⟩ := hstands.startsWith
  refine htakes _ _ ?_ (Tree.stopsAt_of_kind hkind _)
  rw [skipSpace_append_of_cons hs, ← List.cons_append, ← hs]
  exact hstands.append more

/-- An object that is written somewhere is taken as the record that its members make up, and as
nothing else. -/
theorem takes_object_iff (hfields : shape.fields.ReadTrees)
    (hstands : Stands (.value (.object ms)) s rest) :
    shape.reader.Takes (.object ms) r ↔ shape.Holds ms r := by
  refine ⟨fun h => ?_, Holds.takes⟩
  have hrun : shape.reader.run s = .ok (r, rest) :=
    h _ _ (hstands.skipSpace_eq.symm ▸ hstands) (by rintro _ ⟨⟩)
  obtain ⟨s₁, hs, hms⟩ := stands_object.mp hstands
  simp only [reader, hs, skipSpace_cons (c := '\x7b') rfl] at hrun
  -- The members that are read are those that stand there, since there are no others.
  obtain ⟨ms', hms', hholds⟩ := holds_of_readObject hfields hrun
  obtain ⟨hphrase, -⟩ := hms.unique_phrase hms' .members trivial trivial
  cases hphrase
  exact hholds

end RecordShape

end NewsReader.Json
