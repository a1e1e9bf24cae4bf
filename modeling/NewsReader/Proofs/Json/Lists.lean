import NewsReader.Proofs.Json.Written

/-!
# Written lists are read back

A list is read element by element, as a record is read member by member. An element is found by its
first character, so it must not start with a blank or with the bracket that closes the list; no
written value does.

`LawfulWire` says of a type with a JSON form that its values are read back, wherever they stand in a
text. Records have it by their fields, and lists by their elements.

* `Reader.elements_laterElements` — the run: all elements are read.
* `LawfulWire.decode_compact`, `LawfulWire.decode_indented` — the whole text of a value, in either
  layout.
* `RecordShape.lawfulWire` — records whose members are written one for each field, or left out.
-/

namespace NewsReader.Json

/-! ### Elements -/

/-- The text starts with a character that is not blank and does not close a list. -/
def StartsElement (text : List Char) : Prop :=
  ∃ c cs, text = c :: cs ∧ isSpace c = false ∧ c ≠ ']'

/-- A written whole number starts with a digit. -/
theorem startsElement_toDigits (n : Nat) : StartsElement (Nat.toDigits 10 n) := by
  obtain ⟨c, cs, hcons, hspace, -⟩ := startsValue_toDigits n
  refine ⟨c, cs, hcons, hspace, ?_⟩
  rintro rfl
  have hdigit : Text.isDigit ']' :=
    Text.isDigit_of_mem_toDigits (n := n) (hcons ▸ List.mem_cons_self)
  exact absurd hdigit (by decide)

/-- A value that is written without blanks can be an element. -/
theorem Value.startsElement_compactChars (v : Value) : StartsElement v.compactChars := by
  cases v with
  | null => exact ⟨'n', _, by rw [compactChars], rfl, by decide⟩
  | natural n =>
    rw [compactChars]
    exact startsElement_toDigits n
  | text s => exact ⟨'"', _, by rw [compactChars, textChars]; rfl, rfl, by decide⟩
  | list vs => exact ⟨'[', _, by rw [compactChars, List.cons_append], rfl, by decide⟩
  | object ms => exact ⟨'\x7b', _, by rw [compactChars, List.cons_append], rfl, by decide⟩

/-- A value that is written with lines can be an element. -/
theorem Value.startsElement_indentedChars (depth : Nat) (v : Value) :
    StartsElement (v.indentedChars depth) := by
  cases v with
  | null => exact ⟨'n', _, by rw [indentedChars], rfl, by decide⟩
  | natural n =>
    rw [indentedChars]
    exact startsElement_toDigits n
  | text s => exact ⟨'"', _, by rw [indentedChars, textChars]; rfl, rfl, by decide⟩
  | list vs =>
    cases vs <;> exact ⟨'[', _, by simp only [indentedChars, List.cons_append]; rfl,
      rfl, by decide⟩
  | object ms =>
    cases ms <;> exact ⟨'\x7b', _, by simp only [indentedChars, List.cons_append]; rfl,
      rfl, by decide⟩

section Blanks

variable {blanks : List Char} (hblanks : ∀ c ∈ blanks, isSpace c)

include hblanks

/-- Where the first element is written, it is found. -/
theorem nextElement_first {text : List Char} (h : StartsElement text) (rest : List Char) :
    nextElement true (blanks ++ (text ++ rest)) = .ok (some (text ++ rest)) := by
  obtain ⟨c, cs, rfl, hspace, hclose⟩ := h
  rw [nextElement, skipSpace_append hblanks, List.cons_append, skipSpace_cons hspace]
  simp only [if_neg hclose, ↓reduceIte]

/-- A later element is found after a comma. -/
theorem nextElement_comma {text : List Char} (h : StartsElement text) (rest : List Char) :
    nextElement false (',' :: (blanks ++ (text ++ rest))) = .ok (some (text ++ rest)) := by
  obtain ⟨c, cs, rfl, hspace, hclose⟩ := h
  have hcomma : skipSpace (',' :: (blanks ++ (c :: cs ++ rest))) =
      ',' :: (blanks ++ (c :: cs ++ rest)) :=
    skipSpace_cons rfl _
  have hskip : skipSpace (blanks ++ (c :: cs ++ rest)) = c :: (cs ++ rest) := by
    rw [skipSpace_append hblanks, List.cons_append, skipSpace_cons hspace]
  simp only [nextElement, hcomma, hskip, Char.reduceEq, Bool.false_eq_true, ↓reduceIte]
  split
  · next heq => cases heq
  · next heq => exact absurd (List.cons.inj heq).1 hclose
  · rfl

/-- Where a list ends, no element is found. -/
theorem nextElement_close (first : Bool) (rest : List Char) :
    nextElement first (blanks ++ ']' :: rest) = .ok none := by
  simp only [nextElement, skipSpace_append hblanks, skipSpace_cons (c := ']') rfl, ↓reduceIte]

/-- The end of a list is read. -/
theorem endList_close (rest : List Char) : endList (blanks ++ ']' :: rest) = .ok rest := by
  simp only [endList, skipSpace_append hblanks, skipSpace_cons (c := ']') rfl]

end Blanks

/-! ### Lists -/

namespace Layout

variable (l : Layout)

/-- Written elements that come after another one. -/
def laterElements (texts : List (List Char)) : List Char :=
  texts.flatMap fun text => ',' :: (l.lead ++ text)

/-- Written elements with commas between them. -/
def elements : List (List Char) → List Char
  | [] => []
  | text :: texts => l.lead ++ (text ++ l.laterElements texts)

/-- A written list. -/
def list (texts : List (List Char)) : List Char :=
  '[' :: (l.elements texts ++ (l.foot ++ [']']))

/-- Later elements, or what closes the list, may follow a value. -/
theorem delimited_laterElements (texts : List (List Char)) (rest : List Char) :
    Delimited (l.laterElements texts ++ (l.foot ++ ']' :: rest)) := by
  cases texts with
  | nil =>
    -- The bracket that closes an object may follow, and only its blanks tell whether the one of a
    -- list may.
    have hobject := l.foot_delimited rest
    change Delimited (l.foot ++ ']' :: rest)
    generalize l.foot = foot at hobject
    cases foot with
    | nil => simp [Delimited]
    | cons c foot => exact hobject
  | cons text texts => simp [laterElements, Delimited]

/-- Lists without blanks are in the compact layout. -/
theorem compact_list (vs : List Value) :
    (Value.list vs).compactChars = compact.list (vs.map Value.compactChars) := by
  have hitems (vs : List Value) :
      Value.compactItems vs = compact.elements (vs.map Value.compactChars) := by
    induction vs with
    | nil => simp [Value.compactItems, elements]
    | cons v vs ih =>
      cases vs with
      | nil => simp [Value.compactItems, elements, laterElements, compact]
      | cons w vs => simp [Value.compactItems, ih, elements, laterElements, compact]
  simp [Value.compactChars, hitems, list, compact]

/-- Lists with elements are in the indented layout. -/
theorem indented_list (depth : Nat) (v : Value) (vs : List Value) :
    (Value.list (v :: vs)).indentedChars depth =
      (indented depth).list ((v :: vs).map (Value.indentedChars (depth + 1))) := by
  have hitems (vs : List Value) : Value.indentedItems (depth + 1) vs =
      (indented depth).elements (vs.map (Value.indentedChars (depth + 1))) := by
    induction vs with
    | nil => simp [Value.indentedItems, elements]
    | cons v vs ih =>
      cases vs with
      | nil => simp [Value.indentedItems, elements, laterElements, indented]
      | cons w vs => simp [Value.indentedItems, ih, elements, laterElements, indented]
  simp [Value.indentedChars, hitems, list, indented]

end Layout

namespace Reader

variable {α : Type} {item : Reader α}

/-- Reading ends where no element is found. -/
theorem elements_of_end {first : Bool} {s : List Char} (hend : nextElement first s = .ok none) :
    item.elements first s = .ok ([], s) := by
  rw [elements]
  split <;> simp_all

/-- Reading goes on after an element. -/
theorem elements_of_item {first : Bool} {s s' rest : List Char} {a : α}
    (hnext : nextElement first s = .ok (some s')) (hitem : item.run s' = .ok (a, rest)) :
    item.elements first s = (item.elements false rest).map fun (as, rest) => (a :: as, rest) := by
  rw [elements]
  -- As for members, the equations of the matches are in the way of rewriting.
  split
  · simp_all
  · simp_all
  · next s'' hnext' =>
    rw [hnext] at hnext'
    obtain rfl := Option.some.inj (Except.ok.inj hnext')
    split
    · simp_all
    · next b rest' hitem' =>
      rw [hitem] at hitem'
      obtain ⟨rfl, rfl⟩ := Prod.mk.inj (Except.ok.inj hitem')
      rfl

variable {l : Layout} {text : α → List Char}

/-- The elements that are left are read. -/
theorem elements_laterElements {as : List α}
    (h : ∀ a ∈ as, item.Reads (text a) a ∧ StartsElement (text a)) (rest : List Char) :
    item.elements false (l.laterElements (as.map text) ++ (l.foot ++ ']' :: rest)) =
      .ok (as, l.foot ++ ']' :: rest) := by
  induction as with
  | nil => exact elements_of_end (nextElement_close l.foot_blank false rest)
  | cons a as ih =>
    obtain ⟨hreads, hstart⟩ := h a List.mem_cons_self
    have hlater := l.delimited_laterElements (as.map text) rest
    -- The text starts with a comma now, and what follows the element delimits it.
    have htext : l.laterElements ((a :: as).map text) ++ (l.foot ++ ']' :: rest) =
        ',' :: (l.lead ++
          (text a ++ (l.laterElements (as.map text) ++ (l.foot ++ ']' :: rest)))) := by
      simp [Layout.laterElements]
    rw [htext, elements_of_item (nextElement_comma l.lead_blank hstart _)
      (hreads [] _ (by simp) hlater), ih fun b hb => h b (List.mem_cons_of_mem _ hb)]
    rfl

/-- A written list is read back if its elements are. -/
theorem reads_list {as : List α}
    (h : ∀ a ∈ as, item.Reads (text a) a ∧ StartsElement (text a)) :
    item.list.Reads (l.list (as.map text)) as := by
  intro blanks rest hblanks _
  have hopen : skipSpace (blanks ++ (l.list (as.map text) ++ rest)) =
      '[' :: (l.elements (as.map text) ++ (l.foot ++ ']' :: rest)) := by
    rw [skipSpace_append hblanks]
    simp [Layout.list, skipSpace_cons (c := '[') rfl]
  have helements : item.elements true (l.elements (as.map text) ++ (l.foot ++ ']' :: rest)) =
      .ok (as, l.foot ++ ']' :: rest) := by
    cases as with
    | nil => exact elements_of_end (nextElement_close l.foot_blank true rest)
    | cons a as =>
      -- The first element has no comma before it, so it is none of those that
      -- `elements_laterElements` is about.
      obtain ⟨hreads, hstart⟩ := h a List.mem_cons_self
      have hlater := l.delimited_laterElements (as.map text) rest
      have htext : l.elements ((a :: as).map text) ++ (l.foot ++ ']' :: rest) =
          l.lead ++ (text a ++ (l.laterElements (as.map text) ++ (l.foot ++ ']' :: rest))) := by
        simp [Layout.elements]
      rw [htext, elements_of_item (nextElement_first l.lead_blank hstart _)
        (hreads [] _ (by simp) hlater),
        elements_laterElements fun b hb => h b (List.mem_cons_of_mem _ hb)]
      rfl
  simp only [list, hopen, helements, endList_close l.foot_blank rest, Except.map]

end Reader

/-! ### Lawful JSON forms -/

/-- Written values are read back, in either layout and wherever they stand. -/
class LawfulWire (α : Type) [Wire α] : Prop where
  /-- A value that is written without blanks is read back. -/
  reads_compact : ∀ a : α, Wire.reader.Reads (Wire.json a).compactChars a
  /-- A value that is written inside of `depth` brackets, with lines, is read back. -/
  reads_indented : ∀ (depth : Nat) (a : α),
    Wire.reader.Reads ((Wire.json a).indentedChars depth) a

namespace LawfulWire

variable {α : Type} [Wire α] [LawfulWire α]

/-- Lists of values that are read back are read back. -/
instance : LawfulWire (List α) where
  reads_compact as := by
    change Wire.reader.list.Reads (Value.list (as.map Wire.json)).compactChars as
    rw [Layout.compact_list, List.map_map]
    exact Reader.reads_list fun a _ => ⟨reads_compact a, Value.startsElement_compactChars _⟩
  reads_indented depth as := by
    change Wire.reader.list.Reads ((Value.list (as.map Wire.json)).indentedChars depth) as
    cases as with
    | nil =>
      -- A list without elements is written as in the compact layout.
      rw [List.map_nil, Value.indentedChars]
      have hreads : Wire.reader.list.Reads
          (Layout.compact.list (([] : List α).map fun _ => [])) [] :=
        Reader.reads_list (by simp)
      exact hreads
    | cons a as =>
      rw [List.map_cons, Layout.indented_list, ← List.map_cons, List.map_map]
      exact Reader.reads_list fun b _ =>
        ⟨reads_indented (depth + 1) b, Value.startsElement_indentedChars (depth + 1) _⟩

/-- The text of a value without blanks is read as the value. -/
theorem decode_compact (a : α) : Wire.decode (Wire.json a).compact = .ok a :=
  Reader.decode_of_reads (reads_compact a)

/-- The text of a value with lines is read as the value. -/
theorem decode_indented (a : α) : Wire.decode (Wire.json a).indented = .ok a :=
  Reader.decode_of_reads (reads_indented 0 a)

end LawfulWire

/-- Records are read back if they are written as objects whose members are those of the fields. -/
theorem RecordShape.lawfulWire {R : Type} [Wire R] {shape : RecordShape R}
    {values : R → Values shape.types} {members : R → List (String × Value)}
    (hreader : Wire.reader = shape.reader) (hjson : ∀ r, Wire.json r = .object (members r))
    (hne : ∀ r, members r ≠ [])
    (hwrites : ∀ l r, shape.fields.Writes l (values r) (members r))
    (hnames : shape.fields.names.Nodup) (hbuild : ∀ r, shape.build (values r) = r) :
    LawfulWire R where
  reads_compact r := by
    have hreads := reads_object (hwrites .compact r) hnames
    rwa [hbuild, ← Layout.compact_object, ← hjson, ← hreader] at hreads
  reads_indented depth r := by
    obtain ⟨m, ms, hcons⟩ := List.exists_cons_of_ne_nil (hne r)
    have hreads := reads_object (hwrites (.indented depth) r) hnames
    rwa [hbuild, hcons, ← Layout.indented_object, ← hcons, ← hjson, ← hreader] at hreads

end NewsReader.Json
