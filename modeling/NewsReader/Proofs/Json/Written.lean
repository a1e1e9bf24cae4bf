import NewsReader.Json.Wire
import NewsReader.Proofs.Json.Record
import NewsReader.Proofs.Text.Digits

/-!
# Written records are read back

A value is read up to its end, so what follows must not go on with it. After a written value this is
a matter of one character (`Delimited`), and `Reader.Reads` says that a reader takes a written value
off whatever such text follows it.

The two layouts differ in the blanks around keys and values alone. `Layout` has what they share, and
a record is read back in any of them: reading takes the members one by one, and the slots of those
that were read are filled.

* `readNumber_toDigits` — a written whole number is read as itself.
* `Fields.readMember_slots` — the step: a member fills its slot.
* `Fields.readMembers_members` — the run: the members fill their slots, and no others.
* `RecordShape.reads_object` — a record is read back from an object with its fields as members.
* `RecordShape.decode_compact`, `RecordShape.decode_indented` — the whole text of a record, in
  either layout.
-/

namespace NewsReader.Json

open Text (isDigit_of_mem_toDigits digitValue_digitChar head?_toDigits_ne_zero)

/-! ### What follows a value -/

/-- What may follow a written value: nothing, or a text that starts with a comma, a new line or a
closing bracket. -/
def Delimited : List Char → Prop
  | [] => True
  | c :: _ => c ∈ [',', '\n', ']', '\x7d']

/-- The reader takes a written text as this value, after blanks and with what may follow. -/
def Reader.Reads {α : Type} (item : Reader α) (text : List Char) (a : α) : Prop :=
  ∀ blanks rest, (∀ c ∈ blanks, isSpace c) → Delimited rest →
    item.run (blanks ++ (text ++ rest)) = .ok (a, rest)

/-- No digit follows a value. -/
theorem Delimited.takeWhile_isDigit {rest : List Char} (h : Delimited rest) :
    rest.takeWhile Text.isDigit = [] := by
  have hdigit : [',', '\n', ']', '\x7d'].all (!Text.isDigit ·) := by decide
  cases rest with
  | nil => rfl
  | cons c rest => exact List.takeWhile_cons_of_neg (by simpa using List.all_eq_true.mp hdigit c h)

/-- No places follow a value. -/
theorem Delimited.readPlaces {rest : List Char} (h : Delimited rest) :
    readPlaces rest = .ok (none, rest) := by
  cases rest with
  | nil => rfl
  | cons c rest =>
    have hpoint : c ≠ '.' := by
      rintro rfl
      exact absurd h (by simp [Delimited])
    unfold Json.readPlaces
    split
    · next heq => exact absurd (List.cons.inj heq).1 hpoint
    · rfl

/-- No exponent follows a value. -/
theorem Delimited.readExponent {rest : List Char} (h : Delimited rest) :
    readExponent rest = .ok (none, rest) := by
  cases rest with
  | nil => rfl
  | cons c rest =>
    have hmark : [',', '\n', ']', '\x7d'].all fun c => !(c = 'e' ∨ c = 'E') := by decide
    rw [Json.readExponent, if_neg (by simpa using List.all_eq_true.mp hmark c h)]

/-! ### Whole numbers -/

/-- The digits of a number that fits in 64 bits are gathered to that number. -/
theorem gather_toDigits {n : Nat} (h : n < wordLimit) (ds : List Char) :
    gather 0 (Nat.toDigits 10 n ++ ds) = gather n ds := by
  -- The last digit is gathered last, so the induction is on the number without it.
  induction n using Nat.strongRecOn generalizing ds with
  | ind n ih =>
    rw [Nat.toDigits_eq_if (by decide)]
    split
    · next hn => simp only [List.cons_append, List.nil_append, gather,
        digitValue_digitChar hn, Nat.zero_mul, Nat.zero_add, if_pos h]
    · next hn =>
      have hlast : n % 10 < 10 := Nat.mod_lt n (by decide)
      have hsum : n / 10 * 10 + n % 10 = n := Nat.div_add_mod' n 10
      rw [List.append_assoc, ih (n / 10) (by omega) (by omega)]
      simp only [List.cons_append, List.nil_append, gather, digitValue_digitChar hlast,
        hsum, if_pos h]

/-- The digits of a number are read as a whole part. -/
theorem readWhole_toDigits (n : Nat) {rest : List Char} (hrest : Delimited rest) :
    readWhole (Nat.toDigits 10 n ++ rest) = .ok (Nat.toDigits 10 n, rest) := by
  have hall : ∀ c ∈ Nat.toDigits 10 n, Text.isDigit c := fun _ => isDigit_of_mem_toDigits
  have htake : (Nat.toDigits 10 n ++ rest).takeWhile Text.isDigit = Nat.toDigits 10 n := by
    rw [List.takeWhile_append_of_pos hall, hrest.takeWhile_isDigit, List.append_nil]
  have hdrop : (Nat.toDigits 10 n ++ rest).dropWhile Text.isDigit = rest := by
    have hsplit := (Nat.toDigits 10 n ++ rest).takeWhile_append_dropWhile (p := Text.isDigit)
    rw [htake] at hsplit
    exact List.append_cancel_left hsplit
  have hdigits : readDigits (Nat.toDigits 10 n ++ rest) = .ok (Nat.toDigits 10 n, rest) := by
    obtain ⟨c, ds, hcons⟩ := List.exists_cons_of_ne_nil (Nat.toDigits_ne_nil (n := n) (b := 10))
    have hc : Text.isDigit c := hall c (hcons ▸ List.mem_cons_self)
    rw [hcons] at htake hdrop ⊢
    simp only [List.cons_append] at htake hdrop ⊢
    simp only [readDigits, hc, htake, hdrop, ↓reduceIte]
  -- A written number has a zero in front only if it is zero.
  have hzero : ¬((Nat.toDigits 10 n).head? = some '0' ∧ 1 < (Nat.toDigits 10 n).length) := by
    rintro ⟨hhead, hlength⟩
    rcases Nat.eq_zero_or_pos n with rfl | hn
    · exact absurd hlength (by decide)
    · exact head?_toDigits_ne_zero hn hhead
  simp only [readWhole, hdigits, if_neg hzero]

/-- A written whole number is read as itself. -/
theorem readNumber_toDigits {n : Nat} (h : n < wordLimit) {rest : List Char}
    (hrest : Delimited rest) : readNumber (Nat.toDigits 10 n ++ rest) = .ok (.natural n, rest) := by
  have hsign : numberSign (Nat.toDigits 10 n ++ rest) = (false, Nat.toDigits 10 n ++ rest) := by
    obtain ⟨c, ds, hcons⟩ := List.exists_cons_of_ne_nil (Nat.toDigits_ne_nil (n := n) (b := 10))
    have hc : Text.isDigit c := isDigit_of_mem_toDigits (n := n) (hcons ▸ List.mem_cons_self)
    rw [hcons]
    unfold numberSign
    split
    · next heq =>
      obtain rfl := (List.cons.inj heq).1
      exact absurd hc (by decide)
    · rfl
  have hvalue : NumberText.value ⟨false, Nat.toDigits 10 n, none, none⟩ = .ok (.natural n) := by
    have hgather : gather 0 (Nat.toDigits 10 n) = (n, []) := by
      rw [← List.append_nil (Nat.toDigits 10 n), gather_toDigits h, gather]
    simp only [NumberText.value, hgather, wholeNumber]
    rfl
  simp only [readNumber, readNumberText, hsign, readWhole_toDigits n hrest, hrest.readPlaces,
    hrest.readExponent, bind, Except.bind, hvalue]

/-! ### Values -/

/-- The text starts with a character that is not blank and does not start the word `null`. -/
def StartsValue (text : List Char) : Prop :=
  ∃ c cs, text = c :: cs ∧ isSpace c = false ∧ c ≠ 'n'

/-- A written string starts with its quote. -/
theorem startsValue_textChars (s : String) : StartsValue (textChars s) :=
  ⟨'"', _, rfl, rfl, by decide⟩

/-- A written whole number starts with a digit. -/
theorem startsValue_toDigits (n : Nat) : StartsValue (Nat.toDigits 10 n) := by
  obtain ⟨c, cs, hcons⟩ := List.exists_cons_of_ne_nil (Nat.toDigits_ne_nil (n := n) (b := 10))
  have hdigit : Text.isDigit c := isDigit_of_mem_toDigits (n := n) (hcons ▸ List.mem_cons_self)
  refine ⟨c, cs, hcons, ?_, ?_⟩
  · rw [Bool.eq_false_iff]
    intro hspace
    have hblanks : c = ' ' ∨ c = '\t' ∨ c = '\n' ∨ c = '\r' := by
      simpa [isSpace, or_assoc] using hspace
    rcases hblanks with rfl | rfl | rfl | rfl <;> exact absurd hdigit (by decide)
  · rintro rfl
    exact absurd hdigit (by decide)

/-- Blanks before a value are passed over, and nothing of the value is. -/
theorem StartsValue.skipSpace {text blanks : List Char} (h : StartsValue text)
    (hblanks : ∀ c ∈ blanks, isSpace c) (rest : List Char) :
    skipSpace (blanks ++ (text ++ rest)) = text ++ rest := by
  obtain ⟨c, cs, rfl, hspace, -⟩ := h
  rw [skipSpace_append hblanks, List.cons_append, skipSpace_cons hspace]

namespace Reader

variable {α : Type}

/-- A written string is read back. -/
theorem reads_text (wanted s : String) : (text wanted).Reads (textChars s) s :=
  fun _ _ hblanks _ => run_textChars hblanks wanted s _

/-- A written whole number is read back. -/
theorem reads_natural {n : Nat} (h : n < wordLimit) : natural.Reads (Nat.toDigits 10 n) n := by
  intro blanks rest hblanks hrest
  have hstart := (startsValue_toDigits n).skipSpace hblanks rest
  have hnumber := readNumber_toDigits h hrest
  obtain ⟨c, ds, hcons⟩ := List.exists_cons_of_ne_nil (Nat.toDigits_ne_nil (n := n) (b := 10))
  have hc : Text.isDigit c := isDigit_of_mem_toDigits (n := n) (hcons ▸ List.mem_cons_self)
  rw [hcons] at hstart hnumber ⊢
  rw [List.cons_append] at hstart hnumber
  simp only [natural, List.cons_append, hstart, hc, or_true, ↓reduceIte, hnumber]

/-- The word `null` is read as nothing. -/
theorem reads_null (item : Reader α) : item.optional.Reads ['n', 'u', 'l', 'l'] none := by
  intro blanks rest hblanks _
  have hstart : skipSpace (blanks ++ 'n' :: 'u' :: 'l' :: 'l' :: rest) =
      'n' :: 'u' :: 'l' :: 'l' :: rest :=
    (skipSpace_append hblanks _).trans (skipSpace_cons rfl _)
  have hword : readWord ['u', 'l', 'l'] ('u' :: 'l' :: 'l' :: rest) = .ok rest := by simp [readWord]
  simp only [optional, List.cons_append, List.nil_append, hstart, hword, Except.map]

/-- A value that may be `null` and is not is read as itself. -/
theorem reads_some {item : Reader α} {text : List Char} {a : α} (h : item.Reads text a)
    (hstart : StartsValue text) : item.optional.Reads text (some a) := by
  intro blanks rest hblanks hrest
  have hskip := hstart.skipSpace hblanks rest
  have hrun : item.run (text ++ rest) = .ok (a, rest) := h [] rest (by simp) hrest
  obtain ⟨c, cs, rfl, -, hn⟩ := hstart
  unfold Reader.optional
  simp only [hskip]
  split
  · next heq => exact absurd (List.cons.inj heq).1 hn
  · rw [hrun]
    rfl

/-- A whole text that is a written value is read back. -/
theorem decode_of_reads {item : Reader α} {s : List Char} {a : α} (h : item.Reads s a) :
    item.decode (String.ofList s) = .ok a := by
  have hrun := h [] [] (by simp) trivial
  rw [List.nil_append, List.append_nil] at hrun
  simp only [decode, decodeChars, String.toList_ofList, hrun]
  rfl

end Reader

/-! ### Layouts -/

/-- How objects are laid out. -/
structure Layout where
  /-- What stands before a key. -/
  lead : List Char
  /-- What stands between a colon and the value. -/
  gap : List Char
  /-- What stands before the closing bracket. -/
  foot : List Char
  /-- A written value. -/
  print : Value → List Char
  /-- There are only blanks before a key. -/
  lead_blank : ∀ c ∈ lead, isSpace c
  /-- There are only blanks before a value. -/
  gap_blank : ∀ c ∈ gap, isSpace c
  /-- There are only blanks before the closing bracket. -/
  foot_blank : ∀ c ∈ foot, isSpace c
  /-- What closes an object may follow a value. -/
  foot_delimited : ∀ rest, Delimited (foot ++ '\x7d' :: rest)
  /-- A value that is missing is written as `null`. -/
  print_null : print .null = ['n', 'u', 'l', 'l']
  /-- A whole number is written with its digits. -/
  print_natural : ∀ n, print (.natural n) = Nat.toDigits 10 n
  /-- A string is written in quotes. -/
  print_text : ∀ s, print (.text s) = textChars s

namespace Layout

/-- The layout without blanks. -/
def compact : Layout where
  lead := []
  gap := []
  foot := []
  print := Value.compactChars
  lead_blank := by simp
  gap_blank := by simp
  foot_blank := by simp
  foot_delimited _ := by simp [Delimited]
  print_null := by simp [Value.compactChars]
  print_natural _ := by simp [Value.compactChars]
  print_text _ := by simp [Value.compactChars]

/-- The layout of an object inside of `depth` brackets that has each member on a line of its own. -/
def indented (depth : Nat) : Layout where
  lead := Value.lineStart (depth + 1)
  gap := [' ']
  foot := Value.lineStart depth
  print := Value.indentedChars (depth + 1)
  lead_blank _ := isSpace_of_mem_lineStart
  gap_blank := by simp [isSpace]
  foot_blank _ := isSpace_of_mem_lineStart
  foot_delimited _ := by simp [Value.lineStart, Delimited]
  print_null := by simp [Value.indentedChars]
  print_natural _ := by simp [Value.indentedChars]
  print_text _ := by simp [Value.indentedChars]

variable (l : Layout)

/-- A written member. -/
def member (m : String × Value) : List Char :=
  l.lead ++ (textChars m.1 ++ ':' :: (l.gap ++ l.print m.2))

/-- Written members that come after another one. -/
def laterMembers (ms : List (String × Value)) : List Char :=
  ms.flatMap fun m => ',' :: l.member m

/-- Written members with commas between them. -/
def members : List (String × Value) → List Char
  | [] => []
  | m :: ms => l.member m ++ l.laterMembers ms

/-- A written object. -/
def object (ms : List (String × Value)) : List Char :=
  '\x7b' :: (l.members ms ++ (l.foot ++ ['\x7d']))

/-- Later members, or what closes the object, may follow a value. -/
theorem delimited_laterMembers (ms : List (String × Value)) (rest : List Char) :
    Delimited (l.laterMembers ms ++ (l.foot ++ '\x7d' :: rest)) := by
  cases ms with
  | nil => exact l.foot_delimited rest
  | cons m ms => simp [laterMembers, Delimited]

/-- Objects without blanks are in the compact layout. -/
theorem compact_object (ms : List (String × Value)) :
    (Value.object ms).compactChars = compact.object ms := by
  have hmembers (ms : List (String × Value)) : Value.compactMembers ms = compact.members ms := by
    induction ms with
    | nil => simp [Value.compactMembers, members]
    | cons m ms ih =>
      cases ms with
      | nil => simp [Value.compactMembers, members, laterMembers, member, compact]
      | cons m' ms => simp [Value.compactMembers, ih, members, laterMembers, member, compact]
  simp [Value.compactChars, hmembers, object, compact]

/-- Objects with members are in the indented layout. -/
theorem indented_object (depth : Nat) (m : String × Value) (ms : List (String × Value)) :
    (Value.object (m :: ms)).indentedChars depth = (indented depth).object (m :: ms) := by
  have hmembers (ms : List (String × Value)) :
      Value.indentedMembers (depth + 1) ms = (indented depth).members ms := by
    induction ms with
    | nil => simp [Value.indentedMembers, members]
    | cons m ms ih =>
      cases ms with
      | nil => simp [Value.indentedMembers, members, laterMembers, member, indented]
      | cons m' ms => simp [Value.indentedMembers, ih, members, laterMembers, member, indented]
  simp [Value.indentedChars, hmembers, object, indented]

variable {l}

/-- A string is read back. -/
theorem reads_text (wanted s : String) : (Reader.text wanted).Reads (l.print (.text s)) s :=
  l.print_text s ▸ Reader.reads_text wanted s

/-- A string that may be missing is read back. -/
theorem reads_text? (wanted : String) (s : Option String) :
    (Reader.text wanted).optional.Reads (l.print (.ofText? s)) s := by
  cases s with
  | none => exact l.print_null ▸ Reader.reads_null _
  | some s =>
    exact l.print_text s ▸ Reader.reads_some (Reader.reads_text wanted s)
      (startsValue_textChars s)

/-- A whole number that may be missing is read back if it fits in 64 bits. -/
theorem reads_nat? {n : Option Nat} (h : ∀ k ∈ n, k < wordLimit) :
    Reader.natural.optional.Reads (l.print (.ofNat? n)) n := by
  cases n with
  | none => exact l.print_null ▸ Reader.reads_null _
  | some n =>
    exact l.print_natural n ▸ Reader.reads_some (Reader.reads_natural (h n rfl))
      (startsValue_toDigits n)

end Layout

/-! ### Records -/

namespace Fields

variable {ts : List Type}

/-- The names of the fields. -/
def names : {ts : List Type} → Fields ts → List String
  | _, nil => []
  | _, cons field fields => field.name :: fields.names

/-- The members are fields in their order, each read back as the value of its field. A field that is
left out has the value that it has when it is absent. -/
inductive Writes (l : Layout) :
    {ts : List Type} → Fields ts → Values ts → List (String × Value) → Prop where
  | nil : Writes l nil () []
  | member {α : Type} {ts : List Type} {field : Field α} {fields : Fields ts} {a : α}
    {as : Values ts} {v : Value}
    {ms : List (String × Value)} (hreads : field.value.Reads (l.print v) a)
      (hrest : Writes l fields as ms) :
    Writes l (cons field fields) (a, as) ((field.name, v) :: ms)
  | omitted {α : Type} {ts : List Type} {field : Field α} {fields : Fields ts} {a : α}
    {as : Values ts}
    {ms : List (String × Value)} (habsent : field.absent = some a)
      (hrest : Writes l fields as ms) :
    Writes l (cons field fields) (a, as) ms

/-- The slots of which those with these keys are filled with values. -/
def slots : {ts : List Type} → Fields ts → Values ts → List String → Slots ts
  | _, nil, _, _ => ()
  | _, cons field fields, (a, as), keys =>
    (if field.name ∈ keys then some a else none, fields.slots as keys)

variable {l : Layout} {fields : Fields ts} {as : Values ts} {ms : List (String × Value)}
  {keys : List String}

/-- The keys are names of fields, in their order. -/
theorem Writes.sublist_names (h : fields.Writes l as ms) :
    (ms.map Prod.fst).Sublist fields.names := by
  induction h with
  | nil => exact .slnil
  | member _ _ ih => exact ih.cons_cons _
  | omitted _ _ ih => exact ih.cons _

/-- At first no slot is filled. -/
theorem slots_nil (fields : Fields ts) (as : Values ts) : fields.slots as [] = Slots.empty ts := by
  induction fields with
  | nil => rfl
  | cons field fields ih =>
    obtain ⟨a, as⟩ := as
    exact congrArg (Prod.mk none) (ih as)

/-- A key that is none of the names fills no slot. -/
theorem slots_cons_of_notMem {key : String} (h : key ∉ fields.names) :
    fields.slots as (key :: keys) = fields.slots as keys := by
  induction fields with
  | nil => rfl
  | cons field fields ih =>
    obtain ⟨a, as⟩ := as
    obtain ⟨hne, hrest⟩ := not_or.mp (mt List.mem_cons.mpr h)
    simp only [slots, List.mem_cons, Ne.symm hne, false_or, ih hrest]
    rfl

/-- When the slots of all members are filled, they and the fields that are left out give the
values. -/
theorem complete_slots (h : fields.Writes l as ms) (hnames : fields.names.Nodup)
    (hkeys : ∀ name ∈ fields.names, name ∈ keys ↔ name ∈ ms.map Prod.fst) :
    fields.complete (fields.slots as keys) = .ok as := by
  induction h with
  | nil => rfl
  | @member _ _ field fields a as v ms _ _ ih =>
    obtain ⟨hnew, hnames⟩ := List.nodup_cons.mp hnames
    have hmem : field.name ∈ keys := (hkeys _ List.mem_cons_self).mpr List.mem_cons_self
    -- The later names are other names, so what is known of the keys is true without the first
    -- member.
    have hlater (name : String) (hname : name ∈ fields.names) :
        name ∈ keys ↔ name ∈ ms.map Prod.fst := by
      have hne : name ≠ field.name := fun heq => hnew (heq ▸ hname)
      rw [hkeys name (List.mem_cons_of_mem _ hname), List.map_cons, List.mem_cons]
      exact or_iff_right hne
    simp only [slots, complete, if_pos hmem, Option.some_or, ih hnames hlater]
    rfl
  | @omitted _ _ field fields a as ms habsent hrest ih =>
    obtain ⟨hnew, hnames⟩ := List.nodup_cons.mp hnames
    have hmem : field.name ∉ keys := fun hkey =>
      hnew (hrest.sublist_names.subset ((hkeys _ List.mem_cons_self).mp hkey))
    have hlater (name : String) (hname : name ∈ fields.names) :
        name ∈ keys ↔ name ∈ ms.map Prod.fst :=
      hkeys name (List.mem_cons_of_mem _ hname)
    simp only [slots, complete, if_neg hmem, Option.none_or, habsent, ih hnames hlater]
    rfl

/-- A member that goes to a later field leaves the slot of the first one. -/
theorem readMember_cons {α : Type} {field : Field α} {a : α} {key : String} {s rest : List Char}
    (hne : key ≠ field.name) (hread : fields.readMember key.toList (fields.slots as keys) s =
      .ok (fields.slots as (key :: keys), rest)) :
    (cons field fields).readMember key.toList ((cons field fields).slots (a, as) keys) s =
      .ok ((cons field fields).slots (a, as) (key :: keys), rest) := by
  have hkey : key.toList ≠ field.name.toList := fun heq => hne (String.toList_inj.mp heq)
  have hslot : field.name ∈ key :: keys ↔ field.name ∈ keys := by
    rw [List.mem_cons]
    exact or_iff_right hne.symm
  simp only [readMember, slots, if_neg hkey, hread, hslot]
  rfl

/-- A member that was not read yet fills its slot. -/
theorem readMember_slots (h : fields.Writes l as ms) (hnames : fields.names.Nodup)
    {m : String × Value} (hm : m ∈ ms) (hnew : m.1 ∉ keys) {rest : List Char}
    (hrest : Delimited rest) :
    fields.readMember m.1.toList (fields.slots as keys) (':' :: (l.gap ++ (l.print m.2 ++ rest))) =
      .ok (fields.slots as (m.1 :: keys), rest) := by
  induction h with
  | nil => cases hm
  | @member _ _ field fields a as v ms hreads hwrites ih =>
    obtain ⟨hother, hnames⟩ := List.nodup_cons.mp hnames
    rcases List.mem_cons.mp hm with rfl | hm
    · have hcolon : readColon (':' :: (l.gap ++ (l.print v ++ rest))) =
          .ok (l.gap ++ (l.print v ++ rest)) := by
        simp only [readColon, skipSpace_cons (c := ':') rfl]
      simp only [readMember, slots, ↓reduceIte, if_neg hnew, hcolon,
        hreads _ _ l.gap_blank hrest, Except.map, List.mem_cons_self, slots_cons_of_notMem hother]
    · -- The key is the name of a later field, so the first one passes it on.
      have hmem : m.1 ∈ fields.names := hwrites.sublist_names.subset (List.mem_map_of_mem hm)
      exact readMember_cons (fun heq => hother (heq ▸ hmem)) (ih hnames hm)
  | @omitted _ _ field fields a as ms _ hwrites ih =>
    obtain ⟨hother, hnames⟩ := List.nodup_cons.mp hnames
    have hmem : m.1 ∈ fields.names := hwrites.sublist_names.subset (List.mem_map_of_mem hm)
    exact readMember_cons (fun heq => hother (heq ▸ hmem)) (ih hnames hm)

/-- A later member is found after a comma. -/
theorem nextKey_comma (l : Layout) (m : String × Value) (rest : List Char) :
    nextKey false (',' :: (l.member m ++ rest)) =
      .ok (some (m.1.toList, ':' :: (l.gap ++ (l.print m.2 ++ rest)))) := by
  have hcomma : skipSpace (',' :: (l.member m ++ rest)) = ',' :: (l.member m ++ rest) :=
    skipSpace_cons rfl _
  have hkey : skipSpace (l.member m ++ rest) =
      '"' :: (m.1.toList.flatMap escapeChar ++
        '"' :: (':' :: (l.gap ++ (l.print m.2 ++ rest)))) := by
    rw [Layout.member, List.append_assoc, skipSpace_append l.lead_blank, List.append_assoc,
      textChars_append, skipSpace_cons rfl]
    simp
  simp only [nextKey, hcomma, hkey, readText_escaped, Char.reduceEq, ↓reduceIte,
    Bool.false_eq_true]
  rfl

/-- The members that are left fill their slots. -/
theorem readMembers_slots (h : fields.Writes l as ms) (hnames : fields.names.Nodup)
    {left : List (String × Value)} (hleft : left.Sublist ms) (hnew : ∀ m ∈ left, m.1 ∉ keys)
    (rest : List Char) :
    fields.readMembers false (fields.slots as keys)
      (l.laterMembers left ++ (l.foot ++ '\x7d' :: rest)) =
      .ok (fields.slots as ((left.map Prod.fst).reverse ++ keys), l.foot ++ '\x7d' :: rest) := by
  induction left generalizing keys with
  | nil => exact readMembers_of_end (nextKey_close l.foot_blank false rest)
  | cons m left ih =>
    have hm : m ∈ ms := hleft.subset List.mem_cons_self
    have hfill :=
      readMember_slots h hnames hm (hnew m List.mem_cons_self) (l.delimited_laterMembers left rest)
    -- No name comes twice, so the slots of the members after this one are still empty.
    have hlater : ∀ m' ∈ left, m'.1 ∉ m.1 :: keys := by
      have hnodup : ((m :: left).map Prod.fst).Nodup :=
        hnames.sublist ((hleft.map Prod.fst).trans h.sublist_names)
      intro m' hm' hkey
      rcases List.mem_cons.mp hkey with heq | hkey
      · exact (List.nodup_cons.mp hnodup).1 (heq ▸ List.mem_map_of_mem hm')
      · exact hnew m' (List.mem_cons_of_mem _ hm') hkey
    have htext : l.laterMembers (m :: left) ++ (l.foot ++ '\x7d' :: rest) =
        ',' :: (l.member m ++ (l.laterMembers left ++ (l.foot ++ '\x7d' :: rest))) := by
      simp [Layout.laterMembers]
    rw [htext, readMembers_of_member (nextKey_comma l m _) hfill,
      ih ((List.sublist_cons_self m left).trans hleft) hlater,
      List.map_cons, List.reverse_cons, List.append_assoc]
    rfl

/-- All members of an object fill their slots, from the first one on. -/
theorem readMembers_members (h : fields.Writes l as ms) (hnames : fields.names.Nodup)
    (rest : List Char) :
    fields.readMembers true (Slots.empty ts) (l.members ms ++ (l.foot ++ '\x7d' :: rest)) =
      .ok (fields.slots as (ms.map Prod.fst).reverse, l.foot ++ '\x7d' :: rest) := by
  rw [← slots_nil fields as]
  cases ms with
  | nil => exact readMembers_of_end (nextKey_close l.foot_blank true rest)
  | cons m ms =>
    -- The first member has no comma before it, so it is none of those that `readMembers_slots` is
    -- about.
    have hfirst := readMember_slots h hnames List.mem_cons_self List.not_mem_nil
      (l.delimited_laterMembers ms rest)
    have hkey := nextKey_textChars l.lead_blank m.1
      (':' :: (l.gap ++ (l.print m.2 ++ (l.laterMembers ms ++ (l.foot ++ '\x7d' :: rest)))))
    have htext : l.members (m :: ms) ++ (l.foot ++ '\x7d' :: rest) =
        l.lead ++ (textChars m.1 ++ ':' :: (l.gap ++ (l.print m.2 ++
          (l.laterMembers ms ++ (l.foot ++ '\x7d' :: rest))))) := by
      simp [Layout.members, Layout.member]
    have hnodup : ((m :: ms).map Prod.fst).Nodup := hnames.sublist h.sublist_names
    have hlater : ∀ m' ∈ ms, m'.1 ∉ [m.1] := by
      intro m' hm' hkey
      exact (List.nodup_cons.mp hnodup).1 (List.mem_singleton.mp hkey ▸ List.mem_map_of_mem hm')
    rw [htext, readMembers_of_member hkey hfirst,
      readMembers_slots h hnames (List.sublist_cons_self m ms) hlater, List.map_cons,
        List.reverse_cons]

end Fields

namespace RecordShape

variable {R : Type} {shape : RecordShape R} {l : Layout} {as : Values shape.types}
  {ms : List (String × Value)}

/-- A record is read back from an object with its fields as members. -/
theorem reads_object (hwrites : shape.fields.Writes l as ms) (hnames : shape.fields.names.Nodup) :
    shape.reader.Reads (l.object ms) (shape.build as) := by
  intro blanks rest hblanks _
  have hcomplete :
      shape.fields.complete (shape.fields.slots as (ms.map Prod.fst).reverse) = .ok as :=
    Fields.complete_slots hwrites hnames fun _ _ => List.mem_reverse
  have hblank : shape.reader.run (blanks ++ (l.object ms ++ rest)) =
      shape.reader.run (l.object ms ++ rest) := by
    simp only [reader, skipSpace_append hblanks]
  have htext : l.object ms ++ rest = '\x7b' :: (l.members ms ++ (l.foot ++ '\x7d' :: rest)) := by
    simp [Layout.object]
  rw [hblank, htext]
  exact run_of_members (Fields.readMembers_members hwrites hnames rest) hcomplete
    (endObject_close l.foot_blank rest)

/-- A record that is written without blanks is read back. -/
theorem decode_compact (hwrites : shape.fields.Writes .compact as ms)
    (hnames : shape.fields.names.Nodup) :
    shape.reader.decode (Value.object ms).compact = .ok (shape.build as) := by
  rw [Value.compact, Layout.compact_object]
  exact Reader.decode_of_reads (reads_object hwrites hnames)

/-- A record that is written with a line for each member is read back. -/
theorem decode_indented {m : String × Value}
    (hwrites : shape.fields.Writes (.indented 0) as (m :: ms)) (hnames : shape.fields.names.Nodup) :
    shape.reader.decode (Value.object (m :: ms)).indented = .ok (shape.build as) := by
  rw [Value.indented, Layout.indented_object]
  exact Reader.decode_of_reads (reads_object hwrites hnames)

end RecordShape

end NewsReader.Json
