import NewsReader.Json.Wire
import NewsReader.Proofs.Decimal.Bounds

/-!
# Which faults a reader can have

A text is read by small functions that are put together, and a fault of the whole is a fault of one
of them. Most of them know only malformed texts and texts that break off. So whatever is true of
these faults, of those that name what stands in place of something wanted, and of the few that a
record adds, is true of every fault of a reader.

* `FailsWith` — the faults of a result are among some.
* `FailsWith.readText` and its like — what cannot be scanned is malformed or breaks off.
* `FailsWith.otherKind` — what stands in place of something wanted is named, or cannot be read
  itself.
* `Reader.FailsWith.list` and its like — the faults of readers that are put together.
* `RecordShape.failsWith_reader` — the faults of a record.
-/

namespace NewsReader.Json

/-- If there is no result, the fault is one of these. -/
def FailsWith {α : Type} (P : Fault → Prop) (x : Except Fault α) : Prop :=
  ∀ fault, x = .error fault → P fault

/-- The fault says only that the text is malformed or breaks off. -/
def Fault.IsBroken (fault : Fault) : Prop :=
  fault.category ≠ .mismatched

instance : DecidablePred Fault.IsBroken := fun fault =>
  inferInstanceAs (Decidable (fault.category ≠ .mismatched))

namespace FailsWith

variable {α β : Type} {P Q : Fault → Prop} {x : Except Fault α}

/-- There is a result. -/
theorem ok (a : α) : FailsWith P (.ok a) := by
  intro fault h
  cases h

/-- There is this fault. -/
theorem error {fault : Fault} (h : P fault) : FailsWith P (.error fault : Except Fault α) := by
  rintro _ ⟨⟩
  exact h

/-- The text is malformed or breaks off. -/
theorem broken {fault : Fault} (h : fault.IsBroken) :
    FailsWith Fault.IsBroken (.error fault : Except Fault α) :=
  error h

/-- A result that is changed fails as before. -/
theorem map (h : FailsWith P x) (f : α → β) : FailsWith P (x.map f) := by
  cases x with
  | error fault => exact error (h fault rfl)
  | ok a => exact ok (f a)

/-- The fault is one of more. -/
theorem mono (h : FailsWith P x) (himp : ∀ fault, P fault → Q fault) : FailsWith Q x :=
  fun fault hx => himp fault (h fault hx)

/-! ### Scanning -/

variable (s : List Char)

/-- A word breaks off or is another one. -/
theorem readWord (ws : List Char) : FailsWith Fault.IsBroken (readWord ws s) := by
  induction ws generalizing s with
  | nil => exact ok s
  | cons w ws ih =>
    cases s with
    | nil => exact broken (by decide)
    | cons c s =>
      unfold Json.readWord
      split
      · exact ih s
      · exact broken (by decide)

/-- Four hexadecimal digits break off or are others. -/
theorem readHex : FailsWith Fault.IsBroken (readHex s) := by
  unfold Json.readHex
  split
  · split
    · exact ok _
    · exact broken (by decide)
  · split <;> exact broken (by decide)

/-- The second half of a pair is missing or malformed. -/
theorem readLowSurrogate (high : Nat) : FailsWith Fault.IsBroken (readLowSurrogate high s) := by
  unfold Json.readLowSurrogate
  split
  · exact broken (by decide)
  · exact broken (by decide)
  · split
    · next h => exact error (readHex _ _ h)
    · split
      · exact ok _
      · exact broken (by decide)
  · exact broken (by decide)

/-- A character that is written by number is malformed. -/
theorem readByNumber : FailsWith Fault.IsBroken (readByNumber s) := by
  unfold Json.readByNumber
  split
  · next h => exact error (readHex _ _ h)
  · split
    · exact broken (by decide)
    · split
      · exact readLowSurrogate _ _
      · exact ok _

/-- Nothing that can be escaped follows a backslash. -/
theorem readEscape : FailsWith Fault.IsBroken (readEscape s) := by
  unfold Json.readEscape
  split
  · exact broken (by decide)
  · exact readByNumber _
  · split
    · exact ok _
    · exact broken (by decide)

/-- A string breaks off or is malformed. -/
theorem readText : FailsWith Fault.IsBroken (readText s) := by
  fun_induction Json.readText s with
  | case1 => exact broken (by decide)
  | case2 => exact ok _
  | case3 s fault h => exact error (readEscape s fault h)
  | case4 s d rest h _ ih => exact ih.map _
  | case5 => exact broken (by decide)
  | case6 c s _ _ _ ih => exact ih.map _

/-- What follows a backslash cannot be passed over. -/
theorem skipEscape : FailsWith Fault.IsBroken (skipEscape s) := by
  unfold Json.skipEscape
  split
  · exact broken (by decide)
  · exact (readHex _).map _
  · split
    · exact ok _
    · exact broken (by decide)

/-- A string cannot be passed over. -/
theorem skipText : FailsWith Fault.IsBroken (skipText s) := by
  fun_induction Json.skipText s with
  | case1 => exact broken (by decide)
  | case2 => exact ok _
  | case3 s fault h => exact error (skipEscape s fault h)
  | case4 s rest h _ ih => exact ih
  | case5 => exact broken (by decide)
  | case6 c s _ _ _ ih => exact ih

/-- There are no digits. -/
theorem readDigits : FailsWith Fault.IsBroken (readDigits s) := by
  unfold Json.readDigits
  split
  · exact broken (by decide)
  · split
    · exact ok _
    · exact broken (by decide)

/-- The whole part is malformed. -/
theorem readWhole : FailsWith Fault.IsBroken (readWhole s) := by
  unfold Json.readWhole
  split
  · next h => exact error (readDigits _ _ h)
  · split
    · exact broken (by decide)
    · exact ok _

/-- The places are malformed. -/
theorem readPlaces : FailsWith Fault.IsBroken (readPlaces s) := by
  unfold Json.readPlaces
  split
  · exact (readDigits _).map _
  · exact ok _

/-- The exponent is malformed. -/
theorem readExponent : FailsWith Fault.IsBroken (readExponent s) := by
  unfold Json.readExponent
  split
  · exact ok _
  · split
    · exact (readDigits _).map _
    · exact ok _

/-- One part after the other fails if one of them does. -/
theorem bind {f : α → Except Fault β} (h : FailsWith P x) (hf : ∀ a, FailsWith P (f a)) :
    FailsWith P (x >>= f) := by
  cases x with
  | error fault => exact error (h fault rfl)
  | ok a => exact hf a

/-- The parts of a number are malformed. -/
theorem readNumberText : FailsWith Fault.IsBroken (readNumberText s) := by
  unfold Json.readNumberText
  refine (readWhole _).bind fun whole => ?_
  refine (readPlaces _).bind fun places => ?_
  exact (readExponent _).bind fun exponent => ok _

/-- A number with 53 bits is too large. -/
theorem realNumber (minus : Bool) (n : Nat) (shift : Int) :
    FailsWith Fault.IsBroken (realNumber minus n shift) := by
  unfold Json.realNumber
  split
  · exact ok _
  · exact broken (by decide)

/-- A written number is too large. -/
theorem value (t : NumberText) : FailsWith Fault.IsBroken t.value := by
  simp only [NumberText.value]
  split
  · unfold wholeNumber
    split
    · split
      · exact ok _
      · exact realNumber _ _ _
    · exact ok _
  · exact realNumber _ _ _

/-- A number is malformed or too large. -/
theorem readNumber : FailsWith Fault.IsBroken (readNumber s) := by
  unfold Json.readNumber
  refine (readNumberText s).bind fun read => ?_
  exact (value read.1).bind fun n => ok _

/-- A number cannot be passed over. -/
theorem skipNumber : FailsWith Fault.IsBroken (skipNumber s) := by
  unfold Json.skipNumber
  split
  · exact broken (by decide)
  · exact ok _

/-- There is no colon. -/
theorem readColon : FailsWith Fault.IsBroken (readColon s) := by
  unfold Json.readColon
  split
  · exact broken (by decide)
  · exact ok _
  · exact broken (by decide)

/-- A key cannot be passed over. -/
theorem skipKey : FailsWith Fault.IsBroken (skipKey s) := by
  unfold Json.skipKey
  split
  · exact broken (by decide)
  · split
    · next h => exact error (skipText _ _ h)
    · exact readColon _
  · exact broken (by decide)

/-- What is open is not closed as it should be. -/
theorem settle (stack : List Bracket) (afterValue : Bool) :
    FailsWith Fault.IsBroken (settle stack afterValue s) := by
  induction stack generalizing afterValue s with
  | nil => exact ok _
  | cons b outer ih =>
    -- What goes on in a list is told at once; in an object a key comes first, which can break off.
    cases b with
    | list =>
      unfold Json.settle
      split
      · exact broken (by decide)
      · split
        · exact ih _ _
        · split
          · exact ok _
          · split
            · exact ok _
            · exact broken (by decide)
    | object =>
      unfold Json.settle
      split
      · exact broken (by decide)
      · split
        · exact ih _ _
        · split
          · exact (skipKey _).map _
          · split
            · exact (skipKey _).map _
            · exact broken (by decide)

/-- No value can start here, or it cannot be passed over. -/
theorem skipStart : FailsWith Fault.IsBroken (skipStart s) := by
  unfold Json.skipStart
  split
  · exact broken (by decide)
  · repeat' split
    · exact (readWord _ _).map _
    · exact (readWord _ _).map _
    · exact (readWord _ _).map _
    · exact (skipText _).map _
    · exact (skipNumber _).map _
    · exact ok _
    · exact ok _
    · exact broken (by decide)

/-- A value cannot be passed over. -/
theorem skipFrom (stack : List Bracket) : FailsWith Fault.IsBroken (skipFrom stack s) := by
  fun_induction Json.skipFrom stack s with
  | case1 stack s fault h => exact error (skipStart _ fault h)
  | case2 stack s opened rest h fault h' => exact error (settle _ _ _ fault h')
  | case3 => exact ok _
  | case4 stack s opened rest h b outer rest' h' ih => exact ih

/-- There is neither another element nor the end of the list. -/
theorem nextElement (first : Bool) : FailsWith Fault.IsBroken (nextElement first s) := by
  unfold Json.nextElement
  split
  · exact broken (by decide)
  · split
    · exact ok _
    · split
      · exact ok _
      · split
        · split
          · exact broken (by decide)
          · exact broken (by decide)
          · exact ok _
        · exact broken (by decide)

/-- The list does not end here. -/
theorem endList : FailsWith Fault.IsBroken (endList s) := by
  unfold Json.endList
  split
  · exact broken (by decide)
  · exact ok _
  · split <;> exact broken (by decide)
  · exact broken (by decide)

/-- There is neither another member nor the end of the object. -/
theorem nextKey (first : Bool) : FailsWith Fault.IsBroken (nextKey first s) := by
  unfold Json.nextKey
  dsimp only
  split
  · exact broken (by decide)
  · split
    · exact ok _
    · split
      · split
        · exact broken (by decide)
        · exact (readText _).map _
        · exact broken (by decide)
        · exact broken (by decide)
      · split
        · split
          · exact broken (by decide)
          · exact (readText _).map _
          · exact broken (by decide)
          · exact broken (by decide)
        · exact broken (by decide)

/-- The object does not end here. -/
theorem endObject : FailsWith Fault.IsBroken (endObject s) := by
  unfold Json.endObject
  split
  · exact broken (by decide)
  · exact ok _
  · exact broken (by decide)
  · exact broken (by decide)

end FailsWith

/-! ### Readers -/

/-- What stands there is something that can be read. -/
def Found.Fits : Found → Prop
  | number n => n.Fits
  | _ => True

/-- What stands in place of something wanted is named, unless it cannot be read itself. -/
theorem otherKind_cases (wanted : String) (s : List Char) :
    (otherKind wanted s).IsBroken ∨
      ∃ found : Found, found.Fits ∧ otherKind wanted s = .wrongKind found wanted := by
  cases s with
  | nil => exact .inl (by decide : (Fault.ended .value).IsBroken)
  | cons c rest =>
    unfold otherKind
    dsimp only
    -- The first character tells what stands there. Words, numbers and strings can break off.
    split
    · split
      · exact .inr ⟨.null, trivial, rfl⟩
      · next h => exact .inl (FailsWith.readWord _ _ _ h)
    · split
      · split
        · exact .inr ⟨.bool true, trivial, rfl⟩
        · next h => exact .inl (FailsWith.readWord _ _ _ h)
      · split
        · split
          · exact .inr ⟨.bool false, trivial, rfl⟩
          · next h => exact .inl (FailsWith.readWord _ _ _ h)
        · split
          · split
            · next h => exact .inr ⟨.number _, fits_of_readNumber h, rfl⟩
            · next h => exact .inl (FailsWith.readNumber _ _ h)
          · split
            · split
              · exact .inr ⟨.text _, trivial, rfl⟩
              · next h => exact .inl (FailsWith.readText _ _ h)
            · split
              · exact .inr ⟨.list, trivial, rfl⟩
              · split
                · exact .inr ⟨.object, trivial, rfl⟩
                · exact .inl (by decide)

/-- The faults of a reader are among some. -/
def Reader.FailsWith {α : Type} (P : Fault → Prop) (item : Reader α) : Prop :=
  ∀ s, Json.FailsWith P (item.run s)

section

variable {α β : Type} {P : Fault → Prop} {item : Reader α} {wanted : String}

/-- Something else stands where something is wanted. -/
theorem of_otherKind (hbroken : ∀ fault, fault.IsBroken → P fault)
    (hwanted : ∀ found : Found, found.Fits → P (.wrongKind found wanted)) (s : List Char) :
    P (otherKind wanted s) := by
  rcases otherKind_cases wanted s with h | ⟨found, hfits, h⟩
  · exact hbroken _ h
  · rw [h]
    exact hwanted found hfits

namespace Reader

/-- The faults of strings. -/
theorem failsWith_text (hbroken : ∀ fault, fault.IsBroken → P fault)
    (hwanted : ∀ found : Found, found.Fits → P (.wrongKind found wanted)) :
    (text wanted).FailsWith P := by
  intro s
  unfold text
  dsimp only
  split
  · exact ((FailsWith.readText _).mono hbroken).map _
  · exact .error (of_otherKind hbroken hwanted _)

/-- The faults of whole numbers. -/
theorem failsWith_natural (hbroken : ∀ fault, fault.IsBroken → P fault)
    (hwanted : ∀ found : Found, found.Fits → P (.wrongKind found "u64"))
    (hbelow : ∀ n, (Number.negative n).Fits → P (.belowZero n "u64")) :
    natural.FailsWith P := by
  intro s
  unfold natural
  dsimp only
  split
  · exact .error (hbroken _ (by decide))
  · split
    · split
      · exact .ok _
      · next h => exact .error (hbelow _ (fits_of_readNumber h))
      · next n rest _ _ h => exact .error (hwanted (.number n) (fits_of_readNumber h))
      · next h => exact .error (hbroken _ (FailsWith.readNumber _ _ h))
    · exact .error (of_otherKind hbroken hwanted _)

/-- The faults of values that may be `null`. -/
theorem FailsWith.optional (h : item.FailsWith P)
    (hbroken : ∀ fault, fault.IsBroken → P fault) : item.optional.FailsWith P := by
  intro s
  unfold Reader.optional
  dsimp only
  split
  · exact ((Json.FailsWith.readWord _ _).mono hbroken).map _
  · exact (h _).map _

/-- The faults of values that are read from others. -/
theorem FailsWith.filterMap {f : α → Except Fault β} (h : item.FailsWith P)
    (hf : ∀ a, Json.FailsWith P (f a)) : (item.filterMap f).FailsWith P := by
  intro s
  unfold Reader.filterMap
  dsimp only
  split
  · next hitem => exact .error (h _ _ hitem)
  · exact (hf _).map _

/-- The faults of elements. -/
theorem FailsWith.elements (h : item.FailsWith P) (hbroken : ∀ fault, fault.IsBroken → P fault)
    (first : Bool) (s : List Char) : Json.FailsWith P (item.elements first s) := by
  fun_induction Reader.elements item first s with
  | case1 first s fault hnext =>
    exact .error (hbroken _ (Json.FailsWith.nextElement s first fault hnext))
  | case2 => exact .ok _
  | case3 first s s' _ fault hitem => exact .error (h s' fault hitem)
  | case4 first s s' _ a rest _ ih => exact ih.map _

/-- The faults of lists. -/
theorem FailsWith.list (h : item.FailsWith P) (hbroken : ∀ fault, fault.IsBroken → P fault)
    (hwanted : ∀ found : Found, found.Fits → P (.wrongKind found "a sequence")) :
    item.list.FailsWith P := by
  intro s
  unfold Reader.list
  dsimp only
  split
  · split
    · next helements => exact .error (h.elements hbroken _ _ _ helements)
    · exact ((Json.FailsWith.endList _).mono hbroken).map _
  · exact .error (of_otherKind hbroken hwanted _)

/-- The faults of whole texts. -/
theorem FailsWith.decode (h : item.FailsWith P) (hbroken : ∀ fault, fault.IsBroken → P fault)
    (s : String) : Json.FailsWith P (item.decode s) := by
  unfold Reader.decode decodeChars
  split
  · next hitem => exact .error (h _ _ hitem)
  · split
    · exact .ok _
    · exact .error (hbroken _ (by decide))

end Reader

/-! ### Records -/

/-- The faults that a record has for its fields are among some. -/
def Fields.FailsWith (P : Fault → Prop) : {ts : List Type} → Fields ts → Prop
  | _, nil => True
  | _, cons field fields =>
    field.value.FailsWith P ∧ P (.missing field.name) ∧ P (.repeated field.name) ∧
      fields.FailsWith P

namespace Fields

variable {ts : List Type} {fields : Fields ts}

/-- The faults of a member. -/
theorem FailsWith.readMember (h : fields.FailsWith P)
    (hbroken : ∀ fault, fault.IsBroken → P fault) (key : List Char) (slots : Slots ts)
    (s : List Char) : Json.FailsWith P (fields.readMember key slots s) := by
  induction fields with
  | nil =>
    unfold Fields.readMember
    split
    · next hcolon => exact .error (hbroken _ (Json.FailsWith.readColon _ _ hcolon))
    · exact ((Json.FailsWith.skipFrom _ _).mono hbroken).map _
  | cons field fields ih =>
    obtain ⟨hvalue, -, hrepeated, hrest⟩ := h
    obtain ⟨slot, slots⟩ := slots
    simp only [Fields.readMember]
    split
    · -- The key is the one of the field, which must not have been read yet.
      split
      · exact .error hrepeated
      · next hcolon => exact .error (hbroken _ (Json.FailsWith.readColon _ _ hcolon))
      · exact (hvalue _).map _
    · exact (ih hrest slots).map _

/-- The faults of members. -/
theorem FailsWith.readMembers (h : fields.FailsWith P)
    (hbroken : ∀ fault, fault.IsBroken → P fault) (first : Bool) (slots : Slots ts)
    (s : List Char) : Json.FailsWith P (fields.readMembers first slots s) := by
  fun_induction Fields.readMembers fields first slots s with
  | case1 first slots s fault hnext =>
    exact .error (hbroken _ (Json.FailsWith.nextKey s first fault hnext))
  | case2 => exact .ok _
  | case3 first slots s key s' _ fault hmember =>
    exact .error (h.readMember hbroken key slots s' fault hmember)
  | case4 first slots s key s' _ slots' rest _ ih => exact ih

/-- The faults of slots that are empty. -/
theorem FailsWith.complete (h : fields.FailsWith P) (slots : Slots ts) :
    Json.FailsWith P (fields.complete slots) := by
  induction fields with
  | nil => exact .ok _
  | cons field fields ih =>
    obtain ⟨-, hmissing, -, hrest⟩ := h
    obtain ⟨slot, slots⟩ := slots
    simp only [Fields.complete]
    split
    · exact .error hmissing
    · exact (ih hrest slots).map _

/-- The faults of fields in a list. -/
theorem FailsWith.readElements (h : fields.FailsWith P)
    (hbroken : ∀ fault, fault.IsBroken → P fault) (first : Nat)
    (hfew : ∀ count, count < first + fields.count → P (.tooFew count wanted)) (s : List Char) :
    Json.FailsWith P (fields.readElements wanted first s) := by
  induction fields generalizing first s with
  | nil => exact .ok _
  | cons field fields ih =>
    obtain ⟨hvalue, -, -, hrest⟩ := h
    -- The fields that are left count from one further on.
    have hlater : ∀ count, count < first + 1 + fields.count → P (.tooFew count wanted) := by
      intro count hcount
      refine hfew count ?_
      rw [Fields.count]
      omega
    unfold Fields.readElements
    split
    · next hnext => exact .error (hbroken _ (Json.FailsWith.nextElement _ _ _ hnext))
    · refine .error (hfew first ?_)
      rw [Fields.count]
      omega
    · exact (ih hrest _ hlater _).map _
    · split
      · next hfield => exact .error (hvalue _ _ hfield)
      · exact (ih hrest _ hlater _).map _

end Fields

/-- The faults of a record. -/
theorem RecordShape.failsWith_reader {R : Type} {shape : RecordShape R}
    (h : shape.fields.FailsWith P) (hbroken : ∀ fault, fault.IsBroken → P fault)
    (hwanted : ∀ found : Found, found.Fits → P (.wrongKind found shape.wanted))
    (hfew : ∀ count, count < shape.fields.count → P (.tooFew count shape.wantedLength)) :
    shape.reader.FailsWith P := by
  intro s
  unfold RecordShape.reader
  dsimp only
  split
  · unfold readList
    split
    · next helements =>
      exact .error (h.readElements hbroken 0 (by simpa using hfew) _ _ helements)
    · exact ((FailsWith.endList _).mono hbroken).map _
  · unfold readObject
    split
    · next hmembers => exact .error (h.readMembers hbroken _ _ _ _ hmembers)
    · split
      · next hcomplete => exact .error (h.complete _ _ hcomplete)
      · exact ((FailsWith.endObject _).mono hbroken).map _
  · exact .error (of_otherKind hbroken hwanted _)

end

end NewsReader.Json
