import NewsReader.Proofs.Json.Tree

/-!
# Trees are passed over, and nothing else is

A value that nobody wants is passed over with a list of the brackets that are open around it. A tree
of any depth is passed over from its first character to its last, so that what is open around it is
gone on with (`Stands.passedOver`). For the other direction, `Closes` says what has to follow a
value for all that is open to end.

* `skipFrom_of_stands` — a tree is passed over.
* `exists_of_skipFrom` — what is passed over is a tree.
-/

namespace NewsReader.Json

open Text (isDigit)

variable {t : Tree} {s rest : List Char}

/-! ### Passing over a tree -/

/-- Blanks before a colon make no difference. -/
theorem readColon_eq_ok_iff : readColon s = .ok rest ↔ skipSpace s = ':' :: rest := by
  unfold readColon
  constructor
  · intro h
    split at h
    · cases h
    · next hs =>
      obtain rfl := Except.ok.inj h
      exact hs
    · cases h
  · intro h
    simp only [h]

/-- A key is passed over with its colon. -/
theorem skipKey_eq_ok_iff : skipKey s = .ok rest ↔
    ∃ raw s', skipSpace s = '"' :: (raw ++ '"' :: s') ∧ IsRaw raw ∧
      skipSpace s' = ':' :: rest := by
  unfold skipKey
  constructor
  · intro h
    split at h
    · cases h
    · next hs =>
      split at h
      · cases h
      · next s' htext =>
        obtain ⟨raw, rfl, hraw⟩ := skipText_eq_ok_iff.mp htext
        exact ⟨raw, s', hs, hraw, readColon_eq_ok_iff.mp h⟩
    · cases h
  · rintro ⟨raw, s', hs, hraw, hcolon⟩
    have htext : skipText (raw ++ '"' :: s') = .ok s' := skipText_eq_ok_iff.mpr ⟨raw, rfl, hraw⟩
    simp only [hs, htext]
    exact readColon_eq_ok_iff.mpr hcolon

/-- Go on inside of what is open. -/
def goOn (stack : List Bracket) (afterValue : Bool) (s : List Char) : Except Fault (List Char) :=
  match settle stack afterValue s with
  | .error fault => .error fault
  | .ok ([], rest) => .ok rest
  | .ok (b :: outer, rest) => skipFrom (b :: outer) rest

variable {stack : List Bracket} {opened : Option Bracket} {s' : List Char}

/-- After the start of a value, what is open is gone on with. -/
theorem skipFrom_of_skipStart (h : skipStart (skipSpace s) = .ok (opened, s')) :
    skipFrom stack s = goOn (opened.toList ++ stack) opened.isNone s' := by
  rw [skipFrom, goOn]
  -- The recursion keeps the equations of its matches, so that the matches cannot be rewritten.
  split
  · simp_all
  · next opened' s'' h' =>
    rw [h] at h'
    obtain ⟨rfl, rfl⟩ := Prod.mk.inj (Except.ok.inj h')
    split <;> simp_all

/-- The words are passed over. -/
theorem skipStart_word (w : Word) (rest : List Char) :
    skipStart (w.chars ++ rest) = .ok (none, rest) := by
  cases w <;> simp [skipStart, Word.chars, readWord, Except.map]

/-- A number is passed over. -/
theorem skipStart_number {parts : NumberText} {text : List Char} (h : parts.Writes text)
    (hstop : parts.StopsAt rest) : skipStart (text ++ rest) = .ok (none, rest) := by
  have hstands : Stands (.value (.number parts)) (text ++ rest) rest := .number h
  obtain ⟨c, s, hs, hstart⟩ := hstands.startsWith
  have hread := readNumberText_eq_ok_iff.mpr ⟨text, rfl, h, hstop⟩
  have hskip : skipNumber (text ++ rest) = .ok rest := by rw [skipNumber, hread]
  have hkind := hstart.kindOf_eq
  rw [hs] at hskip ⊢
  replace hstart : c = '-' ∨ isDigit c := hstart
  have hne : c ≠ 'n' ∧ c ≠ 't' ∧ c ≠ 'f' ∧ c ≠ '"' := by
    refine ⟨?_, ?_, ?_, ?_⟩ <;> rintro rfl <;> cases hkind
  simp only [skipStart, hne, hstart, hskip, ↓reduceIte]
  rfl

/-- A string is passed over. -/
theorem skipStart_text {raw : List Char} (h : IsRaw raw) (rest : List Char) :
    skipStart ('"' :: (raw ++ '"' :: rest)) = .ok (none, rest) := by
  have hskip : skipText (raw ++ '"' :: rest) = .ok rest := skipText_eq_ok_iff.mpr ⟨raw, rfl, h⟩
  simp [skipStart, hskip, Except.map]

/-- A list that ends is passed over. -/
theorem goOn_endList {afterValue : Bool} (h : skipSpace s = ']' :: rest) :
    goOn (.list :: stack) afterValue s = goOn stack true rest := by
  simp only [goOn, settle, h, ↓reduceIte]

/-- An object that ends is passed over. -/
theorem goOn_endObject {afterValue : Bool} (h : skipSpace s = '\x7d' :: rest) :
    goOn (.object :: stack) afterValue s = goOn stack true rest := by
  simp only [goOn, settle, h, ↓reduceIte]

/-- The next element is passed over. -/
theorem goOn_element {first : Bool} {mid : List Char} (stack : List Bracket)
    (hnext : NextAt first s s') (hvalue : Stands (.value t) (skipSpace s') mid) :
    ∃ s₀, skipSpace s₀ = skipSpace s' ∧
      goOn (.list :: stack) (!first) s = skipFrom (.list :: stack) s₀ := by
  cases first with
  | true =>
    obtain rfl : s = s' := hnext
    obtain ⟨c, s'', hs, hstart⟩ := hvalue.startsWith
    have hc : c ≠ ']' := by
      rintro rfl
      exact hstart.not_mem.2 (by simp)
    refine ⟨skipSpace s, skipSpace_skipSpace s, ?_⟩
    simp only [goOn, settle, hs, if_neg hc, Bool.not_true, Bool.not_false, ↓reduceIte]
  | false =>
    refine ⟨s', rfl, ?_⟩
    have hcomma : skipSpace s = ',' :: s' := hnext
    simp [goOn, settle, hcomma]

/-- The next member is passed over. -/
theorem goOn_member {first : Bool} {raw s₁ s₂ s₃ : List Char} (hnext : NextAt first s s₁)
    (hkey : skipSpace s₁ = '"' :: (raw ++ '"' :: s₂)) (hraw : IsRaw raw)
    (hcolon : skipSpace s₂ = ':' :: s₃) :
    goOn (.object :: stack) (!first) s = skipFrom (.object :: stack) s₃ := by
  have hskip : skipKey s₁ = .ok s₃ := skipKey_eq_ok_iff.mpr ⟨raw, s₂, hkey, hraw, hcolon⟩
  cases first with
  | true =>
    obtain rfl : s = s₁ := hnext
    have hskip' : skipKey ('"' :: (raw ++ '"' :: s₂)) = .ok s₃ :=
      skipKey_eq_ok_iff.mpr ⟨raw, s₂, skipSpace_cons rfl _, hraw, hcolon⟩
    simp [goOn, settle, hkey, hskip', Except.map]
  | false =>
    have hcomma : skipSpace s = ',' :: s₁ := hnext
    simp [goOn, settle, hcomma, hskip, Except.map]

/-- What it means to pass over a phrase: what is open around it is gone on with. -/
def Phrase.PassedOver : Phrase → List Char → List Char → Prop
  | value t, s, rest => ∀ stack s₀,
    skipSpace s₀ = s → t.StopsAt rest → skipFrom stack s₀ = goOn stack true rest
  | elements first _, s, rest => ∀ stack, goOn (.list :: stack) (!first) s = goOn stack true rest
  | members first _, s, rest => ∀ stack, goOn (.object :: stack) (!first) s = goOn stack true rest

/-- A phrase is passed over, however deep it nests. -/
theorem Stands.passedOver {p : Phrase} (h : Stands p s rest) : p.PassedOver s rest := by
  -- What is open around the phrase can be anything, so the induction goes into lists and objects of
  -- any depth.
  induction h with
  | @word w rest =>
    intro stack s₀ hs _
    exact skipFrom_of_skipStart (hs ▸ skipStart_word w rest)
  | number h =>
    intro stack s₀ hs hstop
    exact skipFrom_of_skipStart (hs ▸ skipStart_number h (hstop _ rfl))
  | @text raw rest h =>
    intro stack s₀ hs _
    exact skipFrom_of_skipStart (hs ▸ skipStart_text h rest)
  | @list ts s rest _ ih =>
    intro stack s₀ hs _
    have hstart : skipStart (skipSpace s₀) = .ok (some .list, s) := by
      simp [hs, skipStart, isDigit]
    rw [skipFrom_of_skipStart hstart]
    exact ih stack
  | @object ms s rest _ ih =>
    intro stack s₀ hs _
    have hstart : skipStart (skipSpace s₀) = .ok (some .object, s) := by
      simp [hs, skipStart, isDigit]
    rw [skipFrom_of_skipStart hstart]
    exact ih stack
  | endElements h => exact fun _ => goOn_endList h
  | element hnext hvalue hlater ihvalue ihlater =>
    intro stack
    obtain ⟨s₀, hs, hgo⟩ := goOn_element stack hnext hvalue
    rw [hgo, ihvalue _ s₀ hs hlater.stopsAt_of_elements]
    exact ihlater stack
  | endMembers h => exact fun _ => goOn_endObject h
  | member hnext hkey hraw hcolon hvalue hlater ihvalue ihlater =>
    intro stack
    rw [goOn_member hnext hkey hraw hcolon, ihvalue _ _ rfl hlater.stopsAt_of_members]
    exact ihlater stack

/-- A tree is passed over, with the blanks before it. -/
theorem skipFrom_of_stands (h : Stands (.value t) (skipSpace s) rest) (hstop : t.StopsAt rest) :
    skipFrom [] s = .ok rest :=
  h.passedOver [] s rfl hstop

/-! ### Nothing else is passed over -/

/-- How the text goes on after a value, up to the end of all that is open around it. -/
inductive Closes : List Bracket → List Char → List Char → Prop where
  | nil {rest : List Char} : Closes [] rest rest
  | list {outer : List Bracket} {ts : List Tree} {s mid rest : List Char}
    (h : Stands (.elements false ts) s mid)
    (houter : Closes outer mid rest) : Closes (.list :: outer) s rest
  | object {outer : List Bracket} {ms : List (List Char × Tree)} {s mid rest : List Char}
    (h : Stands (.members false ms) s mid) (houter : Closes outer mid rest) :
      Closes (.object :: outer) s rest

/-- How the text goes on where the next value starts inside of what is open, or where nothing is
open any more. -/
def Resumes : List Bracket → List Char → List Char → Prop
  | [], s, rest => s = rest
  | b :: outer, s, rest => ∃ t mid,
    Stands (.value t) (skipSpace s) mid ∧ Closes (b :: outer) mid rest

/-- Before what closes them, all that is open can be gone on with. -/
theorem closes_of_settle {stack' : List Bracket} (h : settle stack true s = .ok (stack', s'))
    (hresumes : Resumes stack' s' rest) : Closes stack s rest := by
  -- Closing brackets are taken one by one, from the inside to the outside, up to the comma before
  -- the next value.
  induction stack generalizing s with
  | nil =>
    obtain ⟨rfl, rfl⟩ := Prod.mk.inj (Except.ok.inj h)
    obtain rfl : s = rest := hresumes
    exact .nil
  | cons b outer ih =>
    cases b with
    | list =>
      simp only [settle, Bool.not_true, Bool.false_eq_true, ↓reduceIte] at h
      split at h
      · cases h
      · next c s₁ hs =>
        split at h
        · next hc => exact .list (.endElements (hc ▸ hs)) (ih h)
        · split at h
          · next hc =>
            obtain ⟨rfl, rfl⟩ := Prod.mk.inj (Except.ok.inj h)
            obtain ⟨t, mid, hvalue, hcloses⟩ := hresumes
            cases hcloses with
            | list hlater houter =>
              have hnext : NextAt false s s₁ := hs.trans (by rw [hc])
              exact .list (.element hnext hvalue hlater) houter
          · cases h
    | object =>
      simp only [settle, Bool.not_true, Bool.false_eq_true, ↓reduceIte] at h
      split at h
      · cases h
      · next c s₁ hs =>
        split at h
        · next hc => exact .object (.endMembers (hc ▸ hs)) (ih h)
        · split at h
          · next hc =>
            obtain ⟨s₂, hskip, heq⟩ := exists_of_map_eq_ok h
            obtain ⟨rfl, rfl⟩ := Prod.mk.inj heq
            obtain ⟨t, mid, hvalue, hcloses⟩ := hresumes
            obtain ⟨raw, s₃, hkey, hraw, hcolon⟩ := skipKey_eq_ok_iff.mp hskip
            cases hcloses with
            | object hlater houter =>
              have hnext : NextAt false s s₁ := hs.trans (by rw [hc])
              exact .object (.member hnext hkey hraw hcolon hvalue hlater) houter
          · cases h

/-- After the bracket that opens a list, its elements come. -/
theorem elements_of_settle {stack' : List Bracket}
    (h : settle (.list :: stack) false s = .ok (stack', s')) (hresumes : Resumes stack' s' rest) :
    ∃ ts mid, Stands (.elements true ts) s mid ∧ Closes stack mid rest := by
  simp only [settle, Bool.not_false, ↓reduceIte] at h
  split at h
  · cases h
  · next c s₁ hs =>
    split at h
    · next hc => exact ⟨[], s₁, .endElements (hc ▸ hs), closes_of_settle h hresumes⟩
    · obtain ⟨rfl, rfl⟩ := Prod.mk.inj (Except.ok.inj h)
      obtain ⟨t, mid, hvalue, hcloses⟩ := hresumes
      rw [← hs, skipSpace_skipSpace] at hvalue
      cases hcloses with
      | list hlater houter =>
        exact ⟨_, _, .element (rfl : NextAt true s s) hvalue hlater, houter⟩

/-- After the bracket that opens an object, its members come. -/
theorem members_of_settle {stack' : List Bracket}
    (h : settle (.object :: stack) false s = .ok (stack', s')) (hresumes : Resumes stack' s' rest) :
    ∃ ms mid, Stands (.members true ms) s mid ∧ Closes stack mid rest := by
  simp only [settle, Bool.not_false, ↓reduceIte] at h
  split at h
  · cases h
  · next c s₁ hs =>
    split at h
    · next hc => exact ⟨[], s₁, .endMembers (hc ▸ hs), closes_of_settle h hresumes⟩
    · obtain ⟨s₂, hskip, heq⟩ := exists_of_map_eq_ok h
      obtain ⟨rfl, rfl⟩ := Prod.mk.inj heq
      obtain ⟨t, mid, hvalue, hcloses⟩ := hresumes
      obtain ⟨raw, s₃, hkey, hraw, hcolon⟩ := skipKey_eq_ok_iff.mp hskip
      rw [← hs, skipSpace_skipSpace] at hkey
      cases hcloses with
      | object hlater houter =>
        exact ⟨_, _, .member (rfl : NextAt true s s) hkey hraw hcolon hvalue hlater, houter⟩

/-- The bracket that opens a list or an object. -/
def Bracket.opening : Bracket → Char
  | list => '['
  | object => '\x7b'

/-- What stands where a value starts: a value without parts, which has been passed over, or an
opening bracket. -/
def Starts (opened : Option Bracket) (s rest : List Char) : Prop :=
  match opened with
  | none => ∃ t, Stands (.value t) s rest ∧ t.StopsAt rest
  | some b => s = b.opening :: rest

/-- A word that is passed over stands there. -/
theorem starts_of_readWord {w : Word} {c : Char} {word : List Char} (hw : w.chars = c :: word)
    (h : (readWord word s).map (none, ·) = .ok (opened, rest)) : Starts opened (c :: s) rest := by
  obtain ⟨_, hread, heq⟩ := exists_of_map_eq_ok h
  obtain ⟨rfl, rfl⟩ := Prod.mk.inj heq
  refine ⟨.word w, stands_word.mpr ?_, by rintro _ ⟨⟩⟩
  rw [readWord_eq_ok_iff.mp hread, hw, List.cons_append]

/-- A number that is passed over stands there. -/
theorem starts_of_skipNumber (h : (skipNumber s).map (none, ·) = .ok (opened, rest)) :
    Starts opened s rest := by
  obtain ⟨_, hskip, heq⟩ := exists_of_map_eq_ok h
  obtain ⟨rfl, rfl⟩ := Prod.mk.inj heq
  unfold skipNumber at hskip
  split at hskip
  · cases hskip
  · next hread =>
    obtain rfl := Except.ok.inj hskip
    obtain ⟨text, htext, hwrites, hstop⟩ := readNumberText_eq_ok_iff.mp hread
    refine ⟨.number _, stands_number.mpr ⟨text, htext, hwrites⟩, ?_⟩
    rintro _ ⟨⟩
    exact hstop

/-- Where the start of a value is passed over, a value starts. -/
theorem starts_of_skipStart (h : skipStart s = .ok (opened, rest)) : Starts opened s rest := by
  cases s with
  | nil => cases h
  | cons c s =>
    -- The first character tells the kind of the value, in the order in which the kinds are tried.
    simp only [skipStart] at h
    split at h
    · next hc => exact hc ▸ starts_of_readWord (rfl : Word.null.chars = _) h
    split at h
    · next hc => exact hc ▸ starts_of_readWord (rfl : Word.true.chars = _) h
    split at h
    · next hc => exact hc ▸ starts_of_readWord (rfl : Word.false.chars = _) h
    split at h
    · next hc =>
      obtain ⟨_, hskip, heq⟩ := exists_of_map_eq_ok h
      obtain ⟨rfl, rfl⟩ := Prod.mk.inj heq
      obtain ⟨raw, rfl, hraw⟩ := skipText_eq_ok_iff.mp hskip
      exact ⟨.text raw, hc ▸ .text hraw, by rintro _ ⟨⟩⟩
    split at h
    · exact starts_of_skipNumber h
    split at h
    · next hc =>
      obtain ⟨rfl, rfl⟩ := Prod.mk.inj (Except.ok.inj h)
      exact congrArg (· :: s) hc
    split at h
    · next hc =>
      obtain ⟨rfl, rfl⟩ := Prod.mk.inj (Except.ok.inj h)
      exact congrArg (· :: s) hc
    · cases h

/-- Where a value starts and what is open is gone on with, a tree stands. -/
theorem exists_of_skipStart {stack' : List Bracket} {s₁ : List Char}
    (hstart : skipStart (skipSpace s) = .ok (opened, s₁))
    (hsettle : settle (opened.toList ++ stack) opened.isNone s₁ = .ok (stack', s'))
    (hresumes : Resumes stack' s' rest) :
    ∃ t mid, Stands (.value t) (skipSpace s) mid ∧ t.StopsAt mid ∧ Closes stack mid rest := by
  have hstarts := starts_of_skipStart hstart
  cases opened with
  | none =>
    obtain ⟨t, hvalue, hstop⟩ := hstarts
    exact ⟨t, s₁, hvalue, hstop, closes_of_settle hsettle hresumes⟩
  | some b =>
    replace hstarts : skipSpace s = b.opening :: s₁ := hstarts
    rw [hstarts]
    cases b with
    | list =>
      obtain ⟨ts, mid, hts, hcloses⟩ := elements_of_settle hsettle hresumes
      exact ⟨.list ts, mid, .list hts, by rintro _ ⟨⟩, hcloses⟩
    | object =>
      obtain ⟨ms, mid, hms, hcloses⟩ := members_of_settle hsettle hresumes
      exact ⟨.object ms, mid, .object hms, by rintro _ ⟨⟩, hcloses⟩

/-- Where values are passed over, a tree stands, and what closes all that is open follows it. -/
theorem exists_of_skipFrom_stack (h : skipFrom stack s = .ok rest) :
    ∃ t mid, Stands (.value t) (skipSpace s) mid ∧ t.StopsAt mid ∧ Closes stack mid rest := by
  -- By the recursion of passing over values: each of them is followed by what closes the brackets
  -- around it.
  fun_induction skipFrom stack s with
  | case1 => cases h
  | case2 => cases h
  | case3 stack s opened s₁ hstart s' hsettle =>
    exact exists_of_skipStart hstart hsettle (Except.ok.inj h)
  | case4 stack s opened s₁ hstart b outer s' hsettle ih =>
    obtain ⟨t, mid, hvalue, -, hcloses⟩ := ih h
    exact exists_of_skipStart hstart hsettle ⟨t, mid, hvalue, hcloses⟩

/-- Where a value is passed over, a tree stands. -/
theorem exists_of_skipFrom (h : skipFrom [] s = .ok rest) :
    ∃ t, Stands (.value t) (skipSpace s) rest ∧ t.StopsAt rest := by
  obtain ⟨t, mid, hvalue, hstop, hcloses⟩ := exists_of_skipFrom_stack h
  cases hcloses
  exact ⟨t, hvalue, hstop⟩

end NewsReader.Json
