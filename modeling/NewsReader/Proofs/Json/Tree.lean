import NewsReader.Proofs.Json.Grammar
import NewsReader.Proofs.Json.Record

/-!
# JSON values as they are written

A tree is a value as it is written, up to the blanks between its parts. `Stands` says how trees are
written, with the elements of a list and the members of an object one after another: a phrase stands
at the front of a text, and the rest of the text is left. What is left begins where the phrase ends,
except that a number ends only where it cannot go on (`Tree.StopsAt`).

* `Stands.append` — what a text goes on with makes no difference to a phrase that stands there.
* `Stands.unique` — only one tree stands at the front of a text.
-/

namespace NewsReader.Json

open Text (isDigit)

/-- A value that is a word. -/
inductive Word where
  | null
  | true
  | false

/-- The letters of a word. -/
def Word.chars : Word → List Char
  | null => ['n', 'u', 'l', 'l']
  | true => ['t', 'r', 'u', 'e']
  | false => ['f', 'a', 'l', 's', 'e']

/-- A value as it is written, up to blanks. Strings and the keys of members are what stands between
their quotes. -/
inductive Tree where
  | word (w : Word)
  | number (parts : NumberText)
  | text (raw : List Char)
  | list (items : List Tree)
  | object (members : List (List Char × Tree))

/-- What distinguishes the trees that start in different ways. -/
inductive Tree.Kind where
  | word (w : Word)
  | number
  | text
  | list
  | object

/-- A value, or what is left of a list or an object after its opening bracket. `first` says that no
element or member has come yet. -/
inductive Phrase where
  | value (t : Tree)
  | elements (first : Bool) (ts : List Tree)
  | members (first : Bool) (ms : List (List Char × Tree))

/-- The next element or member comes at once if it is the first one, and after a comma if it is
not. -/
def NextAt (first : Bool) (s s' : List Char) : Prop :=
  if first then s = s' else skipSpace s = ',' :: s'

/-- The phrase stands at the front of the text `s`, and `rest` is left. -/
inductive Stands : Phrase → List Char → List Char → Prop where
  | word {w : Word} {rest : List Char} : Stands (.value (.word w)) (w.chars ++ rest) rest
  | number {parts : NumberText} {text rest : List Char} (h : parts.Writes text) :
    Stands (.value (.number parts)) (text ++ rest) rest
  | text {raw rest : List Char} (h : IsRaw raw) :
    Stands (.value (.text raw)) ('"' :: (raw ++ '"' :: rest)) rest
  | list {ts : List Tree} {s rest : List Char} (h : Stands (.elements true ts) s rest) :
    Stands (.value (.list ts)) ('[' :: s) rest
  | object {ms : List (List Char × Tree)} {s rest : List Char}
    (h : Stands (.members true ms) s rest) : Stands (.value (.object ms)) ('\x7b' :: s) rest
  | endElements {first : Bool} {s rest : List Char} (h : skipSpace s = ']' :: rest) :
    Stands (.elements first []) s rest
  | element {first : Bool} {t : Tree} {ts : List Tree} {s s' mid rest : List Char}
    (hnext : NextAt first s s')
    (hvalue : Stands (.value t) (skipSpace s') mid)
      (hlater : Stands (.elements false ts) mid rest) :
    Stands (.elements first (t :: ts)) s rest
  | endMembers {first : Bool} {s rest : List Char} (h : skipSpace s = '\x7d' :: rest) :
    Stands (.members first []) s rest
  | member {first : Bool} {raw : List Char} {t : Tree} {ms : List (List Char × Tree)}
    {s s₁ s₂ s₃ mid rest : List Char} (hnext : NextAt first s s₁)
      (hkey : skipSpace s₁ = '"' :: (raw ++ '"' :: s₂))
    (hraw : IsRaw raw) (hcolon : skipSpace s₂ = ':' :: s₃)
      (hvalue : Stands (.value t) (skipSpace s₃) mid)
    (hlater : Stands (.members false ms) mid rest) : Stands (.members first ((raw, t) :: ms)) s rest

/-! ### Blanks -/

variable {s rest : List Char}

/-- After blanks have been passed over, there is none. -/
theorem skipSpace_skipSpace (s : List Char) : skipSpace (skipSpace s) = skipSpace s := by
  have hhead := List.head?_dropWhile_not isSpace s
  cases hskip : skipSpace s with
  | nil => rfl
  | cons c s' =>
    rw [← skipSpace, hskip] at hhead
    exact skipSpace_cons hhead s'

/-- What a text goes on with is left after blanks have been passed over, if something is left before
it. -/
theorem skipSpace_append_of_cons {c : Char} {s' : List Char} (h : skipSpace s = c :: s')
    (more : List Char) : skipSpace (s ++ more) = c :: (s' ++ more) := by
  rw [skipSpace, List.dropWhile_append, ← skipSpace, h]
  rfl

/-- The text starts with a blank or with what it starts with after blanks. -/
theorem head?_of_skipSpace {c d : Char} {s' : List Char} (h : skipSpace s = c :: s')
    (hd : d ∈ s.head?) : isSpace d ∨ d = c := by
  obtain ⟨s, rfl⟩ := List.head?_eq_some_iff.mp (Option.mem_def.mp hd)
  by_cases hspace : isSpace d
  · exact .inl hspace
  · rw [skipSpace_cons (by simpa using hspace)] at h
    exact .inr (List.cons.inj h).1

/-! ### Where a tree starts and ends -/

namespace Tree

/-- The kind of a tree. -/
def kind : Tree → Kind
  | word w => .word w
  | number _ => .number
  | text _ => .text
  | list _ => .list
  | object _ => .object

/-- The characters that a tree can start with. -/
def StartsWith : Tree → Char → Prop
  | word .null, c => c = 'n'
  | word .true, c => c = 't'
  | word .false, c => c = 'f'
  | number _, c => c = '-' ∨ isDigit c
  | text _, c => c = '"'
  | list _, c => c = '['
  | object _, c => c = '\x7b'

/-- The kind of the trees that start with a character. -/
def kindOf (c : Char) : Kind :=
  if c = 'n' then .word .null
  else if c = 't' then .word .true
  else if c = 'f' then .word .false
  else if c = '"' then .text
  else if c = '[' then .list
  else if c = '\x7b' then .object
  else .number

/-- The first character tells the kind of a tree. -/
theorem StartsWith.kindOf_eq {t : Tree} {c : Char} (h : t.StartsWith c) : kindOf c = t.kind := by
  cases t with
  | word w => cases w <;> obtain rfl : c = _ := h <;> rfl
  | number _ =>
    have hne : c ∉ ['n', 't', 'f', '"', '[', '\x7b'] := by
      intro hmem
      replace h : c = '-' ∨ isDigit c := h
      simp only [List.mem_cons, List.not_mem_nil, or_false] at hmem
      rcases hmem with rfl | rfl | rfl | rfl | rfl | rfl <;> exact absurd h (by decide)
    simp only [List.mem_cons, List.not_mem_nil, or_false, not_or] at hne
    simp only [kindOf, hne, ↓reduceIte, kind]
  | text _ => obtain rfl : c = _ := h; rfl
  | list _ => obtain rfl : c = _ := h; rfl
  | object _ => obtain rfl : c = _ := h; rfl

/-- No tree starts with a blank or with a character that ends one. -/
theorem StartsWith.not_mem {t : Tree} {c : Char} (h : t.StartsWith c) :
    isSpace c = false ∧ c ∉ [',', ']', '\x7d', ':'] := by
  have hother {d : Char} (hd : d = '-' ∨ isDigit d) :
      isSpace d = false ∧ d ∉ [',', ']', '\x7d', ':'] := by
    constructor
    · rw [Bool.eq_false_iff]
      intro hspace
      have hblanks : d = ' ' ∨ d = '\t' ∨ d = '\n' ∨ d = '\r' := by
        simpa [isSpace, or_assoc] using hspace
      rcases hblanks with rfl | rfl | rfl | rfl <;> exact absurd hd (by decide)
    · intro hmem
      simp only [List.mem_cons, List.not_mem_nil, or_false] at hmem
      rcases hmem with rfl | rfl | rfl | rfl <;> exact absurd hd (by decide)
  cases t with
  | word w => cases w <;> obtain rfl : c = _ := h <;> decide
  | number _ => exact hother h
  | text _ => obtain rfl : c = _ := h; decide
  | list _ => obtain rfl : c = _ := h; decide
  | object _ => obtain rfl : c = _ := h; decide

/-- The text cannot go on with the tree. Only a number can be gone on with. -/
def StopsAt (t : Tree) (rest : List Char) : Prop :=
  ∀ parts, t = number parts → parts.StopsAt rest

theorem stopsAt_of_kind {t : Tree} (h : t.kind ≠ .number) (rest : List Char) :
    t.StopsAt rest := by
  rintro parts rfl
  exact absurd rfl h

/-- A tree ends before blanks and before the characters that end it. -/
theorem stopsAt_of_head? {t : Tree}
    (h : ∀ c ∈ rest.head?, isSpace c ∨ c ∈ [',', ']', '\x7d']) : t.StopsAt rest := by
  have hends : ∀ c ∈ rest.head?,
      isDigit c = false ∧ (c ≠ 'e' ∧ c ≠ 'E') ∧ c ≠ '.' := by
    intro c hc
    have hmem : c ∈ [' ', '\t', '\n', '\r', ',', ']', '\x7d'] := by
      rcases h c hc with hspace | hmem
      · have hblanks : c = ' ' ∨ c = '\t' ∨ c = '\n' ∨ c = '\r' := by
          simpa [isSpace, or_assoc] using hspace
        rcases hblanks with rfl | rfl | rfl | rfl <;> simp
      · exact List.mem_append_right [' ', '\t', '\n', '\r'] hmem
    have hall : [' ', '\t', '\n', '\r', ',', ']', '\x7d'].all fun c =>
        !isDigit c && (c ≠ 'e' ∧ c ≠ 'E') && c ≠ '.' := by decide
    simpa [and_assoc] using List.all_eq_true.mp hall c hmem
  rintro parts rfl
  exact ⟨fun c hc => (hends c hc).1, fun _ c hc => (hends c hc).2.1,
    fun _ _ c hc => (hends c hc).2.2⟩

/-- A tree ends where nothing but blanks is left. -/
theorem stopsAt_of_skipSpace_nil {t : Tree} (h : skipSpace rest = []) : t.StopsAt rest := by
  refine stopsAt_of_head? fun c hc => .inl ?_
  obtain ⟨rest, rfl⟩ := List.head?_eq_some_iff.mp (Option.mem_def.mp hc)
  by_cases hspace : isSpace c
  · exact hspace
  · rw [skipSpace_cons (by simpa using hspace)] at h
    cases h

end Tree

namespace Stands

/-- A tree that stands there starts there. -/
theorem startsWith {t : Tree} (h : Stands (.value t) s rest) :
    ∃ c s', s = c :: s' ∧ t.StartsWith c := by
  cases h with
  | @word w => cases w <;> exact ⟨_, _, rfl, rfl⟩
  | @number parts text _ h =>
    obtain ⟨⟨hne, hdigits⟩, -, places, exponent, -, -, rfl⟩ := h
    cases hminus : parts.minus with
    | true => exact ⟨'-', _, rfl, .inl rfl⟩
    | false =>
      obtain ⟨d, ds, hds⟩ := List.exists_cons_of_ne_nil hne
      exact ⟨d, ds ++ (places ++ exponent) ++ rest, by simp [hds],
        .inr (hdigits d (hds ▸ List.mem_cons_self))⟩
  | text _ => exact ⟨_, _, rfl, rfl⟩
  | list _ => exact ⟨_, _, rfl, rfl⟩
  | object _ => exact ⟨_, _, rfl, rfl⟩

/-- There are no blanks before a tree that stands there. -/
theorem skipSpace_eq {t : Tree} (h : Stands (.value t) s rest) : skipSpace s = s := by
  obtain ⟨c, s', rfl, hstart⟩ := h.startsWith
  exact skipSpace_cons hstart.not_mem.1 s'

/-- A tree ends before the elements that follow it. -/
theorem stopsAt_of_elements {t : Tree} {ts : List Tree} (h : Stands (.elements false ts) s rest) :
    t.StopsAt s := by
  refine Tree.stopsAt_of_head? fun c hc => ?_
  cases h with
  | endElements h =>
    rcases head?_of_skipSpace h hc with hspace | rfl
    · exact .inl hspace
    · simp
  | element hnext _ _ =>
    rcases head?_of_skipSpace hnext hc with hspace | rfl
    · exact .inl hspace
    · simp

/-- A tree ends before the members that follow it. -/
theorem stopsAt_of_members {t : Tree} {ms : List (List Char × Tree)}
    (h : Stands (.members false ms) s rest) : t.StopsAt s := by
  refine Tree.stopsAt_of_head? fun c hc => ?_
  cases h with
  | endMembers h =>
    rcases head?_of_skipSpace h hc with hspace | rfl
    · exact .inl hspace
    · simp
  | member hnext _ _ _ _ _ =>
    rcases head?_of_skipSpace hnext hc with hspace | rfl
    · exact .inl hspace
    · simp

/-- What a text goes on with makes no difference to a phrase that stands there. -/
theorem append {p : Phrase} (h : Stands p s rest) (more : List Char) :
    Stands p (s ++ more) (rest ++ more) := by
  have hnextAt {first : Bool} {s s' : List Char} (h : NextAt first s s') :
      NextAt first (s ++ more) (s' ++ more) := by
    cases first with
    | true => exact congrArg (· ++ more) h
    | false => exact skipSpace_append_of_cons h more
  -- A tree does not start with a blank, so passing over blanks ends in the part of the text that
  -- was there before.
  have hvalueAt {t : Tree} {s mid : List Char} (h : Stands (.value t) (skipSpace s) mid)
      (ih : Stands (.value t) (skipSpace s ++ more) (mid ++ more)) :
      Stands (.value t) (skipSpace (s ++ more)) (mid ++ more) := by
    obtain ⟨c, s', hs, -⟩ := h.startsWith
    rwa [skipSpace_append_of_cons hs, ← List.cons_append, ← hs]
  induction h with
  | word => exact List.append_assoc _ _ _ ▸ .word
  | number h => exact List.append_assoc _ _ _ ▸ .number h
  | @text raw rest h =>
    have htext : Stands (.value (.text raw)) ('"' :: (raw ++ '"' :: (rest ++ more)))
        (rest ++ more) := .text h
    simpa using htext
  | list _ ih => exact .list ih
  | object _ ih => exact .object ih
  | endElements h => exact .endElements (skipSpace_append_of_cons h more)
  | element hnext hvalue _ ihvalue ihlater =>
    exact .element (hnextAt hnext) (hvalueAt hvalue ihvalue) ihlater
  | endMembers h => exact .endMembers (skipSpace_append_of_cons h more)
  | member hnext hkey hraw hcolon hvalue _ ihvalue ihlater =>
    refine .member (hnextAt hnext) ?_ hraw (skipSpace_append_of_cons hcolon more)
      (hvalueAt hvalue ihvalue) ihlater
    simpa using skipSpace_append_of_cons hkey more

end Stands

/-! ### There is one tree at most -/

variable {t : Tree}

theorem stands_word {w : Word} : Stands (.value (.word w)) s rest ↔ s = w.chars ++ rest := by
  refine ⟨fun h => ?_, fun h => h ▸ .word⟩
  cases h
  rfl

theorem stands_number {parts : NumberText} :
    Stands (.value (.number parts)) s rest ↔
      ∃ text, s = text ++ rest ∧ parts.Writes text := by
  refine ⟨fun h => ?_, fun ⟨_, hs, hwrites⟩ => hs ▸ .number hwrites⟩
  cases h with
  | number hwrites => exact ⟨_, rfl, hwrites⟩

theorem stands_text {raw : List Char} :
    Stands (.value (.text raw)) s rest ↔ s = '"' :: (raw ++ '"' :: rest) ∧ IsRaw raw := by
  refine ⟨fun h => ?_, fun ⟨hs, hraw⟩ => hs ▸ .text hraw⟩
  cases h with
  | text hraw => exact ⟨rfl, hraw⟩

theorem stands_list {ts : List Tree} :
    Stands (.value (.list ts)) s rest ↔
      ∃ s', s = '[' :: s' ∧ Stands (.elements true ts) s' rest := by
  refine ⟨fun h => ?_, fun ⟨_, hs, hts⟩ => hs ▸ .list hts⟩
  cases h with
  | list hts => exact ⟨_, rfl, hts⟩

theorem stands_object {ms : List (List Char × Tree)} :
    Stands (.value (.object ms)) s rest ↔
      ∃ s', s = '\x7b' :: s' ∧ Stands (.members true ms) s' rest := by
  refine ⟨fun h => ?_, fun ⟨_, hs, hms⟩ => hs ▸ .object hms⟩
  cases h with
  | object hms => exact ⟨_, rfl, hms⟩

/-- The phrases are of the same kind. -/
inductive Phrase.Like : Phrase → Phrase → Prop where
  | value {t t' : Tree} : Like (.value t) (.value t')
  | elements {first : Bool} {ts ts' : List Tree} : Like (.elements first ts) (.elements first ts')
  | members {first : Bool} {ms ms' : List (List Char × Tree)} :
    Like (.members first ms) (.members first ms')

/-- The text cannot go on with the phrase. -/
def Phrase.StopsAt : Phrase → List Char → Prop
  | value t, rest => t.StopsAt rest
  | _, _ => True

/-- The next element or member is at one place. -/
theorem NextAt.unique {first : Bool} {s' s'' : List Char} (h : NextAt first s s')
    (h' : NextAt first s s'') : s' = s'' := by
  cases first with
  | true => exact h.symm.trans h'
  | false => exact (List.cons.inj (h.symm.trans h')).2

/-- Where an element or a member comes, there is no other character that a list or an object can go
on with. -/
theorem NextAt.skipSpace_ne {first : Bool} {c d : Char} {s' s'' : List Char} (h : NextAt first s s')
    (hs' : skipSpace s' = c :: s'') (hc : c ≠ d) (hd : ',' ≠ d) :
    skipSpace s ≠ d :: rest := by
  intro hs
  cases first with
  | true =>
    obtain rfl : s = s' := h
    exact hc (List.cons.inj (hs'.symm.trans hs)).1
  | false => exact hd (List.cons.inj (h.symm.trans hs)).1

namespace Stands

variable {t t' : Tree} {rest' : List Char}

/-- Where an element comes, a list does not end. -/
theorem skipSpace_ne_of_element {first : Bool} {s' mid : List Char} (hnext : NextAt first s s')
    (hvalue : Stands (.value t) (skipSpace s') mid) : skipSpace s ≠ ']' :: rest := by
  obtain ⟨c, s'', hs', hstart⟩ := hvalue.startsWith
  refine hnext.skipSpace_ne hs' ?_ (by decide)
  rintro rfl
  exact hstart.not_mem.2 (by simp)

/-- The first character tells the kind of a tree. -/
theorem kind_eq (h : Stands (.value t) s rest) (h' : Stands (.value t') s rest') :
    t.kind = t'.kind := by
  obtain ⟨c, s, rfl, hstart⟩ := h.startsWith
  obtain ⟨_, _, heq, hstart'⟩ := h'.startsWith
  obtain ⟨rfl, rfl⟩ := List.cons.inj heq
  exact hstart.kindOf_eq.symm.trans hstart'.kindOf_eq

/-- There is one phrase of a kind at most at the front of a text. -/
theorem unique_phrase {p p' : Phrase} (h : Stands p s rest) (h' : Stands p' s rest')
    (hlike : p.Like p') (hstop : p.StopsAt rest) (hstop' : p'.StopsAt rest') :
    p = p' ∧ rest = rest' := by
  -- The first character that is no blank leaves one rule for the second phrase: for a tree it tells
  -- the kind, and for what is left of a list or an object it tells whether that ends here.
  induction h generalizing p' rest' with
  | @word w rest =>
    cases hlike with
    | @value _ t' =>
      have hkind := kind_eq .word h'
      cases t' <;> cases hkind
      exact ⟨rfl, List.append_cancel_left (stands_word.mp h')⟩
  | @number parts text rest h =>
    cases hlike with
    | @value _ t' =>
      have hkind := kind_eq (.number h) h'
      cases t' <;> cases hkind
      obtain ⟨text', heq, hwrites⟩ := stands_number.mp h'
      obtain ⟨rfl, rfl⟩ := h.unique hwrites heq (hstop _ rfl) (hstop' _ rfl)
      exact ⟨rfl, rfl⟩
  | @text raw rest h =>
    cases hlike with
    | @value _ t' =>
      have hkind := kind_eq (.text h) h'
      cases t' <;> cases hkind
      obtain ⟨heq, hraw⟩ := stands_text.mp h'
      obtain ⟨rfl, rfl⟩ := h.unique hraw (List.cons.inj heq).2
      exact ⟨rfl, rfl⟩
  | list h ih =>
    cases hlike with
    | @value _ t' =>
      have hkind := kind_eq (.list h) h'
      cases t' <;> cases hkind
      obtain ⟨s', heq, hts⟩ := stands_list.mp h'
      obtain ⟨-, rfl⟩ := List.cons.inj heq
      obtain ⟨hphrase, rfl⟩ := ih hts .elements trivial trivial
      cases hphrase
      exact ⟨rfl, rfl⟩
  | object h ih =>
    cases hlike with
    | @value _ t' =>
      have hkind := kind_eq (.object h) h'
      cases t' <;> cases hkind
      obtain ⟨s', heq, hms⟩ := stands_object.mp h'
      obtain ⟨-, rfl⟩ := List.cons.inj heq
      obtain ⟨hphrase, rfl⟩ := ih hms .members trivial trivial
      cases hphrase
      exact ⟨rfl, rfl⟩
  | endElements h =>
    cases hlike with
    | elements =>
      cases h' with
      | endElements h' =>
        obtain ⟨-, rfl⟩ := List.cons.inj (h.symm.trans h')
        exact ⟨rfl, rfl⟩
      | element hnext hvalue _ => exact absurd h (skipSpace_ne_of_element hnext hvalue)
  | element hnext hvalue hlater ihvalue ihlater =>
    cases hlike with
    | elements =>
      cases h' with
      | endElements h' => exact absurd h' (skipSpace_ne_of_element hnext hvalue)
      | element hnext' hvalue' hlater' =>
        obtain rfl := hnext.unique hnext'
        obtain ⟨hphrase, rfl⟩ :=
          ihvalue hvalue' .value hlater.stopsAt_of_elements hlater'.stopsAt_of_elements
        cases hphrase
        obtain ⟨hphrase, rfl⟩ := ihlater hlater' .elements trivial trivial
        cases hphrase
        exact ⟨rfl, rfl⟩
  | endMembers h =>
    cases hlike with
    | members =>
      cases h' with
      | endMembers h' =>
        obtain ⟨-, rfl⟩ := List.cons.inj (h.symm.trans h')
        exact ⟨rfl, rfl⟩
      | member hnext hkey _ _ _ _ =>
        exact absurd h (hnext.skipSpace_ne hkey (by decide) (by decide))
  | member hnext hkey hraw hcolon hvalue hlater ihvalue ihlater =>
    cases hlike with
    | members =>
      cases h' with
      | endMembers h' => exact absurd h' (hnext.skipSpace_ne hkey (by decide) (by decide))
      | member hnext' hkey' hraw' hcolon' hvalue' hlater' =>
        obtain rfl := hnext.unique hnext'
        obtain ⟨rfl, rfl⟩ := hraw.unique hraw' (List.cons.inj (hkey.symm.trans hkey')).2
        obtain ⟨-, rfl⟩ := List.cons.inj (hcolon.symm.trans hcolon')
        obtain ⟨hphrase, rfl⟩ :=
          ihvalue hvalue' .value hlater.stopsAt_of_members hlater'.stopsAt_of_members
        cases hphrase
        obtain ⟨hphrase, rfl⟩ := ihlater hlater' .members trivial trivial
        cases hphrase
        exact ⟨rfl, rfl⟩

/-- There is one tree at most at the front of a text. -/
theorem unique (h : Stands (.value t) s rest) (h' : Stands (.value t') s rest')
    (hstop : t.StopsAt rest) (hstop' : t'.StopsAt rest') : t = t' ∧ rest = rest' := by
  obtain ⟨hphrase, hrest⟩ := h.unique_phrase h' .value hstop hstop'
  cases hphrase
  exact ⟨rfl, hrest⟩

end Stands

end NewsReader.Json
