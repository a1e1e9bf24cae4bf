import NewsReader.Proofs.Json.Text
import NewsReader.Proofs.Json.Values
import NewsReader.Proofs.Text.Digits

/-!
# How strings and numbers are written

A string is written between quotes, with escapes after backslashes. An escape is a letter or a
number of four digits; two numbers that are halves of a pair write one character. So there are
strings whose escapes are well formed and that write no text, because a half stands alone (`IsRaw`
against `WritesText`). A number is written with digits, and with places and an exponent if it has
them.

What is read here is exactly what is written in this way, up to the place where it ends.

* `readText_eq_ok_iff` — strings that are read.
* `skipText_eq_ok_iff` — strings that are passed over.
* `readNumberText_eq_ok_iff` — numbers, which end where no more of them can be read.
-/

namespace NewsReader.Json

open Text (hexValue? isDigit numberOf)

variable {s rest : List Char}

/-- A word is read if it stands there. -/
theorem readWord_eq_ok_iff {word : List Char} :
    readWord word s = .ok rest ↔ s = word ++ rest := by
  induction word generalizing s with
  | nil => simp [readWord]
  | cons w word ih =>
    cases s with
    | nil => simp [readWord]
    | cons c s =>
      rw [readWord, List.cons_append, List.cons.injEq]
      split
      · next heq => rw [ih, and_iff_right heq.symm]
      · next hne => simp [Ne.symm hne]

/-! ### Strings -/

/-- Four digits in base sixteen write the number. -/
def IsHex (digits : List Char) (n : Nat) : Prop :=
  ∃ a b c d, digits.map hexValue? = [some a, some b, some c, some d] ∧
    ((a * 16 + b) * 16 + c) * 16 + d = n

/-- Four digits are read if they stand there. -/
theorem readHex_eq_ok_iff {n : Nat} :
    readHex s = .ok (n, rest) ↔ ∃ digits, s = digits ++ rest ∧ IsHex digits n := by
  constructor
  · intro h
    unfold readHex at h
    split at h
    · next w x y z rest' =>
      split at h
      · next a b c d ha hb hc hd =>
        obtain ⟨rfl, rfl⟩ := Prod.mk.inj (Except.ok.inj h)
        exact ⟨[w, x, y, z], rfl, a, b, c, d, by simp [ha, hb, hc, hd], rfl⟩
      · cases h
    · cases h
  · rintro ⟨digits, rfl, a, b, c, d, hdigits, rfl⟩
    obtain ⟨w, _, rfl, hw, hdigits⟩ := List.map_eq_cons_iff.mp hdigits
    obtain ⟨x, _, rfl, hx, hdigits⟩ := List.map_eq_cons_iff.mp hdigits
    obtain ⟨y, _, rfl, hy, hdigits⟩ := List.map_eq_cons_iff.mp hdigits
    obtain ⟨z, _, rfl, hz, hdigits⟩ := List.map_eq_cons_iff.mp hdigits
    obtain rfl := List.map_eq_nil_iff.mp hdigits
    simp only [readHex, List.cons_append, List.nil_append, hw, hx, hy, hz]

/-- What stands after a backslash and writes a character. -/
inductive WritesEscape : List Char → Char → Prop where
  /-- A letter stands for the character. -/
  | letter {letter c : Char} (h : escaped? letter = some c) : WritesEscape [letter] c
  /-- A number that is no half of a pair is the code point. -/
  | number {digits : List Char} {n : Nat} (h : IsHex digits n) (hlow : ¬isLowSurrogate n)
    (hhigh : ¬isHighSurrogate n) : WritesEscape ('u' :: digits) (Char.ofNat n)
  /-- The halves of a pair write the code point together. -/
  | pair {high low : List Char} {m n : Nat} (hm : IsHex high m) (hhigh : isHighSurrogate m)
    (hn : IsHex low n) (hlow : isLowSurrogate n) :
    WritesEscape ('u' :: (high ++ '\\' :: 'u' :: low)) (Char.ofNat (joinSurrogates m n))

/-- What stands between the quotes of a string and writes the text. -/
inductive WritesText : List Char → List Char → Prop where
  | nil : WritesText [] []
  /-- A character stands for itself. -/
  | plain {c : Char} {raw cs : List Char} (hquote : c ≠ '"') (hslash : c ≠ '\\')
    (hcontrol : ¬isControl c) (h : WritesText raw cs) : WritesText (c :: raw) (c :: cs)
  /-- A character is written by an escape. -/
  | escape {escape raw cs : List Char} {c : Char} (hc : WritesEscape escape c)
    (h : WritesText raw cs) : WritesText ('\\' :: (escape ++ raw)) (c :: cs)

/-- What may stand after a backslash, whether or not it writes a character. -/
inductive IsEscape : List Char → Prop where
  | letter {letter c : Char} (h : escaped? letter = some c) : IsEscape [letter]
  | number {digits : List Char} {n : Nat} (h : IsHex digits n) : IsEscape ('u' :: digits)

/-- What may stand between the quotes of a string, whether or not it writes a text. -/
inductive IsRaw : List Char → Prop where
  | nil : IsRaw []
  | plain {c : Char} {raw : List Char} (hquote : c ≠ '"') (hslash : c ≠ '\\')
    (hcontrol : ¬isControl c) (h : IsRaw raw) : IsRaw (c :: raw)
  | escape {escape raw : List Char} (hescape : IsEscape escape) (h : IsRaw raw) :
    IsRaw ('\\' :: (escape ++ raw))

/-- What writes a text may stand there. -/
theorem WritesText.isRaw {raw cs : List Char} (h : WritesText raw cs) : IsRaw raw := by
  induction h with
  | nil => exact .nil
  | plain hquote hslash hcontrol _ ih => exact .plain hquote hslash hcontrol ih
  | escape hc _ ih =>
    cases hc with
    | letter h => exact .escape (.letter h) ih
    | number h => exact .escape (.number h) ih
    | pair hm _ hn _ =>
      -- The two halves of a pair are two escapes that may stand there.
      have hpair := IsRaw.escape (.number hm) (.escape (.number hn) ih)
      simpa using hpair

/-- No number is written by the letter that announces one. -/
theorem ne_of_escaped? {letter c : Char} (h : escaped? letter = some c) : letter ≠ 'u' := by
  rintro rfl
  cases h

/-- The second half of a pair is read if it stands there. -/
theorem readLowSurrogate_eq_ok_iff {m : Nat} {c : Char} : readLowSurrogate m s = .ok (c, rest) ↔
    ∃ low n, s = '\\' :: 'u' :: (low ++ rest) ∧ IsHex low n ∧ isLowSurrogate n ∧
      Char.ofNat (joinSurrogates m n) = c := by
  constructor
  · intro h
    unfold readLowSurrogate at h
    split at h
    · cases h
    · cases h
    · split at h
      · cases h
      · next n s hhex =>
        -- The digits were there; what they say has to be the second half.
        obtain ⟨low, rfl, hlow⟩ := readHex_eq_ok_iff.mp hhex
        split at h
        · next hn =>
          obtain ⟨rfl, rfl⟩ := Prod.mk.inj (Except.ok.inj h)
          exact ⟨low, n, rfl, hlow, hn, rfl⟩
        · cases h
    · cases h
  · rintro ⟨low, n, rfl, hlow, hn, rfl⟩
    have hhex : readHex (low ++ rest) = .ok (n, rest) := readHex_eq_ok_iff.mpr ⟨low, rfl, hlow⟩
    simp only [readLowSurrogate, hhex, hn, ↓reduceIte]

/-- What follows a backslash is read if it writes a character. -/
theorem readEscape_eq_ok_iff {c : Char} :
    readEscape s = .ok (c, rest) ↔ ∃ escape, s = escape ++ rest ∧ WritesEscape escape c := by
  constructor
  · intro h
    unfold readEscape at h
    split at h
    · cases h
    · unfold readByNumber at h
      split at h
      · cases h
      · next n s hhex =>
        obtain ⟨digits, rfl, hdigits⟩ := readHex_eq_ok_iff.mp hhex
        split at h
        · cases h
        · next hlow =>
          split at h
          · next hhigh =>
            obtain ⟨low, k, rfl, hk, hklow, rfl⟩ := readLowSurrogate_eq_ok_iff.mp h
            exact ⟨'u' :: (digits ++ '\\' :: 'u' :: low), by simp, .pair hdigits hhigh hk hklow⟩
          · next hhigh =>
            obtain ⟨rfl, rfl⟩ := Prod.mk.inj (Except.ok.inj h)
            exact ⟨'u' :: digits, rfl, .number hdigits hlow hhigh⟩
    · next letter s _ =>
      split at h
      · next d hd =>
        obtain ⟨rfl, rfl⟩ := Prod.mk.inj (Except.ok.inj h)
        exact ⟨[letter], rfl, .letter hd⟩
      · cases h
  · rintro ⟨escape, rfl, hescape⟩
    cases hescape with
    | @letter letter _ h =>
      rw [List.singleton_append, readEscape, h]
      exact ne_of_escaped? h
    | @number digits n h hlow hhigh =>
      have hhex : readHex (digits ++ rest) = .ok (n, rest) :=
        readHex_eq_ok_iff.mpr ⟨digits, rfl, h⟩
      simp only [List.cons_append, readEscape, readByNumber, hhex, if_neg hlow, if_neg hhigh]
    | @pair high low m n hm hhigh hn hlow =>
      have hhex : readHex (high ++ '\\' :: 'u' :: (low ++ rest)) =
          .ok (m, '\\' :: 'u' :: (low ++ rest)) :=
        readHex_eq_ok_iff.mpr ⟨high, rfl, hm⟩
      -- The first half is no second half, which would be refused.
      have hhalf : ¬isLowSurrogate m := by
        simp only [isHighSurrogate, isLowSurrogate, Bool.and_eq_true, decide_eq_true_eq]
          at hhigh ⊢
        omega
      simp only [List.cons_append, List.append_assoc, readEscape, readByNumber, hhex, if_neg hhalf,
        hhigh, ↓reduceIte]
      exact readLowSurrogate_eq_ok_iff.mpr ⟨low, n, rfl, hn, hlow, rfl⟩

/-- A string is read up to its quote, and the text is the one that it writes. -/
theorem readText_eq_ok_iff {cs : List Char} :
    readText s = .ok (cs, rest) ↔ ∃ raw, s = raw ++ '"' :: rest ∧ WritesText raw cs := by
  constructor
  · intro h
    -- Only an escape and a plain character lead further; all else ends the reading.
    fun_induction readText s generalizing cs with
    | case1 => cases h
    | case2 =>
      obtain ⟨rfl, rfl⟩ := Prod.mk.inj (Except.ok.inj h)
      exact ⟨[], rfl, .nil⟩
    | case3 => cases h
    | case4 s d s' hescape _ ih =>
      obtain ⟨⟨cs, _⟩, hread, heq⟩ := exists_of_map_eq_ok h
      obtain ⟨rfl, rfl⟩ := Prod.mk.inj heq
      obtain ⟨escape, rfl, hc⟩ := readEscape_eq_ok_iff.mp hescape
      obtain ⟨raw, rfl, hraw⟩ := ih hread
      exact ⟨'\\' :: (escape ++ raw), by simp, .escape hc hraw⟩
    | case5 => cases h
    | case6 c s hquote hslash hcontrol ih =>
      obtain ⟨⟨cs, _⟩, hread, heq⟩ := exists_of_map_eq_ok h
      obtain ⟨rfl, rfl⟩ := Prod.mk.inj heq
      obtain ⟨raw, rfl, hraw⟩ := ih hread
      exact ⟨c :: raw, rfl, .plain hquote hslash hcontrol hraw⟩
  · rintro ⟨raw, rfl, hraw⟩
    -- And back: each rule for a written string is one step of the reading.
    induction hraw with
    | nil => rw [List.nil_append, readText, if_pos rfl]
    | plain hquote hslash hcontrol _ ih =>
      rw [List.cons_append, readText_plain hquote hslash hcontrol, ih]
      rfl
    | @escape escape raw _ c hc _ ih =>
      have hread : readEscape (escape ++ (raw ++ '"' :: rest)) = .ok (c, raw ++ '"' :: rest) :=
        readEscape_eq_ok_iff.mpr ⟨escape, rfl, hc⟩
      rw [List.cons_append, List.append_assoc, readText_backslash hread, ih]
      rfl

/-- The characters that need no escape. -/
def isPlain (c : Char) : Bool :=
  c != '"' && c != '\\' && !isControl c

/-- Characters that need no escape write themselves. -/
theorem WritesText.of_plain {cs : List Char} (h : cs.all isPlain) : WritesText cs cs := by
  induction cs with
  | nil => exact .nil
  | cons c cs ih =>
    obtain ⟨hc, h⟩ := Bool.and_eq_true_iff.mp h
    obtain ⟨⟨hquote, hslash⟩, hcontrol⟩ : (c ≠ '"' ∧ c ≠ '\\') ∧ ¬isControl c := by
      simpa [isPlain] using hc
    exact .plain hquote hslash hcontrol (ih h)

/-- A string writes one text only. -/
theorem WritesText.unique {raw cs cs' : List Char} (h : WritesText raw cs)
    (h' : WritesText raw cs') : cs = cs' := by
  have hread : readText (raw ++ ['"']) = .ok (cs, []) := readText_eq_ok_iff.mpr ⟨raw, rfl, h⟩
  rw [readText_eq_ok_iff.mpr ⟨raw, rfl, h'⟩] at hread
  exact (Prod.mk.inj (Except.ok.inj hread)).1.symm

/-- What follows a backslash is passed over if it may stand there. -/
theorem skipEscape_eq_ok_iff :
    skipEscape s = .ok rest ↔ ∃ escape, s = escape ++ rest ∧ IsEscape escape := by
  constructor
  · intro h
    unfold skipEscape at h
    split at h
    · cases h
    · obtain ⟨⟨n, _⟩, hhex, rfl⟩ := exists_of_map_eq_ok h
      obtain ⟨digits, rfl, hdigits⟩ := readHex_eq_ok_iff.mp hhex
      exact ⟨'u' :: digits, rfl, .number hdigits⟩
    · next letter s _ =>
      -- All other escapes are a single letter.
      split at h
      · next hsome =>
        obtain rfl := Except.ok.inj h
        obtain ⟨c, hc⟩ := Option.isSome_iff_exists.mp hsome
        exact ⟨[letter], rfl, .letter hc⟩
      · cases h
  · rintro ⟨escape, rfl, hescape⟩
    cases hescape with
    | letter h =>
      rw [List.singleton_append, skipEscape, if_pos (by simp [h])]
      exact ne_of_escaped? h
    | @number digits n h =>
      have hhex : readHex (digits ++ rest) = .ok (n, rest) :=
        readHex_eq_ok_iff.mpr ⟨digits, rfl, h⟩
      rw [List.cons_append, skipEscape, hhex]
      rfl

/-- A string is passed over up to its quote. -/
theorem skipText_eq_ok_iff :
    skipText s = .ok rest ↔ ∃ raw, s = raw ++ '"' :: rest ∧ IsRaw raw := by
  constructor
  · intro h
    fun_induction skipText s with
    | case1 => cases h
    | case2 =>
      obtain rfl := Except.ok.inj h
      exact ⟨[], rfl, .nil⟩
    | case3 => cases h
    | case4 s s' hskip _ ih =>
      obtain ⟨escape, rfl, hescape⟩ := skipEscape_eq_ok_iff.mp hskip
      obtain ⟨raw, rfl, hraw⟩ := ih h
      exact ⟨'\\' :: (escape ++ raw), by simp, .escape hescape hraw⟩
    | case5 => cases h
    | case6 c s hquote hslash hcontrol ih =>
      obtain ⟨raw, rfl, hraw⟩ := ih h
      exact ⟨c :: raw, rfl, .plain hquote hslash hcontrol hraw⟩
  · rintro ⟨raw, rfl, hraw⟩
    induction hraw with
    | nil => rw [List.nil_append, skipText, if_pos rfl]
    | plain hquote hslash hcontrol _ ih =>
      rw [List.cons_append, skipText, if_neg hquote, if_neg hslash, if_neg hcontrol, ih]
    | @escape escape raw hescape _ ih =>
      have hskip : skipEscape (escape ++ (raw ++ '"' :: rest)) = .ok (raw ++ '"' :: rest) :=
        skipEscape_eq_ok_iff.mpr ⟨escape, rfl, hescape⟩
      rw [List.cons_append, List.append_assoc, skipText, if_neg (by decide), if_pos rfl]
      -- The recursion keeps the equation of its match, so that the match cannot be rewritten.
      split
      · simp_all
      · next hskip' =>
        rw [hskip] at hskip'
        rw [← Except.ok.inj hskip', ih]

/-- A string ends at one place only. -/
theorem IsRaw.unique {raw raw' rest' : List Char} (h : IsRaw raw) (h' : IsRaw raw')
    (heq : raw ++ '"' :: rest = raw' ++ '"' :: rest') : raw = raw' ∧ rest = rest' := by
  have hskip : skipText (raw ++ '"' :: rest) = .ok rest := skipText_eq_ok_iff.mpr ⟨raw, rfl, h⟩
  rw [heq, skipText_eq_ok_iff.mpr ⟨raw', rfl, h'⟩] at hskip
  obtain rfl := Except.ok.inj hskip
  exact ⟨List.append_cancel_right heq, rfl⟩

/-! ### Numbers -/

/-- The text starts with no digit. -/
def EndsDigits (rest : List Char) : Prop :=
  ∀ c ∈ rest.head?, isDigit c = false

/-- There are digits and nothing else. -/
def IsDigits (ds : List Char) : Prop :=
  ds ≠ [] ∧ ∀ c ∈ ds, isDigit c

/-- Digits are read up to the first other character. -/
theorem readDigits_eq_ok_iff {ds : List Char} :
    readDigits s = .ok (ds, rest) ↔ s = ds ++ rest ∧ IsDigits ds ∧ EndsDigits rest := by
  constructor
  · intro h
    unfold readDigits at h
    split at h
    · cases h
    · next c s =>
      split at h
      · next hc =>
        obtain ⟨rfl, rfl⟩ := Prod.mk.inj (Except.ok.inj h)
        refine ⟨List.takeWhile_append_dropWhile.symm, ⟨?_, ?_⟩, ?_⟩
        · simp [List.takeWhile_cons_of_pos hc]
        · exact List.all_eq_true.mp List.all_takeWhile
        · -- What stops the digits is no digit.
          intro d hd
          have hdrop := List.head?_dropWhile_not isDigit (c :: s)
          rw [Option.mem_def.mp hd] at hdrop
          exact hdrop
      · cases h
  · rintro ⟨rfl, ⟨hne, hds⟩, hrest⟩
    have htake := Text.takeWhile_isDigit_append hds hrest
    have hdrop := Text.dropWhile_isDigit_append hds hrest
    cases ds with
    | nil => exact absurd rfl hne
    | cons d ds =>
      rw [List.cons_append] at htake hdrop ⊢
      simp only [readDigits, hds d List.mem_cons_self, htake, hdrop, ↓reduceIte]

/-- How the places of a number are written, if it has any. -/
inductive WritesPlaces : Option (List Char) → List Char → Prop where
  | absent : WritesPlaces none []
  | given {ds : List Char} (h : IsDigits ds) : WritesPlaces (some ds) ('.' :: ds)

/-- How the exponent of a number is written, if it has one. -/
inductive WritesExponent : Option Int → List Char → Prop where
  | absent : WritesExponent none []
  | plain {mark : Char} {ds : List Char} (hmark : mark = 'e' ∨ mark = 'E') (h : IsDigits ds) :
    WritesExponent (some (numberOf ds)) (mark :: ds)
  | plus {mark : Char} {ds : List Char} (hmark : mark = 'e' ∨ mark = 'E') (h : IsDigits ds) :
    WritesExponent (some (numberOf ds)) (mark :: '+' :: ds)
  | minus {mark : Char} {ds : List Char} (hmark : mark = 'e' ∨ mark = 'E') (h : IsDigits ds) :
    WritesExponent (some (-(numberOf ds : Int))) (mark :: '-' :: ds)

namespace NumberText

/-- How a number with these parts is written. Only the number zero starts with a zero. -/
structure Writes (t : NumberText) (text : List Char) : Prop where
  /-- There are digits in front. -/
  whole : IsDigits t.whole
  /-- A zero stands alone. -/
  zero : ¬(t.whole.head? = some '0' ∧ 1 < t.whole.length)
  /-- What follows them is written too. -/
  parts : ∃ places exponent,
    WritesPlaces t.places places ∧ WritesExponent t.exponent exponent ∧
    text = (if t.minus then ['-'] else []) ++ (t.whole ++ (places ++ exponent))

/-- The text cannot go on with a number that has these parts: there is no further digit, and no part
that is missing. -/
structure StopsAt (t : NumberText) (rest : List Char) : Prop where
  /-- No digit follows. -/
  digits : EndsDigits rest
  /-- No exponent follows, if there is none. -/
  exponent : t.exponent = none → ∀ c ∈ rest.head?, c ≠ 'e' ∧ c ≠ 'E'
  /-- No places follow, if there are none. -/
  places : t.exponent = none → t.places = none → ∀ c ∈ rest.head?, c ≠ '.'

end NumberText

/-- The digits in front are read unless a zero starts them that does not stand alone. -/
theorem readWhole_eq_ok_iff {ds : List Char} :
    readWhole s = .ok (ds, rest) ↔
      s = ds ++ rest ∧ IsDigits ds ∧ EndsDigits rest ∧
        ¬(ds.head? = some '0' ∧ 1 < ds.length) := by
  unfold readWhole
  constructor
  · intro h
    split at h
    · cases h
    · next hdigits =>
      split at h
      · cases h
      · next hzero =>
        obtain ⟨rfl, rfl⟩ := Prod.mk.inj (Except.ok.inj h)
        obtain ⟨hs, hds, hrest⟩ := readDigits_eq_ok_iff.mp hdigits
        exact ⟨hs, hds, hrest, hzero⟩
  · rintro ⟨hs, hds, hrest, hzero⟩
    simp only [readDigits_eq_ok_iff.mpr ⟨hs, hds, hrest⟩, if_neg hzero]

/-- Places are read if a point announces them. -/
theorem readPlaces_eq_ok_iff {places : Option (List Char)} :
    readPlaces s = .ok (places, rest) ↔
      ∃ text, s = text ++ rest ∧ WritesPlaces places text ∧
      (places = none → ∀ c ∈ rest.head?, c ≠ '.') ∧
      (places ≠ none → EndsDigits rest) := by
  constructor
  · intro h
    unfold readPlaces at h
    split at h
    · obtain ⟨⟨ds, _⟩, hdigits, heq⟩ := exists_of_map_eq_ok h
      obtain ⟨rfl, rfl⟩ := Prod.mk.inj heq
      obtain ⟨rfl, hds, hrest⟩ := readDigits_eq_ok_iff.mp hdigits
      exact ⟨'.' :: ds, rfl, .given hds, by simp, fun _ => hrest⟩
    · next s hpoint =>
      -- Without a point there are no places, and so the text does not start with one.
      obtain ⟨rfl, rfl⟩ := Prod.mk.inj (Except.ok.inj h)
      refine ⟨[], rfl, .absent, fun _ c hc heq => ?_, by simp⟩
      obtain ⟨s, rfl⟩ := List.head?_eq_some_iff.mp (Option.mem_def.mp hc)
      exact hpoint s (heq ▸ rfl)
  · rintro ⟨text, rfl, hplaces, hpoint, hrest⟩
    cases hplaces with
    | absent =>
      unfold readPlaces
      rw [List.nil_append]
      split
      · exact absurd rfl (hpoint rfl '.' rfl)
      · rfl
    | @given ds hds =>
      have hdigits := readDigits_eq_ok_iff.mpr ⟨rfl, hds, hrest (by simp)⟩
      rw [List.cons_append, readPlaces, hdigits]
      rfl

/-- The sign of an exponent, if it has one. -/
theorem writesExponent_of_sign {mark : Char} (hmark : mark = 'e' ∨ mark = 'E') {ds : List Char}
    (hds : IsDigits ds) (hs : (exponentSign s).2 = ds ++ rest) :
    ∃ text, mark :: s = text ++ rest ∧
      WritesExponent
        (some (if (exponentSign s).1 then -(numberOf ds : Int) else numberOf ds)) text := by
  unfold exponentSign at hs ⊢
  split at hs
  · obtain rfl : _ = ds ++ rest := hs
    exact ⟨mark :: '+' :: ds, rfl, .plus hmark hds⟩
  · obtain rfl : _ = ds ++ rest := hs
    exact ⟨mark :: '-' :: ds, rfl, .minus hmark hds⟩
  · obtain rfl : _ = ds ++ rest := hs
    exact ⟨mark :: ds, rfl, .plain hmark hds⟩

/-- No digit is a sign. -/
theorem exponentSign_append {ds : List Char} (hds : IsDigits ds) (rest : List Char) :
    exponentSign (ds ++ rest) = (false, ds ++ rest) := by
  obtain ⟨hne, hds⟩ := hds
  cases ds with
  | nil => exact absurd rfl hne
  | cons d ds =>
    have hd := hds d List.mem_cons_self
    unfold exponentSign
    split
    · next heq =>
      obtain rfl := (List.cons.inj heq).1
      exact absurd hd (by decide)
    · next heq =>
      obtain rfl := (List.cons.inj heq).1
      exact absurd hd (by decide)
    · rfl

/-- An exponent is read if its mark announces it. -/
theorem readExponent_eq_ok_iff {exponent : Option Int} :
    readExponent s = .ok (exponent, rest) ↔
      ∃ text, s = text ++ rest ∧ WritesExponent exponent text ∧
      (exponent = none → ∀ c ∈ rest.head?, c ≠ 'e' ∧ c ≠ 'E') ∧
      (exponent ≠ none → EndsDigits rest) := by
  constructor
  · intro h
    unfold readExponent at h
    split at h
    · obtain ⟨rfl, rfl⟩ := Prod.mk.inj (Except.ok.inj h)
      exact ⟨[], rfl, .absent, by simp, by simp⟩
    · next c s =>
      split at h
      · next hmark =>
        obtain ⟨⟨ds, _⟩, hdigits, heq⟩ := exists_of_map_eq_ok h
        obtain ⟨rfl, rfl⟩ := Prod.mk.inj heq
        obtain ⟨hs, hds, hrest⟩ := readDigits_eq_ok_iff.mp hdigits
        obtain ⟨text, htext, hwrites⟩ := writesExponent_of_sign hmark hds hs
        exact ⟨text, htext, hwrites, by simp, fun _ => hrest⟩
      · next hmark =>
        obtain ⟨rfl, rfl⟩ := Prod.mk.inj (Except.ok.inj h)
        exact ⟨[], rfl, .absent, by simpa using not_or.mp hmark, by simp⟩
  · rintro ⟨text, rfl, hwrites, hnone, hrest⟩
    -- The three ways to write an exponent differ in the sign, and the digits are read alike.
    have hread {ds : List Char} (hds : IsDigits ds) (hrest : EndsDigits rest) :
        readDigits (ds ++ rest) = .ok (ds, rest) := readDigits_eq_ok_iff.mpr ⟨rfl, hds, hrest⟩
    cases hwrites with
    | absent =>
      cases rest with
      | nil => rfl
      | cons c rest =>
        have hmark := hnone rfl c rfl
        rw [List.nil_append, readExponent, if_neg (not_or.mpr hmark)]
    | @plain mark ds hmark hds =>
      simp only [List.cons_append, readExponent, if_pos hmark, exponentSign_append hds,
        hread hds (hrest (by simp))]
      rfl
    | @plus mark ds hmark hds =>
      simp only [List.cons_append, readExponent, if_pos hmark, exponentSign,
        hread hds (hrest (by simp))]
      rfl
    | @minus mark ds hmark hds =>
      simp only [List.cons_append, readExponent, if_pos hmark, exponentSign,
        hread hds (hrest (by simp))]
      rfl

/-- A minus sign is taken off a number, if it has one. -/
theorem numberSign_append (s : List Char) :
    (if (numberSign s).1 then ['-'] else []) ++ (numberSign s).2 = s := by
  unfold numberSign
  split <;> rfl

/-- No digit is a minus sign. -/
theorem numberSign_digits {ds : List Char} (hds : IsDigits ds) (minus : Bool) (rest : List Char) :
    numberSign ((if minus then ['-'] else []) ++ (ds ++ rest)) = (minus, ds ++ rest) := by
  obtain ⟨hne, hds⟩ := hds
  cases minus with
  | true => rfl
  | false =>
    cases ds with
    | nil => exact absurd rfl hne
    | cons d ds =>
      have hd := hds d List.mem_cons_self
      unfold numberSign
      split
      · next heq =>
        obtain rfl := (List.cons.inj heq).1
        exact absurd hd (by decide)
      · rfl

/-- An exponent that is there starts with its mark. -/
theorem WritesExponent.eq_cons {exponent : Option Int} {text : List Char}
    (h : WritesExponent exponent text) :
    exponent = none ∧ text = [] ∨
      exponent ≠ none ∧
        ∃ mark s, text = mark :: s ∧ isDigit mark = false ∧ mark ≠ '.' := by
  have hmark {mark : Char} (hmark : mark = 'e' ∨ mark = 'E') :
      isDigit mark = false ∧ mark ≠ '.' := by
    rcases hmark with rfl | rfl <;> decide
  cases h with
  | absent => exact .inl ⟨rfl, rfl⟩
  | plain h _ => exact .inr ⟨by simp, _, _, rfl, hmark h⟩
  | plus h _ => exact .inr ⟨by simp, _, _, rfl, hmark h⟩
  | minus h _ => exact .inr ⟨by simp, _, _, rfl, hmark h⟩

/-- A text cannot go on with a number exactly if each part ends where the next one is written. -/
theorem NumberText.stopsAt_iff {t : NumberText} {places exponent : List Char}
    (hplaces : WritesPlaces t.places places) (hexponent : WritesExponent t.exponent exponent) :
    t.StopsAt rest ↔
      EndsDigits (places ++ (exponent ++ rest)) ∧
        (t.places = none → ∀ c ∈ (exponent ++ rest).head?, c ≠ '.') ∧
        (t.places ≠ none → EndsDigits (exponent ++ rest)) ∧
        (t.exponent = none → ∀ c ∈ rest.head?, c ≠ 'e' ∧ c ≠ 'E') ∧
        (t.exponent ≠ none → EndsDigits rest) := by
  obtain ⟨minus, whole, places?, exponent?⟩ := t
  dsimp only at hplaces hexponent ⊢
  have hcons {c : Char} {s : List Char} : EndsDigits (c :: s) ↔ isDigit c = false := by
    simp [EndsDigits]
  have hpoint : isDigit '.' = false := by decide
  constructor
  · rintro ⟨hrest, hmark, hnone⟩
    rcases hexponent.eq_cons with
      ⟨rfl, rfl⟩ | ⟨hsome, mark, s, rfl, hdigit, hne⟩ <;> cases hplaces <;> simp_all
  · rintro ⟨hwhole, hnone, hsome, hmark, hrest⟩
    rcases hexponent.eq_cons with ⟨rfl, rfl⟩ | ⟨hexp, mark, s, rfl, hdigit, hne⟩ <;>
      constructor <;> cases hplaces <;> simp_all

/-- A number is read if it is written there, up to the place where it cannot go on. -/
theorem readNumberText_eq_ok_iff {t : NumberText} :
    readNumberText s = .ok (t, rest) ↔
      ∃ text, s = text ++ rest ∧ t.Writes text ∧ t.StopsAt rest := by
  constructor
  · intro h
    have hs := numberSign_append s
    simp only [readNumberText, bind, Except.bind] at h
    split at h
    · cases h
    · next hwhole =>
      obtain ⟨hs₁, hds, hrest, hzero⟩ := readWhole_eq_ok_iff.mp hwhole
      split at h
      · cases h
      · next hplaces =>
        obtain ⟨placesText, hs₂, hplaces, hpoint, hrest'⟩ := readPlaces_eq_ok_iff.mp hplaces
        split at h
        · cases h
        · next hexponent =>
          obtain ⟨exponentText, hs₃, hexponent, hmark, hrest''⟩ :=
            readExponent_eq_ok_iff.mp hexponent
          obtain ⟨rfl, rfl⟩ := Prod.mk.inj (Except.ok.inj h)
          -- Each part was read up to where it ends, which is where the next one starts.
          refine ⟨_, ?_, ⟨hds, hzero, placesText, exponentText, hplaces, hexponent, rfl⟩,
            (NumberText.stopsAt_iff hplaces hexponent).mpr ⟨?_, ?_, ?_, hmark, hrest''⟩⟩
          · refine hs.symm.trans ?_
            rw [hs₁, hs₂, hs₃]
            simp only [List.append_assoc]
          · rwa [hs₂, hs₃] at hrest
          · rwa [hs₃] at hpoint
          · rwa [hs₃] at hrest'
  · rintro ⟨text, rfl,
      ⟨hds, hzero, placesText, exponentText, hplaces, hexponent, rfl⟩, hstop⟩
    obtain ⟨hrest, hpoint, hrest', hmark, hrest''⟩ :=
      (NumberText.stopsAt_iff hplaces hexponent).mp hstop
    have hwhole := readWhole_eq_ok_iff.mpr ⟨rfl, hds, hrest, hzero⟩
    have hplaces := readPlaces_eq_ok_iff.mpr ⟨placesText, rfl, hplaces, hpoint, hrest'⟩
    have hexponent := readExponent_eq_ok_iff.mpr ⟨exponentText, rfl, hexponent, hmark, hrest''⟩
    simp only [readNumberText, List.append_assoc, numberSign_digits hds, hwhole, hplaces, hexponent,
      bind, Except.bind]

/-- A number ends at one place only, if it does not go on there. -/
theorem NumberText.Writes.unique {t t' : NumberText} {text text' rest' : List Char}
    (h : t.Writes text) (h' : t'.Writes text') (heq : text ++ rest = text' ++ rest')
    (hstop : t.StopsAt rest) (hstop' : t'.StopsAt rest') : t = t' ∧ rest = rest' := by
  have hread : readNumberText (text ++ rest) = .ok (t, rest) :=
    readNumberText_eq_ok_iff.mpr ⟨text, rfl, h, hstop⟩
  rw [readNumberText_eq_ok_iff.mpr ⟨text', heq, h', hstop'⟩] at hread
  exact Prod.mk.inj (Except.ok.inj hread.symm)

end NewsReader.Json
