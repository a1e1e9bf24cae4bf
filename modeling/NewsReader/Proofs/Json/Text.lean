import NewsReader.Json.Scan
import NewsReader.Json.Value

/-!
# Written strings are read back

Each character of a written string is one of three: it stands as it is, it is a letter after a
backslash, or it is a number of four digits. Reading takes any of them off the front as that one
character, so a written string is read back whatever follows its quote.

* `readText_escapeChar` — the step: one written character is read as itself.
* `readText_escaped` — the run: a written string is read as its characters.
-/

namespace NewsReader.Json

open Text (hexValue?)

/-- Put a character before what has been read. -/
def consText (c : Char) (read : List Char × List Char) : List Char × List Char :=
  (c :: read.1, read.2)

/-- A digit in base sixteen has the value that it is written for. -/
theorem hexValue?_hexDigit (n : Nat) : hexValue? (hexDigit n) = some (n % 16) := by
  -- Only the remainder counts, so there are sixteen digits to look at.
  have hdigits : ∀ d : Fin 16, hexValue? (Nat.digitChar d) = some d.val := by decide
  exact hdigits ⟨n % 16, Nat.mod_lt n (by decide)⟩

/-- A character that is neither a quote, a backslash nor a control stands for itself. -/
theorem readText_plain {c : Char} (hquote : c ≠ '"') (hslash : c ≠ '\\')
    (hcontrol : ¬isControl c) (s : List Char) :
    readText (c :: s) = (readText s).map (consText c) := by
  rw [readText, if_neg hquote, if_neg hslash, if_neg hcontrol]
  rfl

/-- What follows a backslash stands for the character that it is read as. -/
theorem readText_backslash {c : Char} {s rest : List Char} (h : readEscape s = .ok (c, rest)) :
    readText ('\\' :: s) = (readText rest).map (consText c) := by
  rw [readText, if_neg (by decide), if_pos rfl]
  -- The recursion keeps the equation of its match, so that the match cannot be rewritten.
  split
  · next hread =>
    rw [h] at hread
    contradiction
  · next d rest' hread =>
    rw [h] at hread
    obtain ⟨rfl, rfl⟩ := Prod.mk.inj (Except.ok.inj hread)
    rfl

/-- A control that is written by number is read as itself. -/
theorem readEscape_control {c : Char} (hc : c.toNat < 0x20) (rest : List Char) :
    readEscape ('u' :: '0' :: '0' :: hexDigit (c.toNat / 16) :: hexDigit c.toNat :: rest) =
      .ok (c, rest) := by
  have hzero : hexValue? '0' = some 0 := by decide
  have hnumber : ((0 * 16 + 0) * 16 + c.toNat / 16 % 16) * 16 + c.toNat % 16 = c.toNat := by omega
  -- A control is no half of a pair, so nothing has to come after the number.
  have hlow : isLowSurrogate c.toNat = false := by
    simp [isLowSurrogate]
    omega
  have hhigh : isHighSurrogate c.toNat = false := by
    simp [isHighSurrogate]
    omega
  simp only [readEscape, readByNumber, readHex, hzero, hexValue?_hexDigit, hnumber, hlow, hhigh,
    Bool.false_eq_true, ↓reduceIte, Char.ofNat_toNat]

/-- A letter after a backslash is read as the character that it stands for. -/
theorem readText_letter {letter c : Char} (hu : letter ≠ 'u') (h : escaped? letter = some c)
    (s : List Char) : readText ('\\' :: letter :: s) = (readText s).map (consText c) := by
  refine readText_backslash ?_
  rw [readEscape, h]
  exact hu

/-- The three forms of a written character. -/
theorem escapeChar_cases (c : Char) :
    (∃ letter, letter ≠ 'u' ∧ escaped? letter = some c ∧ escapeChar c = ['\\', letter]) ∨
      (c.toNat < 0x20 ∧
        escapeChar c = ['\\', 'u', '0', '0', hexDigit (c.toNat / 16), hexDigit c.toNat]) ∨
      (c ≠ '"' ∧ c ≠ '\\' ∧ ¬isControl c ∧ escapeChar c = [c]) := by
  -- The letters come first, as in `escapeChar`; what is left after them is a control or plain.
  by_cases hquote : c = '"'
  · exact .inl ⟨'"', by decide, by rw [hquote]; rfl, by simp [escapeChar, hquote]⟩
  by_cases hslash : c = '\\'
  · exact .inl ⟨'\\', by decide, by rw [hslash]; rfl, by simp [escapeChar, hslash]⟩
  by_cases hb : c = '\x08'
  · exact .inl ⟨'b', by decide, by rw [hb]; rfl, by simp [escapeChar, hb]⟩
  by_cases hf : c = '\x0C'
  · exact .inl ⟨'f', by decide, by rw [hf]; rfl, by simp [escapeChar, hf]⟩
  by_cases hn : c = '\n'
  · exact .inl ⟨'n', by decide, by rw [hn]; rfl, by simp [escapeChar, hn]⟩
  by_cases hr : c = '\r'
  · exact .inl ⟨'r', by decide, by rw [hr]; rfl, by simp [escapeChar, hr]⟩
  by_cases ht : c = '\t'
  · exact .inl ⟨'t', by decide, by rw [ht]; rfl, by simp [escapeChar, ht]⟩
  by_cases hcontrol : c.toNat < 0x20
  · refine .inr (.inl ⟨hcontrol, ?_⟩)
    simp [escapeChar, hquote, hslash, hb, hf, hn, hr, ht, hcontrol]
  · refine .inr (.inr ⟨hquote, hslash, ?_, ?_⟩)
    · simpa [isControl] using hcontrol
    · simp [escapeChar, hquote, hslash, hb, hf, hn, hr, ht, hcontrol]

/-- One written character is read as itself. -/
theorem readText_escapeChar (c : Char) (s : List Char) :
    readText (escapeChar c ++ s) = (readText s).map (consText c) := by
  rcases escapeChar_cases c with
    ⟨letter, hu, hletter, hform⟩ | ⟨hcontrol, hform⟩ | ⟨hquote, hslash,
      hcontrol, hform⟩ <;> rw [hform]
  · exact readText_letter hu hletter s
  · exact readText_backslash (readEscape_control hcontrol s)
  · exact readText_plain hquote hslash hcontrol s

/-- A written string is read as its characters, whatever follows the quote that ends it. -/
theorem readText_escaped (cs rest : List Char) :
    readText (cs.flatMap escapeChar ++ '"' :: rest) = .ok (cs, rest) := by
  induction cs with
  | nil => rw [List.flatMap_nil, List.nil_append, readText, if_pos rfl]
  | cons c cs ih =>
    rw [List.flatMap_cons, List.append_assoc, readText_escapeChar, ih]
    rfl

end NewsReader.Json
