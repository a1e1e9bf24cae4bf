import NewsReader.Json.Fault
import NewsReader.Text.Digits

/-!
# Strings of a JSON text

Reading works on the characters that are left of a text. `readText` reads a string whose quote has
been taken and gives its characters; `skipText` passes over one.

A code point past 16 bits is written by two numbers, the halves of a pair. A reader refuses a half
that stands alone. When a string is passed over, its numbers have to be hexadecimal and that is all.
-/

namespace NewsReader.Json

open Text (hexValue?)

/-- The blanks between the parts of a text. -/
def isSpace (c : Char) : Bool :=
  c = ' ' || c = '\t' || c = '\n' || c = '\r'

/-- Pass over blanks. -/
def skipSpace (s : List Char) : List Char :=
  s.dropWhile isSpace

/-- Read the letters of a word, of which the first has been taken. -/
def readWord : List Char → List Char → Except Fault (List Char)
  | [], s => .ok s
  | _ :: _, [] => .error (.ended .value)
  | w :: ws, c :: s => if w = c then readWord ws s else .error .noWord

/-- A character that cannot stand in a string as it is. -/
def isControl (c : Char) : Bool :=
  c.toNat < 0x20

/-- The character that a letter after a backslash stands for. -/
def escaped? (c : Char) : Option Char :=
  match c with
  | '"' => some '"'
  | '\\' => some '\\'
  | '/' => some '/'
  | 'b' => some '\x08'
  | 'f' => some '\x0C'
  | 'n' => some '\n'
  | 'r' => some '\r'
  | 't' => some '\t'
  | _ => none

/-- The number of bytes that characters take. -/
def byteCount (s : List Char) : Nat :=
  s.foldr (fun c n => c.utf8Size + n) 0

/-- Read four hexadecimal digits. The text breaks off if fewer than four bytes are left. -/
def readHex (s : List Char) : Except Fault (Nat × List Char) :=
  match s with
  | a :: b :: c :: d :: rest =>
    match hexValue? a, hexValue? b, hexValue? c, hexValue? d with
    | some a, some b, some c, some d => .ok (((a * 16 + b) * 16 + c) * 16 + d, rest)
    | _, _, _, _ => .error .badEscape
  | _ => .error (if byteCount s < 4 then .ended .string else .badEscape)

/-- The first half of a pair. -/
def isHighSurrogate (n : Nat) : Bool :=
  0xD800 ≤ n && n ≤ 0xDBFF

/-- The second half of a pair. -/
def isLowSurrogate (n : Nat) : Bool :=
  0xDC00 ≤ n && n ≤ 0xDFFF

/-- The code point that the halves of a pair write. -/
def joinSurrogates (high low : Nat) : Nat :=
  0x10000 + (high - 0xD800) * 0x400 + (low - 0xDC00)

/-- Read the second half of a pair. -/
def readLowSurrogate (high : Nat) : List Char → Except Fault (Char × List Char)
  | [] => .error (.ended .string)
  | ['\\'] => .error (.ended .string)
  | '\\' :: 'u' :: s =>
    match readHex s with
    | .error fault => .error fault
    | .ok (low, s) =>
      if isLowSurrogate low then .ok (Char.ofNat (joinSurrogates high low), s)
      else .error .loneSurrogate
  | _ => .error .unfinishedSurrogate

/-- Read a character that is written by number. -/
def readByNumber (s : List Char) : Except Fault (Char × List Char) :=
  match readHex s with
  | .error fault => .error fault
  | .ok (n, s) =>
    if isLowSurrogate n then .error .loneSurrogate
    else if isHighSurrogate n then readLowSurrogate n s
    else .ok (Char.ofNat n, s)

/-- Read what follows a backslash. -/
def readEscape : List Char → Except Fault (Char × List Char)
  | [] => .error (.ended .string)
  | 'u' :: s => readByNumber s
  | c :: s =>
    match escaped? c with
    | some d => .ok (d, s)
    | none => .error .badEscape

/-- Four digits are taken. -/
theorem length_of_readHex {s rest : List Char} {n : Nat} (h : readHex s = .ok (n, rest)) :
    rest.length < s.length := by
  unfold readHex at h
  split at h
  · split at h
    · simp only [Except.ok.injEq, Prod.mk.injEq] at h
      simp [← h.2]
      omega
    · simp at h
  · simp at h

/-- Something is taken. -/
theorem length_of_readLowSurrogate {high : Nat} {s rest : List Char} {c : Char}
    (h : readLowSurrogate high s = .ok (c, rest)) : rest.length < s.length := by
  unfold readLowSurrogate at h
  split at h <;> try contradiction
  split at h
  · contradiction
  · next s low s' hs =>
    have := length_of_readHex hs
    split at h
    · simp only [Except.ok.injEq, Prod.mk.injEq] at h
      simp [← h.2]
      omega
    · contradiction

/-- Something is taken. -/
theorem length_of_readByNumber {s rest : List Char} {c : Char}
    (h : readByNumber s = .ok (c, rest)) : rest.length < s.length := by
  unfold readByNumber at h
  split at h
  · contradiction
  · next n s' hs =>
    have := length_of_readHex hs
    split at h
    · contradiction
    · split at h
      · have := length_of_readLowSurrogate h
        omega
      · simp only [Except.ok.injEq, Prod.mk.injEq] at h
        simp [← h.2]
        omega

/-- Something is taken. -/
theorem length_of_readEscape {s rest : List Char} {c : Char} (h : readEscape s = .ok (c, rest)) :
    rest.length < s.length := by
  unfold readEscape at h
  split at h
  · contradiction
  · have := length_of_readByNumber h
    simp
    omega
  · split at h
    · simp only [Except.ok.injEq, Prod.mk.injEq] at h
      simp [← h.2]
    · contradiction

/-- Read a string up to the quote that ends it. -/
def readText (s : List Char) : Except Fault (List Char × List Char) :=
  match s with
  | [] => .error (.ended .string)
  | c :: s =>
    if c = '"' then .ok ([], s)
    else if c = '\\' then
      match _h : readEscape s with
      | .error fault => .error fault
      | .ok (d, rest) => (readText rest).map fun (text, rest) => (d :: text, rest)
    else if isControl c then .error .controlCharacter
    else (readText s).map fun (text, rest) => (c :: text, rest)
termination_by s.length
decreasing_by
  · have := length_of_readEscape _h
    simp
    omega
  · simp

/-- Something is taken, the quote at least. -/
theorem length_of_readText {s text rest : List Char} (h : readText s = .ok (text, rest)) :
    rest.length < s.length := by
  -- The induction follows the reading; only escapes and plain characters go on.
  fun_induction readText s generalizing text rest with
  | case1 => contradiction
  | case2 => simp_all
  | case3 => contradiction
  | case4 s d s' hs _ ih =>
    have := length_of_readEscape hs
    obtain ⟨r, hr, heq⟩ := exists_of_map_eq_ok h
    obtain ⟨rfl, rfl⟩ := Prod.mk.inj heq
    have := ih hr
    rw [List.length_cons]
    omega
  | case5 => contradiction
  | case6 c s _ _ _ ih =>
    obtain ⟨r, hr, heq⟩ := exists_of_map_eq_ok h
    obtain ⟨rfl, rfl⟩ := Prod.mk.inj heq
    have := ih hr
    rw [List.length_cons]
    omega

/-- Pass over what follows a backslash. -/
def skipEscape : List Char → Except Fault (List Char)
  | [] => .error (.ended .string)
  | 'u' :: s => (readHex s).map (·.2)
  | c :: s => if (escaped? c).isSome then .ok s else .error .badEscape

/-- Something is taken. -/
theorem length_of_skipEscape {s rest : List Char} (h : skipEscape s = .ok rest) :
    rest.length < s.length := by
  unfold skipEscape at h
  split at h
  · contradiction
  · next s =>
    obtain ⟨r, hr, rfl⟩ := exists_of_map_eq_ok h
    have := length_of_readHex hr
    rw [List.length_cons]
    omega
  · split at h
    · simp only [Except.ok.injEq] at h
      simp [← h]
    · contradiction

/-- Pass over a string up to the quote that ends it. -/
def skipText (s : List Char) : Except Fault (List Char) :=
  match s with
  | [] => .error (.ended .string)
  | c :: s =>
    if c = '"' then .ok s
    else if c = '\\' then
      match _h : skipEscape s with
      | .error fault => .error fault
      | .ok rest => skipText rest
    else if isControl c then .error .controlCharacter
    else skipText s
termination_by s.length
decreasing_by
  · have := length_of_skipEscape _h
    simp
    omega
  · simp

/-- Something is taken, the quote at least. -/
theorem length_of_skipText {s rest : List Char} (h : skipText s = .ok rest) :
    rest.length < s.length := by
  fun_induction skipText s generalizing rest with
  | case1 => contradiction
  | case2 => simp_all
  | case3 => contradiction
  | case4 s s' hs _ ih =>
    have := length_of_skipEscape hs
    have := ih h
    simp
    omega
  | case5 => contradiction
  | case6 c s _ _ _ ih =>
    have := ih h
    simp
    omega

/-- No character is gained by passing over blanks. -/
theorem length_skipSpace_le (s : List Char) : (skipSpace s).length ≤ s.length :=
  (List.dropWhile_sublist _).length_le

/-- No character is gained by reading a word. -/
theorem length_of_readWord {ws s rest : List Char} (h : readWord ws s = .ok rest) :
    rest.length ≤ s.length := by
  induction ws generalizing s with
  | nil => simp_all [readWord]
  | cons w ws ih =>
    cases s with
    | nil => simp [readWord] at h
    | cons c s =>
      simp only [readWord] at h
      split at h
      · have := ih h
        simp
        omega
      · contradiction

end NewsReader.Json
