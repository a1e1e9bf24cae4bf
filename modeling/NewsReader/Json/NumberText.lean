import NewsReader.Json.Scan

/-!
# Reading numbers

A number is read in two steps. `readNumberText` takes its parts off the text; `NumberText.value`
gives the number that they write.

The digits of a number that is not whole, or does not fit in 64 bits, are gathered into 64 bits.
Digits of the whole part that do not fit only move the point; places that do not fit are left out.
The number is what was gathered, moved by the places and the exponent.
-/

namespace NewsReader.Json

open Text (isDigit digitValue numberOf)
open Decimal (Binary64)

/-- The parts of a number as they are written. -/
structure NumberText where
  /-- A minus sign stands in front. -/
  minus : Bool
  /-- The digits of the whole part. -/
  whole : List Char
  /-- The digits after the point, if there is one. -/
  places : Option (List Char)
  /-- The exponent, if there is one. -/
  exponent : Option Int
  deriving DecidableEq

/-- Read digits, of which there must be one. -/
def readDigits (s : List Char) : Except Fault (List Char × List Char) :=
  match s with
  | [] => .error (.ended .value)
  | c :: _ =>
    if isDigit c then .ok (s.takeWhile isDigit, s.dropWhile isDigit) else .error .badNumber

/-- Read the whole part. It has no zero in front of other digits. -/
def readWhole (s : List Char) : Except Fault (List Char × List Char) :=
  match readDigits s with
  | .error fault => .error fault
  | .ok (digits, rest) =>
    if digits.head? = some '0' ∧ 1 < digits.length then .error .badNumber else .ok (digits, rest)

/-- Read a point and the places after it, if there is a point. -/
def readPlaces : List Char → Except Fault (Option (List Char) × List Char)
  | '.' :: s => (readDigits s).map fun (digits, rest) => (some digits, rest)
  | s => .ok (none, s)

/-- Take the sign off an exponent. -/
def exponentSign : List Char → Bool × List Char
  | '+' :: s => (false, s)
  | '-' :: s => (true, s)
  | s => (false, s)

/-- Read an exponent with its mark, if there is one. -/
def readExponent (s : List Char) : Except Fault (Option Int × List Char) :=
  match s with
  | [] => .ok (none, [])
  | c :: rest =>
    if c = 'e' ∨ c = 'E' then
      let (minus, rest) := exponentSign rest
      (readDigits rest).map fun (digits, rest) =>
        (some (if minus then -(numberOf digits : Int) else numberOf digits), rest)
    else .ok (none, s)

/-- Take a minus sign off a number. -/
def numberSign : List Char → Bool × List Char
  | '-' :: s => (true, s)
  | s => (false, s)

/-- Read the parts of a number. -/
def readNumberText (s : List Char) : Except Fault (NumberText × List Char) := do
  let (minus, s) := numberSign s
  let (whole, s) ← readWhole s
  let (places, s) ← readPlaces s
  let (exponent, s) ← readExponent s
  .ok (⟨minus, whole, places, exponent⟩, s)

/-- The numbers that fit in 64 bits are below this one. -/
def wordLimit : Nat :=
  Nat.pow 2 64

/-- Add digits to a number as long as it fits in 64 bits. The answer has the digits that are
left. -/
def gather (n : Nat) : List Char → Nat × List Char
  | [] => (n, [])
  | d :: ds =>
    if n * 10 + digitValue d < wordLimit then gather (n * 10 + digitValue d) ds else (n, d :: ds)

/-- A number with 53 bits, unless it is too large. -/
def realNumber (minus : Bool) (n : Nat) (shift : Int) : Except Fault Number :=
  match (Binary64.ofNat n).bind (·.shiftPoint shift) with
  | some x => .ok (.real minus x)
  | none => .error .numberTooLarge

/-- A whole number that fits in 64 bits. There is a negative zero only among the numbers with 53
bits. -/
def wholeNumber (minus : Bool) (n : Nat) : Except Fault Number :=
  if minus then
    if 0 < n ∧ n ≤ Nat.pow 2 63 then .ok (.negative n) else realNumber true n 0
  else .ok (.natural n)

/-- The number that the parts write. -/
def NumberText.value (t : NumberText) : Except Fault Number :=
  let (n, left) := gather 0 t.whole
  match t.places, t.exponent, left with
  | none, none, [] => wholeNumber t.minus n
  | _, _, _ =>
    let places := t.places.getD []
    let (n, unread) := gather n places
    let shift : Int := left.length - (places.length - unread.length)
    realNumber t.minus n (shift + t.exponent.getD 0)

/-- Read a number. -/
def readNumber (s : List Char) : Except Fault (Number × List Char) := do
  let (text, rest) ← readNumberText s
  let n ← text.value
  .ok (n, rest)

/-- Pass over a number. It has to be written as one, and its size does not matter. -/
def skipNumber (s : List Char) : Except Fault (List Char) :=
  match readNumberText s with
  | .error _ => .error .badNumber
  | .ok (_, rest) => .ok rest

/-- A digit is taken. -/
theorem length_of_readDigits {s digits rest : List Char} (h : readDigits s = .ok (digits, rest)) :
    rest.length < s.length := by
  unfold readDigits at h
  split at h
  · contradiction
  · next c s =>
    split at h
    · next hc =>
      simp only [Except.ok.injEq, Prod.mk.injEq] at h
      rw [← h.2, List.dropWhile_cons_of_pos hc]
      exact Nat.lt_succ_of_le (List.dropWhile_sublist _).length_le
    · contradiction

/-- A digit is taken. -/
theorem length_of_readWhole {s digits rest : List Char} (h : readWhole s = .ok (digits, rest)) :
    rest.length < s.length := by
  unfold readWhole at h
  split at h
  · contradiction
  · next hd =>
    split at h
    · contradiction
    · simp only [Except.ok.injEq, Prod.mk.injEq] at h
      exact h.2 ▸ length_of_readDigits hd

/-- No character is gained. -/
theorem length_of_readPlaces {s rest : List Char} {places : Option (List Char)}
    (h : readPlaces s = .ok (places, rest)) : rest.length ≤ s.length := by
  unfold readPlaces at h
  split at h
  · next s =>
    obtain ⟨r, hr, heq⟩ := exists_of_map_eq_ok h
    obtain ⟨-, rfl⟩ := Prod.mk.inj heq
    have := length_of_readDigits hr
    rw [List.length_cons]
    omega
  · simp only [Except.ok.injEq, Prod.mk.injEq] at h
    simp [h.2]

/-- No character is gained. -/
theorem length_exponentSign_le (s : List Char) : (exponentSign s).2.length ≤ s.length := by
  unfold exponentSign
  split <;> simp

/-- No character is gained. -/
theorem length_numberSign_le (s : List Char) : (numberSign s).2.length ≤ s.length := by
  unfold numberSign
  split <;> simp

/-- No character is gained. -/
theorem length_of_readExponent {s rest : List Char} {exponent : Option Int}
    (h : readExponent s = .ok (exponent, rest)) : rest.length ≤ s.length := by
  unfold readExponent at h
  split at h
  · simp_all
  · next c s =>
    split at h
    · obtain ⟨r, hr, heq⟩ := exists_of_map_eq_ok h
      obtain ⟨-, rfl⟩ := Prod.mk.inj heq
      have := length_exponentSign_le s
      have : r.2.length < (exponentSign s).2.length := length_of_readDigits hr
      rw [List.length_cons]
      omega
    · simp_all

/-- A digit is taken. -/
theorem length_of_readNumberText {s rest : List Char} {t : NumberText}
    (h : readNumberText s = .ok (t, rest)) : rest.length < s.length := by
  simp only [readNumberText] at h
  cases hw : readWhole (numberSign s).2 with
  | error => simp [hw, bind, Except.bind] at h
  | ok w =>
    cases hp : readPlaces w.2 with
    | error => simp [hw, hp, bind, Except.bind] at h
    | ok p =>
      cases he : readExponent p.2 with
      | error => simp [hw, hp, he, bind, Except.bind] at h
      | ok e =>
        simp only [hw, hp, he, bind, Except.bind, Except.ok.injEq, Prod.mk.injEq] at h
        have := length_numberSign_le s
        have := length_of_readWhole hw
        have := length_of_readPlaces hp
        have := length_of_readExponent he
        rw [← h.2]
        omega

/-- A digit is taken. -/
theorem length_of_readNumber {s rest : List Char} {n : Number} (h : readNumber s = .ok (n, rest)) :
    rest.length < s.length := by
  simp only [readNumber] at h
  cases ht : readNumberText s with
  | error => simp [ht, bind, Except.bind] at h
  | ok t =>
    cases hv : t.1.value with
    | error => simp [ht, hv, bind, Except.bind] at h
    | ok v =>
      simp only [ht, hv, bind, Except.bind, Except.ok.injEq, Prod.mk.injEq] at h
      exact h.2 ▸ length_of_readNumberText ht

/-- A digit is taken. -/
theorem length_of_skipNumber {s rest : List Char} (h : skipNumber s = .ok rest) :
    rest.length < s.length := by
  unfold skipNumber at h
  split at h
  · contradiction
  · next ht =>
    simp only [Except.ok.injEq] at h
    exact h ▸ length_of_readNumberText ht

end NewsReader.Json
