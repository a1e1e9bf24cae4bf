import NewsReader.Text.Digits

/-!
# Labels in letters and digits

A label of a domain name that has other characters than those of ASCII is written with letters,
digits and hyphens alone. Its ASCII characters come first, with a hyphen after them if there are
any. Then each of the others follows, by code point and place, as the number of steps from the one
before: a step goes to the next place, and from the last place to the first one for the next code
point.

A number is written with digits in base thirty-six, the lowest first. A digit below its threshold is
the last one. Thresholds follow the bias, which adapts to the numbers before.
-/

namespace NewsReader.Url.Punycode

open Text (isDigit digitValue)

/-- The base of the digits. -/
def base : Nat :=
  36

/-- Numbers and weights that are not below this limit are refused. -/
def limit : Nat :=
  Nat.pow 2 32

/-- The value of a digit: a letter from zero on, or a digit from twenty-six on. -/
def digit? (c : Char) : Option Nat :=
  if c.isAlpha then some (c.toLower.toNat - 'a'.toNat)
  else if isDigit c then some (digitValue c + 26)
  else none

/-- The threshold of the digit at `position`, which counts by the base. -/
def threshold (bias position : Nat) : Nat :=
  min 26 (max 1 (position - bias))

/-- Divide a number until it is small, and count by the base how often. -/
def shrink (n : Nat) : Nat × Nat :=
  if 455 < n then
    let (position, rest) := shrink (n / 35)
    (position + base, rest)
  else (0, n)
termination_by n

/-- The bias after a number that put the `count`-th character in place. -/
def adapt (n count : Nat) (isFirst : Bool) : Nat :=
  let n := if isFirst then n / 700 else n / 2
  let (position, rest) := shrink (n + n / count)
  position + base * rest / (rest + 38)

/-- Read a number and add it to `n`. -/
def readNumber (bias position weight n : Nat) : List Char → Option (Nat × List Char)
  | [] => none
  | c :: cs =>
    match digit? c with
    | none => none
    | some d =>
      let t := threshold bias position
      let n := n + d * weight
      if limit ≤ n then none
      else if d < t then some (n, cs)
      else if limit ≤ weight * (base - t) then none
      else readNumber bias (position + base) (weight * (base - t)) n cs

/-- A number takes at least one digit. -/
theorem length_of_readNumber {bias position weight n m : Nat} {cs rest : List Char}
    (h : readNumber bias position weight n cs = some (m, rest)) : rest.length < cs.length := by
  -- Each digit is a character, and the number ends with one of them.
  induction cs generalizing position weight n with
  | nil => simp [readNumber] at h
  | cons c cs ih =>
    simp only [readNumber] at h
    split at h
    · contradiction
    · split at h
      · contradiction
      · split at h
        · obtain ⟨-, rfl⟩ := Prod.mk.inj (Option.some.inj h)
          simp
        · split at h
          · contradiction
          · have := ih h
            simp only [List.length_cons]
            omega

/-- How far a label has been read. -/
structure State where
  /-- The bias for the next number. -/
  bias : Nat
  /-- The code point of the next character, if the number is below that of the places. -/
  codePoint : Nat
  /-- The place of the next character, if the number is zero. -/
  place : Nat
  /-- The characters so far. -/
  label : List Char
  deriving DecidableEq

/-- The state after the ASCII characters of a label. -/
def State.start (label : List Char) : State :=
  ⟨72, 0x80, 0, label⟩

/-- Put the character in place to which a number leads that was counted from the place before. -/
def State.insert? (st : State) (n : Nat) : Option State :=
  let count := st.label.length + 1
  let codePoint := st.codePoint + n / count
  if codePoint.isValidChar then
    some
      { bias := adapt (n - st.place) count (st.place == 0), codePoint, place := n % count + 1
        label := st.label.insertIdx (n % count) (Char.ofNat codePoint) }
  else none

/-- Read characters to the end. -/
def State.read (st : State) (cs : List Char) : Option (List Char) :=
  if cs.isEmpty then some st.label
  else
    match h : readNumber st.bias base 1 st.place cs with
    | none => none
    | some (n, rest) =>
      have : rest.length < cs.length := length_of_readNumber h
      match st.insert? n with
      | none => none
      | some st => st.read rest
termination_by cs.length

/-- The label that is written in letters and digits. The hyphen after the ASCII characters is the
last one. -/
def decode? (cs : List Char) : Option (List Char) :=
  match cs.reverse.span (· != '-') with
  | (_, []) => (State.start []).read cs
  | (_, [_]) => none
  | (numbers, _ :: front) => (State.start front.reverse).read numbers.reverse

end NewsReader.Url.Punycode
