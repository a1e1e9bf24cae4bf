/-!
# UTF-8

Bytes are read as characters by one step function, `decodeFirst`. It takes a character off the
front, or the longest run of bytes that begins a character and then breaks off. Strict decoding
refuses such a run; lenient decoding shows one replacement character for each.

`decode?_cons` and `decodeLenient_cons` say how both follow the step.
-/

namespace NewsReader.Text

/-- The bytes of one character. -/
def encodeChar (c : Char) : List UInt8 :=
  String.utf8EncodeChar c

/-- The bytes of a text. -/
def encode (cs : List Char) : List UInt8 :=
  cs.flatMap encodeChar

/-- What a lead byte promises: how many bytes follow it, the bits that it gives itself, and the
range that the first of the following bytes lies in. -/
structure Lead where
  /-- How many bytes follow. -/
  more : Nat
  /-- The leading bits of the code point. -/
  bits : Nat
  /-- The least value of the byte after the lead byte. -/
  lo : Nat
  /-- The greatest value of the byte after the lead byte. -/
  hi : Nat

/-- Read a lead byte. The ranges leave out overlong forms, surrogates, and code points past the
last. -/
def Lead.ofByte? (b : Nat) : Option Lead :=
  if b < 0x80 then some ⟨0, b, 0x80, 0xBF⟩
  else if b < 0xC2 then none
  else if b < 0xE0 then some ⟨1, b - 0xC0, 0x80, 0xBF⟩
  else if b = 0xE0 then some ⟨2, b - 0xE0, 0xA0, 0xBF⟩
  else if b = 0xED then some ⟨2, b - 0xE0, 0x80, 0x9F⟩
  else if b < 0xF0 then some ⟨2, b - 0xE0, 0x80, 0xBF⟩
  else if b = 0xF0 then some ⟨3, b - 0xF0, 0x90, 0xBF⟩
  else if b < 0xF4 then some ⟨3, b - 0xF0, 0x80, 0xBF⟩
  else if b = 0xF4 then some ⟨3, b - 0xF0, 0x80, 0x8F⟩
  else none

/-- Read the bytes after a lead byte, the first of them in the range from `lo` to `hi`. The answer
is the code point, if the bytes are all there, and the bytes that are left. -/
def readTail (more lo hi bits : Nat) (bs : List UInt8) : Option Nat × List UInt8 :=
  match more, bs with
  | 0, bs => (some bits, bs)
  | _ + 1, [] => (none, [])
  | more + 1, b :: bs =>
    if lo ≤ b.toNat ∧ b.toNat ≤ hi then readTail more 0x80 0xBF (bits * 64 + b.toNat % 64) bs
    else (none, b :: bs)

/-- Take the first character off the bytes `b :: bs`, or the bytes that break off. -/
def decodeFirst (b : UInt8) (bs : List UInt8) : Option Char × List UInt8 :=
  match Lead.ofByte? b.toNat with
  | none => (none, bs)
  | some lead =>
    let (point, rest) := readTail lead.more lead.lo lead.hi lead.bits bs
    (point.map Char.ofNat, rest)

/-- No bytes are gained. -/
theorem length_readTail_le (more lo hi bits : Nat) (bs : List UInt8) :
    (readTail more lo hi bits bs).2.length ≤ bs.length := by
  induction more generalizing lo hi bits bs with
  | zero => simp [readTail]
  | succ more ih =>
    cases bs with
    | nil => simp [readTail]
    | cons b bs =>
      simp only [readTail]
      split
      · exact Nat.le_succ_of_le (ih ..)
      · simp

/-- What follows the first character is shorter than the whole. -/
theorem length_decodeFirst_lt (b : UInt8) (bs : List UInt8) :
    (decodeFirst b bs).2.length < (b :: bs).length := by
  unfold decodeFirst
  split
  · simp
  · exact Nat.lt_succ_of_le (length_readTail_le ..)

/-- The characters of the bytes, if the bytes are well formed. -/
def decode? (bytes : List UInt8) : Option (List Char) :=
  match bytes with
  | [] => some []
  | b :: bs =>
    match (decodeFirst b bs).1 with
    | none => none
    | some c => (decode? (decodeFirst b bs).2).map (c :: ·)
termination_by bytes.length
decreasing_by exact length_decodeFirst_lt b bs

/-- The character that stands for bytes that are not well formed. -/
def replacementChar : Char :=
  '\uFFFD'

/-- The characters of the bytes, with a replacement character for each run that breaks off. -/
def decodeLenient (bytes : List UInt8) : List Char :=
  match bytes with
  | [] => []
  | b :: bs => (decodeFirst b bs).1.getD replacementChar :: decodeLenient (decodeFirst b bs).2
termination_by bytes.length
decreasing_by exact length_decodeFirst_lt b bs

@[simp] theorem decode?_nil : decode? [] = some [] := by
  rw [decode?]

theorem decode?_cons (b : UInt8) (bs : List UInt8) :
    decode? (b :: bs) =
      (decodeFirst b bs).1.bind fun c => (decode? (decodeFirst b bs).2).map (c :: ·) := by
  rw [decode?]
  cases (decodeFirst b bs).1 <;> rfl

@[simp] theorem decodeLenient_nil : decodeLenient [] = [] := by
  rw [decodeLenient]

theorem decodeLenient_cons (b : UInt8) (bs : List UInt8) :
    decodeLenient (b :: bs) =
      (decodeFirst b bs).1.getD replacementChar :: decodeLenient (decodeFirst b bs).2 := by
  rw [decodeLenient]

end NewsReader.Text
