import NewsReader.Text.Digits
import NewsReader.Text.Utf8

/-!
# Percent encoding

A byte is written as a percent sign and two digits in base sixteen. Each part of a URL has a set of
ASCII characters that are written so; all other characters of ASCII stand as they are there, and
what is not ASCII is always written so, byte by byte.

The pairs of a query have a form of their own, in which a space is a plus sign.
-/

namespace NewsReader.Url

open Text (hexValue? encodeChar)

/-- A byte as a percent sign and two digits. -/
def percentByte (b : UInt8) : List Char :=
  let digit (n : Nat) : Char := (Nat.digitChar n).toUpper
  ['%', digit (b.toNat / 16), digit (b.toNat % 16)]

/-- A character as its bytes, each with a percent sign. -/
def percentChar (c : Char) : List Char :=
  (encodeChar c).flatMap percentByte

/-- Encode the characters of the set `inSet` and those that are not ASCII. -/
def percentEncode (inSet : Char → Bool) (cs : List Char) : List Char :=
  cs.flatMap fun c => if inSet c || 0x80 ≤ c.toNat then percentChar c else [c]

/-- The bytes of a text in which each percent sign with two digits after it stands for a byte. -/
def percentDecode : List Char → List UInt8
  | '%' :: a :: b :: cs =>
    match hexValue? a, hexValue? b with
    | some x, some y => UInt8.ofNat (x * 16 + y) :: percentDecode cs
    | _, _ => encodeChar '%' ++ percentDecode (a :: b :: cs)
  | c :: cs => encodeChar c ++ percentDecode cs
  | [] => []

/-- The control characters. -/
def isControl (c : Char) : Bool :=
  c.toNat < 0x20 || c.toNat == 0x7F

/-- The characters that are encoded in a fragment. -/
def inFragmentSet (c : Char) : Bool :=
  isControl c || [' ', '"', '<', '>', '\x60'].contains c

/-- The characters that are encoded in a query. In a special scheme the apostrophe is one. -/
def inQuerySet (special : Bool) (c : Char) : Bool :=
  isControl c || [' ', '"', '#', '<', '>'].contains c || special && c == '\''

/-- The characters that are encoded in a path. -/
def inPathSet (c : Char) : Bool :=
  inFragmentSet c || ['#', '?', '\x7b', '\x7d'].contains c

/-- The characters that are encoded in a user's name and password. -/
def inUserSet (c : Char) : Bool :=
  inPathSet c || ['/', ':', ';', '=', '@', '[', '\\', ']', '^', '|'].contains c

/-- The characters that stand as they are in a pair of a query. -/
def isPlain (c : Char) : Bool :=
  c.isAlphanum || ['*', '-', '.', '_'].contains c

/-- One character of a pair of a query. -/
def formChar (c : Char) : List Char :=
  if isPlain c then [c] else if c = ' ' then ['+'] else percentChar c

/-- The name or the value of a pair of a query. -/
def formEncode (cs : List Char) : List Char :=
  cs.flatMap formChar

end NewsReader.Url
