/-!
# Base 64

Three bytes are written as four characters, each of which stands for six bits. One or two bytes at
the end are written as two or three characters, with signs after them that stand for nothing.
-/

namespace NewsReader.Text.Base64

/-- The characters for six bits, in the order of their numbers. -/
def alphabet : List Char :=
  "ABCDEFGHIJKLMNOPQRSTUVWXYZabcdefghijklmnopqrstuvwxyz0123456789+/".toList

/-- What fills up the last four characters. -/
def filling : Char :=
  '='

/-- The character for the six bits of a number that has no more. -/
def digit (n : Nat) : Char :=
  alphabet.getD n filling

/-- The characters for bytes. -/
def encode : List UInt8 → List Char
  | a :: b :: c :: bytes =>
    let n := (a.toNat * 256 + b.toNat) * 256 + c.toNat
    digit (n / 262144) :: digit (n / 4096 % 64) :: digit (n / 64 % 64) ::
      digit (n % 64) :: encode bytes
  | [a, b] =>
    let n := (a.toNat * 256 + b.toNat) * 4
    [digit (n / 4096), digit (n / 64 % 64), digit (n % 64), filling]
  | [a] =>
    let n := a.toNat * 16
    [digit (n / 64), digit (n % 64), filling, filling]
  | [] => []

end NewsReader.Text.Base64
