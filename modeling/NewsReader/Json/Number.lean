import NewsReader.Decimal.Shortest

/-!
# Numbers of a JSON text

A number without a point or an exponent is exact as long as it fits in 64 bits. Every other number
has 53 bits and a sign of its own, so that there is a zero with a minus sign.
-/

namespace NewsReader.Json

open Decimal

/-- A number. -/
inductive Number where
  /-- A number from 0 to `2 ^ 64 - 1`. -/
  | natural (n : Nat)
  /-- The number `-n`, where `n` is from 1 to `2 ^ 63`. -/
  | negative (n : Nat)
  /-- A number with 53 bits. -/
  | real (minus : Bool) (x : Binary64)
  deriving DecidableEq

namespace Number

/-- Numbers are shown with places only from a hundred thousandth to below ten to the sixteenth. -/
def layout : Layout :=
  ⟨-5, 15⟩

/-- The shown number. -/
def text : Number → String
  | natural n => String.ofList (Nat.toDigits 10 n)
  | negative n => String.ofList ('-' :: Nat.toDigits 10 n)
  | real minus x =>
    String.ofList ((if minus then ['-'] else []) ++ layout.chars (shortest x))

/-- The shown number after the word for its kind. -/
def described : Number → String
  | real minus x => "floating point `" ++ text (real minus x) ++ "`"
  | n => "integer `" ++ n.text ++ "`"

end Number

end NewsReader.Json
