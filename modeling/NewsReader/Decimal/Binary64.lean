/-!
# Numbers with 53 bits

A number that is written with a point or an exponent is kept in 53 bits, with an exponent of two
from -1074 to 971. `nearest` rounds a quotient of natural numbers to such a number; of two equally
near ones it takes the one with the even mantissa. Product and quotient are rounded once.

Everything is computed in natural numbers. The sign is kept apart by those who need one.
-/

namespace NewsReader.Decimal

/-- The number `mantissa * 2 ^ exponent`. -/
structure Binary64 where
  /-- The mantissa, below `2 ^ 53`. -/
  mantissa : Nat
  /-- The exponent of two. -/
  exponent : Int
  deriving Repr, DecidableEq

/-- Round a quotient to a natural number; a half goes to the even neighbour. -/
def roundDiv (num den : Nat) : Nat :=
  let quotient := num / den
  let twice := 2 * (num % den)
  if twice < den then quotient
  else if den < twice then quotient + 1
  else quotient + quotient % 2

/-- The quotient `num / (den * 2 ^ e)` as a pair of natural numbers. -/
def scaleTwo (num den : Nat) (e : Int) : Nat × Nat :=
  if 0 ≤ e then (num, den * Nat.pow 2 e.toNat) else (num * Nat.pow 2 (-e).toNat, den)

namespace Binary64

/-- The least exponent of two. -/
def minExponent : Int :=
  -1074

/-- The greatest exponent of two. -/
def maxExponent : Int :=
  971

/-- Zero. -/
def zero : Binary64 :=
  ⟨0, minExponent⟩

/-- The exponent at which a quotient that is not zero has 53 bits, or the least exponent. -/
def exponentFor (num den : Nat) : Int :=
  let low := max ((Nat.log2 num : Int) - (Nat.log2 den : Int) - 53) minExponent
  let (n, d) := scaleTwo num den low
  if n / d < Nat.pow 2 53 then low else low + 1

/-- The number nearest to a quotient, or `none` past the greatest one. -/
def nearest (num den : Nat) : Option Binary64 :=
  if num = 0 then some zero
  else
    let e := exponentFor num den
    let (n, d) := scaleTwo num den e
    let m := roundDiv n d
    let rounded : Binary64 := if m = Nat.pow 2 53 then ⟨Nat.pow 2 52, e + 1⟩ else ⟨m, e⟩
    if rounded.exponent ≤ maxExponent then some rounded else none

/-- The number nearest to a natural number. -/
def ofNat (n : Nat) : Option Binary64 :=
  nearest n 1

/-- The number as a quotient of natural numbers. -/
def fraction (x : Binary64) : Nat × Nat :=
  if 0 ≤ x.exponent then (x.mantissa * Nat.pow 2 x.exponent.toNat, 1)
  else (x.mantissa, Nat.pow 2 (-x.exponent).toNat)

/-- The product, rounded once. -/
def mul (x y : Binary64) : Option Binary64 :=
  let (a, b) := x.fraction
  let (c, d) := y.fraction
  nearest (a * c) (b * d)

/-- The quotient, rounded once. -/
def div (x y : Binary64) : Option Binary64 :=
  let (a, b) := x.fraction
  let (c, d) := y.fraction
  nearest (a * d) (b * c)

/-- The power of ten nearest to `10 ^ n`. -/
def powerOfTen (n : Nat) : Option Binary64 :=
  ofNat (Nat.pow 10 n)

/-- Move the decimal point of `x` to the left: `steps` times by 308 places and then by `rest`. Each
step is rounded, and nothing is left to round once the number is zero. -/
def lower (x : Binary64) (rest : Nat) : Nat → Option Binary64
  | 0 => (powerOfTen rest).bind x.div
  | steps + 1 =>
    if x.mantissa = 0 then some x
    else (powerOfTen 308).bind x.div |>.bind fun y => lower y rest steps

/-- Move the decimal point of `x` to the right. A number that is not zero has no room for more than
308 places. -/
def raise (x : Binary64) (places : Nat) : Option Binary64 :=
  if places ≤ 308 then (powerOfTen places).bind x.mul
  else if x.mantissa = 0 then some x
  else none

/-- Move the decimal point of `x` by `e` places, to the left if `e` is negative. -/
def shiftPoint (x : Binary64) (e : Int) : Option Binary64 :=
  if 0 ≤ e then x.raise e.toNat
  else
    let steps := (e.natAbs - 1) / 308
    x.lower (e.natAbs - 308 * steps) steps

end Binary64

end NewsReader.Decimal
