import NewsReader.Decimal.Binary64

/-!
# Shortest decimals

The decimal of a number with 53 bits is the one with the fewest digits that still rounds to the
number, and of those the nearest. It is found on the decimal grids of one digit, two digits and so
on: a grid that has a point in the interval of the values that round to the number has one right
below or right above the number.

`Layout` holds the choices of the printed form: where positional notation ends and how an exponent
is written.
-/

namespace NewsReader.Decimal

/-- The value `digits * 10 ^ exponent`. -/
structure Scaled where
  /-- The digits, as a number. -/
  digits : Nat
  /-- The exponent of ten. -/
  exponent : Int
  deriving Repr, DecidableEq

/-- The number of decimal digits, and none for zero. -/
def digitCount (n : Nat) : Nat :=
  if n = 0 then 0 else (Nat.toDigits 10 n).length

/-- The exponent of the leading digit of a quotient that is not zero. -/
def leadingExponent (num den : Nat) : Int :=
  if den ≤ num then (digitCount (num / den) : Int) - 1
  else -(digitCount ((den - 1) / num) : Int)

/-- The quotient `num / (den * 10 ^ e)` as a pair of natural numbers. -/
def scaleTen (num den : Nat) (e : Int) : Nat × Nat :=
  if 0 ≤ e then (num, den * Nat.pow 10 e.toNat) else (num * Nat.pow 10 (-e).toNat, den)

/-- The values that round to a number, in quarters of its last place: from `low` to `high` around
`value`, with the ends among them if `closed`, all over `den`. -/
structure Interval where
  /-- The lower end. -/
  low : Nat
  /-- The number itself. -/
  value : Nat
  /-- The upper end. -/
  high : Nat
  /-- The denominator of the three. -/
  den : Nat
  /-- The ends round to the number too. -/
  closed : Bool

namespace Interval

/-- The values that round to `x`. The lower half is narrower where the exponent changes. -/
def of (x : Binary64) : Interval :=
  let m := x.mantissa
  let narrow := m = Nat.pow 2 52 ∧ x.exponent ≠ Binary64.minExponent
  let e := x.exponent - 2
  let up := if 0 ≤ e then Nat.pow 2 e.toNat else 1
  { low := (4 * m - if narrow then 1 else 2) * up
    value := 4 * m * up
    high := (4 * m + 2) * up
    den := if 0 ≤ e then 1 else Nat.pow 2 (-e).toNat
    closed := m % 2 == 0 }

/-- The value `d * 10 ^ e` lies in the interval. -/
def has (i : Interval) (d : Nat) (e : Int) : Bool :=
  let (n, scale) :=
    if 0 ≤ e then (d * Nat.pow 10 e.toNat * i.den, 1) else (d * i.den, Nat.pow 10 (-e).toNat)
  if i.closed then i.low * scale ≤ n && n ≤ i.high * scale
  else i.low * scale < n && n < i.high * scale

/-- The point of the grid of multiples of `10 ^ e` that is nearest to the value, among those right
below and right above it that lie in the interval. -/
def onGrid? (i : Interval) (e : Int) : Option Scaled :=
  let (n, d) := scaleTen i.value i.den e
  let below := n / d
  match i.has below e, i.has (below + 1) e with
  | true, true =>
    let twice := 2 * (n % d)
    some ⟨if twice < d ∨ twice = d ∧ below % 2 = 0 then below else below + 1, e⟩
  | true, false => some ⟨below, e⟩
  | false, true => some ⟨below + 1, e⟩
  | false, false => none

end Interval

/-- Take zeros off the end of the digits. -/
def Scaled.strip (d : Scaled) : Scaled :=
  if h : d.digits ≠ 0 ∧ d.digits % 10 = 0 then
    Scaled.strip ⟨d.digits / 10, d.exponent + 1⟩
  else d
termination_by d.digits
decreasing_by exact Nat.div_lt_self (Nat.pos_of_ne_zero h.1) (by decide)

/-- The shortest decimal that rounds to `x`. Seventeen digits always suffice. -/
def shortest (x : Binary64) : Scaled :=
  if x.mantissa = 0 then ⟨0, 0⟩
  else
    let i := Interval.of x
    let lead := leadingExponent i.value i.den
    match (List.range 17).findSome? fun (n : Nat) => i.onGrid? (lead - n) with
    | some d => d.strip
    | none => ⟨0, 0⟩

/-- How a decimal is laid out. -/
structure Layout where
  /-- The least exponent of the leading digit that is written with places only. -/
  firstPlace : Int
  /-- The greatest exponent of the leading digit that is written with places only. -/
  lastPlace : Int

/-- The mark and sign of an exponent, and its digits. -/
def exponentChars (e : Int) : List Char :=
  'e' :: (if 0 ≤ e then '+' else '-') :: Nat.toDigits 10 e.natAbs

/-- Write a decimal: with places only and at least one of them after the point, or with a point
after the first digit, if more follow, and an exponent. -/
def Layout.chars (l : Layout) (d : Scaled) : List Char :=
  let ds := Nat.toDigits 10 d.digits
  let lead := d.exponent + ds.length - 1
  if d.digits = 0 then ['0', '.', '0']
  else if l.firstPlace ≤ lead ∧ lead ≤ l.lastPlace then
    if 0 ≤ d.exponent then ds ++ List.replicate d.exponent.toNat '0' ++ ['.', '0']
    else if 0 ≤ lead then
      let whole := (lead + 1).toNat
      ds.take whole ++ '.' :: ds.drop whole
    else '0' :: '.' :: List.replicate (-lead - 1).toNat '0' ++ ds
  else
    match ds with
    | [] => []
    | [c] => c :: exponentChars lead
    | c :: cs => c :: '.' :: cs ++ exponentChars lead

end NewsReader.Decimal
