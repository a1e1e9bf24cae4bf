import NewsReader.Json.NumberText
import NewsReader.Proofs.Json.Values

/-!
# How long a written number can be

A number with 53 bits has an exponent between two bounds, whatever was rounded to it. So its
shortest decimal has at most eighteen digits, and the exponent of ten is not far from zero either.
What is written of a number does therefore not grow with the text that the number was read from.

* `Binary64.inRange_nearest` — what is rounded lies within the bounds.
* `Binary64.InRange.shiftPoint` — and so does what is moved by its decimal point.
* `shortest_bounds` — the digits and the exponent of the shortest decimal.
* `Json.Number.length_described_le` — the description of a number that was read.
-/

namespace NewsReader.Decimal

/-! ### Rounding -/

/-- Rounding takes a quotient to itself or one further. -/
theorem roundDiv_le (num den : Nat) : roundDiv num den ≤ num / den + 1 := by
  have hparity : num / den % 2 ≤ 1 := Nat.le_of_lt_succ (Nat.mod_lt _ (by decide))
  unfold roundDiv
  dsimp only
  split
  · exact Nat.le_succ _
  · split
    · exact Nat.le_refl _
    · exact Nat.add_le_add_left hparity _

/-- The bits of a quotient are told by those of its parts. -/
theorem div_scaleTwo_lt {num den : Nat} {e : Int} (h : (num.log2 : Int) - den.log2 - 53 ≤ e) :
    (scaleTwo num den e).1 / (scaleTwo num den e).2 < Nat.pow 2 54 := by
  by_cases hden : den = 0
  · -- There is no such quotient, and it counts as zero.
    subst hden
    unfold scaleTwo
    split <;> simp
  have hnum : num < Nat.pow 2 (num.log2 + 1) := Nat.lt_log2_self
  have hdenLow : Nat.pow 2 den.log2 ≤ den := Nat.log2_self_le hden
  have hpow {a b c d : Nat} (hle : a + 1 + b ≤ c + d + 54) :
      Nat.pow 2 (a + 1) * Nat.pow 2 b ≤ Nat.pow 2 c * Nat.pow 2 d * Nat.pow 2 54 := by
    simp only [Nat.pow_eq, ← Nat.pow_add]
    exact Nat.pow_le_pow_right (by decide) hle
  unfold scaleTwo
  split
  · next he =>
    refine Nat.div_lt_of_lt_mul (Nat.lt_of_lt_of_le hnum ?_)
    calc Nat.pow 2 (num.log2 + 1) = Nat.pow 2 (num.log2 + 1) * Nat.pow 2 0 := (Nat.mul_one _).symm
      _ ≤ Nat.pow 2 den.log2 * Nat.pow 2 e.toNat * Nat.pow 2 54 := hpow (by omega)
      _ ≤ den * Nat.pow 2 e.toNat * Nat.pow 2 54 :=
        Nat.mul_le_mul_right _ (Nat.mul_le_mul_right _ hdenLow)
  · next he =>
    refine Nat.div_lt_of_lt_mul ?_
    calc num * Nat.pow 2 (-e).toNat < Nat.pow 2 (num.log2 + 1) * Nat.pow 2 (-e).toNat :=
          Nat.mul_lt_mul_of_pos_right hnum (Nat.pow_pos (by decide))
      _ ≤ Nat.pow 2 den.log2 * Nat.pow 2 0 * Nat.pow 2 54 := hpow (by omega)
      _ = Nat.pow 2 den.log2 * Nat.pow 2 54 := by rw [show Nat.pow 2 0 = 1 from rfl, Nat.mul_one]
      _ ≤ den * Nat.pow 2 54 := Nat.mul_le_mul_right _ hdenLow

namespace Binary64

/-- The mantissa and the exponent lie within bounds. -/
structure InRange (x : Binary64) : Prop where
  /-- The mantissa is not too large. -/
  mantissa_le : x.mantissa ≤ Nat.pow 2 54
  /-- The exponent is not too small. -/
  le_exponent : minExponent ≤ x.exponent
  /-- The exponent is not too large. -/
  exponent_le : x.exponent ≤ maxExponent

/-- Zero lies within the bounds. -/
theorem inRange_zero : zero.InRange :=
  ⟨Nat.zero_le _, Int.le_refl _, by decide⟩

/-- The exponent at which a quotient is rounded is at least the least one, and large enough for the
quotient. -/
theorem le_exponentFor (num den : Nat) :
    minExponent ≤ exponentFor num den ∧
      (num.log2 : Int) - den.log2 - 53 ≤ exponentFor num den := by
  unfold exponentFor
  dsimp only
  split <;> omega

/-- What is rounded lies within the bounds. -/
theorem inRange_nearest {num den : Nat} {x : Binary64} (h : nearest num den = some x) :
    x.InRange := by
  unfold nearest at h
  split at h
  · obtain rfl := Option.some.inj h
    exact inRange_zero
  · obtain ⟨hlow, hbits⟩ := le_exponentFor num den
    have hm := Nat.lt_of_le_of_lt (roundDiv_le _ _) (Nat.succ_lt_succ (div_scaleTwo_lt hbits))
    dsimp only at h
    split at h
    · -- The mantissa has one bit too many, so the exponent goes up by one.
      obtain ⟨hhigh, hx⟩ := Option.ite_none_right_eq_some.mp h
      obtain rfl := Option.some.inj hx
      exact ⟨Nat.pow_le_pow_right (by decide) (by decide), Int.le_add_one hlow, hhigh⟩
    · obtain ⟨hhigh, hx⟩ := Option.ite_none_right_eq_some.mp h
      obtain rfl := Option.some.inj hx
      exact ⟨Nat.le_of_lt_succ hm, hlow, hhigh⟩

variable {x y : Binary64} {n steps : Nat} {e : Int}

/-- A natural number is rounded. -/
theorem inRange_ofNat (h : ofNat n = some x) : x.InRange :=
  inRange_nearest h

/-- A number whose point is moved to the left is rounded after each step. -/
theorem InRange.lower (hx : x.InRange) (h : x.lower n steps = some y) : y.InRange := by
  -- Each step rounds, and what is rounded is in the range whatever it was before.
  induction steps generalizing x with
  | zero =>
    obtain ⟨power, -, hdiv⟩ := Option.bind_eq_some_iff.mp h
    exact inRange_nearest hdiv
  | succ steps ih =>
    unfold Binary64.lower at h
    split at h
    · obtain rfl := Option.some.inj h
      exact hx
    · obtain ⟨z, hz, hrest⟩ := Option.bind_eq_some_iff.mp h
      obtain ⟨power, -, hdiv⟩ := Option.bind_eq_some_iff.mp hz
      exact ih (inRange_nearest hdiv) hrest

/-- A number whose point is moved lies within the bounds again. -/
theorem InRange.shiftPoint (hx : x.InRange) (h : x.shiftPoint e = some y) : y.InRange := by
  unfold Binary64.shiftPoint at h
  split at h
  · unfold raise at h
    split at h
    · obtain ⟨power, -, hmul⟩ := Option.bind_eq_some_iff.mp h
      exact inRange_nearest hmul
    · split at h
      · obtain rfl := Option.some.inj h
        exact hx
      · cases h
  · exact hx.lower h

end Binary64

/-! ### Decimals -/

/-- A number is less than the power of ten with as many zeros as it has digits. -/
theorem lt_of_digitCount (n : Nat) : n < Nat.pow 10 (digitCount n) := by
  unfold digitCount
  split
  · next h =>
    subst h
    decide
  · exact (Nat.length_toDigits_le_iff (by decide) Nat.length_toDigits_pos).mp (Nat.le_refl _)

/-- The power of ten with fewer zeros is not above the number. -/
theorem le_of_digitCount {n : Nat} (h : 0 < n) : Nat.pow 10 (digitCount n - 1) ≤ n := by
  have hcount : digitCount n = (Nat.toDigits 10 n).length := by
    rw [digitCount, if_neg (Nat.ne_of_gt h)]
  by_cases hone : digitCount n - 1 = 0
  · rw [hone]
    exact h
  · refine Nat.le_of_not_lt fun hlt => ?_
    have hle := (Nat.length_toDigits_le_iff (by decide) (Nat.pos_of_ne_zero hone)).mpr hlt
    omega

/-- There are not more decimal digits than bits. -/
theorem digitCount_le {n k : Nat} (h : n < Nat.pow 2 k) : digitCount n ≤ k := by
  unfold digitCount
  split
  · exact Nat.zero_le k
  · next hn =>
    have hk : 0 < k := by
      refine Nat.pos_of_ne_zero ?_
      rintro rfl
      exact hn (Nat.lt_one_iff.mp h)
    exact (Nat.length_toDigits_le_iff (by decide) hk).mpr
      (Nat.lt_of_lt_of_le h (Nat.pow_le_pow_left (by decide) k))

section

variable {num den a b k : Nat}

/-- The leading exponent of a quotient is bounded by the bits of its parts. -/
theorem leadingExponent_bounds (hnum : num < Nat.pow 2 a) (hden : den ≤ Nat.pow 2 b) :
    -(b : Int) - 1 ≤ leadingExponent num den ∧ leadingExponent num den ≤ a := by
  unfold leadingExponent
  split
  · have hcount := digitCount_le (Nat.lt_of_le_of_lt (Nat.div_le_self num den) hnum)
    omega
  · next hlt =>
    have hquotient : (den - 1) / num < Nat.pow 2 b :=
      Nat.lt_of_le_of_lt (Nat.div_le_self ..) (by omega)
    have hcount := digitCount_le hquotient
    omega

/-- A quotient on a grid is compared with a power of ten. -/
theorem div_scaleTen_lt_of {e : Int} {n : Nat}
    (hup : 0 ≤ e → num < den * Nat.pow 10 (e.toNat + n))
    (hdown : e < 0 → num * Nat.pow 10 (-e).toNat < den * Nat.pow 10 n) :
    (scaleTen num den e).1 / (scaleTen num den e).2 < Nat.pow 10 n := by
  unfold scaleTen
  split
  · next he =>
    refine Nat.div_lt_of_lt_mul (Nat.lt_of_lt_of_eq (hup he) ?_)
    rw [Nat.mul_assoc]
    exact congrArg (den * ·) (Nat.pow_add ..)
  · next he => exact Nat.div_lt_of_lt_mul (hdown (Int.not_le.mp he))

/-- On a grid so far below the leading exponent, a quotient has one digit more. -/
theorem div_scaleTen_lt (hnum : 0 < num) (hden : 0 < den) (k : Nat) :
    (scaleTen num den (leadingExponent num den - k)).1 /
      (scaleTen num den (leadingExponent num den - k)).2 < Nat.pow 10 (k + 1) := by
  have hadd (a b : Nat) : Nat.pow 10 (a + b) = Nat.pow 10 a * Nat.pow 10 b := Nat.pow_add ..
  have hpos (a : Nat) : 0 < Nat.pow 10 a := Nat.pow_pos (by decide)
  by_cases hle : den ≤ num
  · -- The quotient is at least one, and has as many digits as are counted.
    obtain ⟨c, hc⟩ : ∃ c, digitCount (num / den) = c := ⟨_, rfl⟩
    have hlead : leadingExponent num den = c - 1 := by rw [leadingExponent, if_pos hle, hc]
    have hlt : num < den * Nat.pow 10 c := by
      have hquotient := lt_of_digitCount (num / den)
      rw [hc, Nat.div_lt_iff_lt_mul hden, Nat.mul_comm] at hquotient
      exact hquotient
    rw [hlead]
    apply div_scaleTen_lt_of
    · intro he
      rwa [show ((c : Int) - 1 - k).toNat + (k + 1) = c by omega]
    · intro he
      rw [show k + 1 = c + (-((c : Int) - 1 - k)).toNat by omega, hadd, ← Nat.mul_assoc]
      exact Nat.mul_lt_mul_of_pos_right hlt (hpos _)
  · -- The quotient is less than one: as many zeros are before its first digit as are counted.
    have hquotient : 0 < (den - 1) / num := Nat.div_pos (by omega) hnum
    obtain ⟨c, hc⟩ : ∃ c, digitCount ((den - 1) / num) = c := ⟨_, rfl⟩
    have hlead : leadingExponent num den = -(c : Int) := by rw [leadingExponent, if_neg hle, hc]
    have hcount : 0 < c := by
      refine Nat.pos_of_ne_zero fun hzero => ?_
      have hlt := lt_of_digitCount ((den - 1) / num)
      rw [hc, hzero] at hlt
      exact absurd hlt (Nat.not_lt.mpr hquotient)
    have hlt : num * Nat.pow 10 (c - 1) < den := by
      have hle := Nat.mul_le_mul_left num (le_of_digitCount hquotient)
      rw [hc] at hle
      have hdiv := Nat.mul_div_le (den - 1) num
      omega
    rw [hlead]
    apply div_scaleTen_lt_of
    · intro he
      omega
    · intro he
      rw [show (-(-(c : Int) - k)).toNat = c - 1 + (k + 1) by omega, hadd, ← Nat.mul_assoc]
      exact Nat.mul_lt_mul_of_pos_right hlt (hpos _)

end

/-- Taking zeros off the end leaves no more digits, and moves the exponent by less than there
are. -/
theorem strip_bounds (d : Scaled) :
    d.strip.digits ≤ d.digits ∧ d.exponent ≤ d.strip.exponent ∧
      d.strip.exponent + d.strip.digits ≤ d.exponent + d.digits := by
  fun_induction Scaled.strip d with
  | case1 d h ih =>
    dsimp only at ih
    omega
  | case2 d h => exact ⟨Nat.le_refl _, Int.le_refl _, Int.le_refl _⟩

/-- A decimal on a grid is right below or right above the value. -/
theorem onGrid?_bounds {i : Interval} {e : Int} {d : Scaled} (h : i.onGrid? e = some d) :
    d.exponent = e ∧
      d.digits ≤ (scaleTen i.value i.den e).1 / (scaleTen i.value i.den e).2 + 1 := by
  unfold Interval.onGrid? at h
  dsimp only at h
  split at h
  · obtain rfl := Option.some.inj h
    refine ⟨rfl, ?_⟩
    dsimp only
    split <;> omega
  · obtain rfl := Option.some.inj h
    exact ⟨rfl, Nat.le_succ _⟩
  · obtain rfl := Option.some.inj h
    exact ⟨rfl, Nat.le_refl _⟩
  · cases h

/-- The bits of the parts of the quotient that a number is. -/
theorem Binary64.InRange.interval_bounds {x : Binary64} (hx : x.InRange) (hm : x.mantissa ≠ 0) :
    ∃ a b : Nat, a ≤ 1026 ∧ b ≤ 1076 ∧ 0 < (Interval.of x).value ∧
      (Interval.of x).value < Nat.pow 2 a ∧
      0 < (Interval.of x).den ∧ (Interval.of x).den ≤ Nat.pow 2 b := by
  obtain ⟨hmantissa, hlow, hhigh⟩ := hx
  have hpos (a : Nat) : 0 < Nat.pow 2 a := Nat.pow_pos (by decide)
  have hadd (a b : Nat) : Nat.pow 2 (a + b) = Nat.pow 2 a * Nat.pow 2 b := Nat.pow_add ..
  unfold Binary64.minExponent at hlow
  unfold Binary64.maxExponent at hhigh
  -- The power of two that the mantissa is multiplied with, and the one that it is divided by.
  have hup (e : Int) : 0 < (if 0 ≤ e then Nat.pow 2 e.toNat else 1) ∧
      (if 0 ≤ e then Nat.pow 2 e.toNat else 1) ≤ Nat.pow 2 e.toNat := by
    split
    · exact ⟨hpos _, Nat.le_refl _⟩
    · exact ⟨Nat.one_pos, hpos _⟩
  have hdown (e : Int) : 0 < (if 0 ≤ e then 1 else Nat.pow 2 (-e).toNat) ∧
      (if 0 ≤ e then 1 else Nat.pow 2 (-e).toNat) ≤ Nat.pow 2 (-e).toNat := by
    split
    · exact ⟨Nat.one_pos, hpos _⟩
    · exact ⟨hpos _, Nat.le_refl _⟩
  obtain ⟨hupPos, hupLe⟩ := hup (x.exponent - 2)
  obtain ⟨hdownPos, hdownLe⟩ := hdown (x.exponent - 2)
  refine ⟨56 + (x.exponent - 2).toNat + 1, (-(x.exponent - 2)).toNat, by omega, by omega,
    Nat.mul_pos (Nat.mul_pos (by decide) (Nat.pos_of_ne_zero hm)) hupPos, ?_, hdownPos, hdownLe⟩
  calc 4 * x.mantissa * (if 0 ≤ x.exponent - 2 then Nat.pow 2 (x.exponent - 2).toNat else 1)
      ≤ 4 * Nat.pow 2 54 * Nat.pow 2 (x.exponent - 2).toNat :=
        Nat.mul_le_mul (Nat.mul_le_mul_left 4 hmantissa) hupLe
    _ = Nat.pow 2 (56 + (x.exponent - 2).toNat) := (hadd 56 _).symm
    _ < Nat.pow 2 (56 + (x.exponent - 2).toNat + 1) :=
      Nat.pow_lt_pow_right (by decide) (Nat.lt_succ_self _)

/-- The shortest decimal of a number has at most eighteen digits, and its exponent is not far from
zero. -/
theorem shortest_bounds {x : Binary64} (hx : x.InRange) :
    (shortest x).digits ≤ 100000000000000000 ∧ -1100 ≤ (shortest x).exponent ∧
      (shortest x).exponent ≤ 100000000000001100 := by
  unfold shortest
  split
  · exact ⟨Nat.zero_le _, by decide, by decide⟩
  · next hm =>
    obtain ⟨a, b, ha, hb, hvalue, hvalueLt, hden, hdenLe⟩ := hx.interval_bounds hm
    obtain ⟨hleadLow, hleadHigh⟩ := leadingExponent_bounds hvalueLt hdenLe
    dsimp only
    split
    · next d hd =>
      -- The digits come from the first grid that is fine enough, of seventeen.
      obtain ⟨n, hn, hgrid⟩ := List.exists_of_findSome?_eq_some hd
      have hn := List.mem_range.mp hn
      obtain ⟨hexponent, hdigits⟩ := onGrid?_bounds hgrid
      have hquotient := div_scaleTen_lt hvalue hden n
      have hpow : Nat.pow 10 (n + 1) ≤ 100000000000000000 :=
        Nat.pow_le_pow_right (by decide : 10 > 0) (by omega : n + 1 ≤ 17)
      obtain ⟨hstrip, hstripLow, hstripHigh⟩ := strip_bounds d
      omega
    · exact ⟨Nat.zero_le _, by decide, by decide⟩

/-! ### Written numbers -/

/-- A number below this one has at most eighteen digits. -/
theorem length_toDigits_le {n : Nat} (h : n < 1000000000000000000) :
    (Nat.toDigits 10 n).length ≤ 18 :=
  (Nat.length_toDigits_le_iff (by decide) (by decide)).mpr h

/-- A written decimal is short if it has few digits and its exponent is not far from zero. -/
theorem length_chars_le {d : Scaled} {l : Layout} (hdigits : d.digits ≤ 100000000000000000)
    (hlow : -1100 ≤ d.exponent) (hhigh : d.exponent ≤ 100000000000001100)
    (hfirst : -20 ≤ l.firstPlace) (hlast : l.lastPlace ≤ 20) : (l.chars d).length ≤ 60 := by
  have hlength : (Nat.toDigits 10 d.digits).length ≤ 18 := length_toDigits_le (by omega)
  have hpos : 0 < (Nat.toDigits 10 d.digits).length := Nat.length_toDigits_pos
  have hexponent (e : Int) (he : e.natAbs < 1000000000000000000) :
      (exponentChars e).length ≤ 20 := by
    have hdigits := length_toDigits_le he
    simp only [exponentChars, List.length_cons]
    omega
  unfold Layout.chars
  dsimp only
  split
  · decide
  · split
    · split
      · simp only [List.length_append, List.length_replicate, List.length_cons, List.length_nil]
        omega
      · split
        · simp only [List.length_append, List.length_cons, List.length_take, List.length_drop]
          omega
        · simp only [List.length_append, List.length_cons, List.length_replicate]
          omega
    · -- The exponent is written out, and it is that of the leading digit.
      have hlead := hexponent (d.exponent + (Nat.toDigits 10 d.digits).length - 1) (by omega)
      split
      · exact Nat.zero_le _
      · simp only [List.length_cons]
        omega
      · next hds =>
        rw [hds] at hlength
        simp only [List.length_cons, List.length_append] at hlength ⊢
        omega

end NewsReader.Decimal

namespace NewsReader.Json

/-! ### Numbers that were read -/

/-- The number is one of those that can be read. -/
def Number.Fits : Number → Prop
  | natural n => n < wordLimit
  | negative n => n ≤ Nat.pow 2 63
  | real _ x => x.InRange

/-- A number that can be read has a short description, however it was written. -/
theorem Number.length_described_le {n : Number} (h : n.Fits) : n.described.length ≤ 100 := by
  have hinteger : "integer `".length = 9 ∧ "floating point `".length = 16 ∧
      "`".length = 1 := by decide
  cases n with
  | natural n =>
    have hlength := length_toDigits_le h
    show ("integer `" ++ String.ofList (Nat.toDigits 10 n) ++ "`").length ≤ 100
    simp only [String.length_append, String.length_ofList]
    omega
  | negative n =>
    have hlength := length_toDigits_le (Nat.lt_of_le_of_lt h (by decide))
    show ("integer `" ++ String.ofList ('-' :: Nat.toDigits 10 n) ++ "`").length ≤ 100
    simp only [String.length_append, String.length_ofList, List.length_cons]
    omega
  | real minus x =>
    obtain ⟨hdigits, hlow, hhigh⟩ := Decimal.shortest_bounds h
    have hlength := Decimal.length_chars_le (l := layout) hdigits hlow hhigh (by decide) (by decide)
    have hsign : (if minus then ['-'] else []).length ≤ 1 := by cases minus <;> decide
    show ("floating point `" ++ text (real minus x) ++ "`").length ≤ 100
    simp only [text, String.length_append, String.length_ofList, List.length_append]
    omega

/-- A number with 53 bits that is made of digits lies within the bounds. -/
theorem fits_of_realNumber {minus : Bool} {n : Nat} {shift : Int} {number : Number}
    (h : realNumber minus n shift = .ok number) : number.Fits := by
  unfold realNumber at h
  split at h
  · next x hx =>
    obtain rfl := Except.ok.inj h
    obtain ⟨y, hy, hshift⟩ := Option.bind_eq_some_iff.mp hx
    exact (Decimal.Binary64.inRange_ofNat hy).shiftPoint hshift
  · cases h

/-- The number that is written fits. -/
theorem NumberText.fits_of_value {t : NumberText} {n : Number} (h : t.value = .ok n) : n.Fits := by
  have hgather := gather_lt (by decide : 0 < wordLimit) t.whole
  simp only [value] at h
  split at h
  · unfold wholeNumber at h
    split at h
    · split at h
      · next hn =>
        obtain rfl := Except.ok.inj h
        exact hn.2
      · exact fits_of_realNumber h
    · obtain rfl := Except.ok.inj h
      exact hgather
  · exact fits_of_realNumber h

/-- A number that is read fits. -/
theorem fits_of_readNumber {s rest : List Char} {n : Number} (h : readNumber s = .ok (n, rest)) :
    n.Fits := by
  simp only [readNumber, bind, Except.bind] at h
  split at h
  · cases h
  · split at h
    · cases h
    · next hvalue =>
      obtain ⟨rfl, -⟩ := Prod.mk.inj (Except.ok.inj h)
      exact NumberText.fits_of_value hvalue

end NewsReader.Json
