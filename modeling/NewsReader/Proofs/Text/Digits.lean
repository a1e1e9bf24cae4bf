import NewsReader.Text.Blank
import NewsReader.Text.Digits

/-!
# Written numbers

The decimal digits of a number are digits, and they write that number. Where a run of digits ends,
the scanners that take digits off the front of a text stop.
-/

namespace NewsReader.Text

/-- A decimal digit of a number is a digit. -/
theorem isDigit_of_mem_toDigits {n : Nat} {c : Char} (h : c ∈ Nat.toDigits 10 n) : isDigit c := by
  have hdigit : c.isDigit = true := Nat.isDigit_of_mem_toDigits (by decide) (by decide) h
  obtain ⟨hle, hge⟩ : 48 ≤ c.val ∧ c.val ≤ 57 := by simpa [Char.isDigit] using hdigit
  have hzero : '0' ≤ c := hle
  have hnine : c ≤ '9' := hge
  simp [isDigit, hzero, hnine]

/-- The value of a digit is the one that it is written for. -/
theorem digitValue_digitChar {n : Nat} (h : n < 10) : digitValue n.digitChar = n := by
  rw [digitValue, Nat.toNat_digitChar_of_lt_ten h]
  exact Nat.add_sub_cancel_left 48 n

/-- The digits of a number write that number. -/
theorem numberOf_toDigits (n : Nat) : numberOf (Nat.toDigits 10 n) = n := by
  have hnumber (ds : List Char) : numberOf ds = Nat.ofDigitChars 10 ds 0 := by
    simp only [numberOf, Nat.ofDigitChars, digitValue, Nat.mul_comm]
  rw [hnumber, Nat.ofDigitChars_toDigits (by decide) (by decide)]

/-- A number has a zero in front only if it is zero. -/
theorem head?_toDigits_ne_zero {n : Nat} (h : 0 < n) : (Nat.toDigits 10 n).head? ≠ some '0' := by
  induction n using Nat.strongRecOn with
  | ind n ih =>
    rw [Nat.toDigits_eq_if (by decide)]
    split
    · next hn =>
      have hchar : ∀ d : Fin 10, 0 < d.val → some (Nat.digitChar d) ≠ some '0' := by decide
      exact hchar ⟨n, hn⟩ h
    · next hn =>
      obtain ⟨c, ds, hcons⟩ :=
        List.exists_cons_of_ne_nil (Nat.toDigits_ne_nil (n := n / 10) (b := 10))
      -- The first digit is the one of the number without its last digit.
      have hhead : (Nat.toDigits 10 (n / 10) ++ [(n % 10).digitChar]).head? =
          (Nat.toDigits 10 (n / 10)).head? := by
        rw [hcons]
        rfl
      rw [hhead]
      exact ih (n / 10) (by omega) (by omega)

/-- A digit is not blank. -/
theorem isBlank_of_isDigit {c : Char} (h : isDigit c) : isBlank c = false := by
  obtain ⟨hlo, hhi⟩ : '0' ≤ c ∧ c ≤ '9' := by simpa [isDigit] using h
  have hlo : 48 ≤ c.toNat := hlo
  have hhi : c.toNat ≤ 57 := hhi
  simp [isBlank]
  omega

section Run

variable {ds rest : List Char}

/-- A run of digits is taken up to its end. -/
theorem takeWhile_isDigit_append (hds : ∀ c ∈ ds, isDigit c)
    (hrest : ∀ c ∈ rest.head?, isDigit c = false) : (ds ++ rest).takeWhile isDigit = ds := by
  rw [List.takeWhile_append_of_pos hds]
  cases rest with
  | nil => exact List.append_nil ds
  | cons c rest => rw [List.takeWhile_cons_of_neg (by simp [hrest c rfl]), List.append_nil]

/-- What stands after a run of digits is left. -/
theorem dropWhile_isDigit_append (hds : ∀ c ∈ ds, isDigit c)
    (hrest : ∀ c ∈ rest.head?, isDigit c = false) : (ds ++ rest).dropWhile isDigit = rest := by
  have hsplit := (ds ++ rest).takeWhile_append_dropWhile (p := isDigit)
  rw [takeWhile_isDigit_append hds hrest] at hsplit
  exact List.append_cancel_left hsplit

end Run

end NewsReader.Text
