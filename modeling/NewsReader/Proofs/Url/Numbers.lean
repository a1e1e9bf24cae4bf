import Mathlib.Data.List.Induction
import NewsReader.Proofs.Text.Digits
import NewsReader.Proofs.Url.Pairs
import NewsReader.Url.Host

/-!
# Numbers in addresses

The digits of a number in a base are read as that number, and numbers with few digits are small.
What is written of addresses is made of such digits and of points; those characters stand as they
are in the host of a URL.

* `numberIn?_toDigits` — the digits of a number are read as the number.
* `numberIn?_lt` — how large a number with so many digits can be.
* `isHostChar` — the characters that stand as they are in a host.
-/

namespace NewsReader.Url

open Text (hexValue?)

/-! ### Digits -/

/-- A digit below sixteen has its value. -/
theorem hexValue?_digitChar {d : Nat} (h : d < 16) : hexValue? d.digitChar = some d := by
  have hdigits : ∀ d : Fin 16, hexValue? (Nat.digitChar d) = some d.val := by decide
  exact hdigits ⟨d, h⟩

/-- The digits of a number are digits of the base. -/
theorem exists_of_mem_toDigits {base n : Nat} {c : Char} (hbase : 1 < base)
    (h : c ∈ Nat.toDigits base n) : ∃ d < base, c = d.digitChar := by
  -- The last digit is a remainder, so the induction is on the number without it.
  induction n using Nat.strongRecOn with
  | ind n ih =>
    rw [Nat.toDigits_eq_if hbase] at h
    split at h
    · next hn => exact ⟨n, hn, List.mem_singleton.mp h⟩
    · next hn =>
      rcases List.mem_append.mp h with hfront | hlast
      · exact ih (n / base) (Nat.div_lt_self (by omega) hbase) hfront
      · exact ⟨n % base, Nat.mod_lt n (by omega), List.mem_singleton.mp hlast⟩

/-- A digit more is added to what was read. -/
theorem numberIn?_concat (base : Nat) (cs : List Char) (c : Char) :
    numberIn? base (cs ++ [c]) = (numberIn? base cs).bind fun n =>
      (hexValue? c).bind fun d => if d < base then some (n * base + d) else none := by
  simp only [numberIn?, List.foldlM_append, List.foldlM_cons, List.foldlM_nil, bind_pure]
  rfl

/-- The digits of a number are read as that number. -/
theorem numberIn?_toDigits {base : Nat} (hbase : 1 < base) (hlimit : base ≤ 16) (n : Nat) :
    numberIn? base (Nat.toDigits base n) = some n := by
  -- As the digits are made: the last one is a remainder, and those before it are of a smaller
  -- number.
  induction n using Nat.strongRecOn with
  | ind n ih =>
    rw [Nat.toDigits_eq_if hbase]
    split
    · next hn => simp [numberIn?, hexValue?_digitChar (by omega : n < 16), hn]
    · next hn =>
      have hlast : n % base < base := Nat.mod_lt n (by omega)
      rw [numberIn?_concat, ih (n / base) (Nat.div_lt_self (by omega) hbase),
        hexValue?_digitChar (by omega)]
      simp [hlast, Nat.div_add_mod']

/-- A number is smaller than the power of the base with as many digits. -/
theorem numberIn?_lt {base n : Nat} {cs : List Char} (h : numberIn? base cs = some n) :
    n < Nat.pow base cs.length := by
  -- The last digit counts once and all others count the base more, so the induction is from the
  -- end.
  induction cs using List.reverseRecOn generalizing n with
  | nil =>
    obtain rfl : 0 = n := Option.some.inj h
    exact Nat.one_pos
  | append_singleton cs c ih =>
    rw [numberIn?_concat] at h
    obtain ⟨m, hm, h⟩ := Option.bind_eq_some_iff.mp h
    obtain ⟨d, -, h⟩ := Option.bind_eq_some_iff.mp h
    split at h
    · next hd =>
      obtain rfl := Option.some.inj h
      have hfront : m + 1 ≤ Nat.pow base cs.length := ih hm
      rw [List.length_append, List.length_singleton]
      calc m * base + d < (m + 1) * base := by rw [Nat.succ_mul]; exact Nat.add_lt_add_left hd _
        _ ≤ Nat.pow base cs.length * base := Nat.mul_le_mul_right base hfront
        _ = Nat.pow base (cs.length + 1) := (Nat.pow_succ ..).symm
    · cases h

/-! ### Characters of hosts -/

/-- A character that stands as it is in the host of a special scheme. -/
def isHostChar (c : Char) : Bool :=
  c.toNat < 0x80 && !isForbidden c && c != '%' && c.toLower == c

/-- A letter that was made small is small. -/
theorem toLower_toLower (c : Char) : c.toLower.toLower = c.toLower := by
  by_cases hcapital : 'A' ≤ c ∧ c ≤ 'Z'
  · have hletters : ∀ n : Fin 26,
        (Char.ofNat (n + 65)).toLower.toLower = (Char.ofNat (n + 65)).toLower := by decide
    obtain ⟨hlo, hhi⟩ : 65 ≤ c.toNat ∧ c.toNat ≤ 90 := hcapital
    have hletter := hletters ⟨c.toNat - 65, by omega⟩
    rwa [Nat.sub_add_cancel hlo, Char.ofNat_toNat] at hletter
  · have hsame : c.toLower = c := dif_neg hcapital
    rw [hsame, hsame]

/-- Digits in any base stand as they are. They are not the first letter of a mark for other
characters. -/
theorem digitChar_spec {d : Nat} (h : d < 16) :
    isHostChar d.digitChar ∧ d.digitChar ≠ '.' ∧ d.digitChar ≠ 'x' := by
  have hdigits : ∀ d : Fin 16, isHostChar (Nat.digitChar d) ∧ Nat.digitChar d ≠ '.' ∧
      Nat.digitChar d ≠ 'x' := by decide
  exact hdigits ⟨d, h⟩

/-- What is no host character is another character. -/
theorem ne_of_isHostChar {c mark : Char} (h : isHostChar c) (hmark : isHostChar mark = false) :
    c ≠ mark := by
  rintro rfl
  rw [h] at hmark
  cases hmark

/-- What is no host character is not written in a text of host characters. -/
theorem notMem_of_isHostChar {cs : List Char} {mark : Char} (h : ∀ c ∈ cs, isHostChar c)
    (hmark : isHostChar mark = false) : mark ∉ cs :=
  fun hmem => ne_of_isHostChar (h mark hmem) hmark rfl

end NewsReader.Url
