import NewsReader.Proofs.Url.Authority
import NewsReader.Proofs.Url.Pieces

/-!
# Written hosts

Whatever the spelling in which the host of a special scheme comes, it is written in one form, and
this form is read as the same host: a name as itself, an address of four bytes with points between
its bytes, and one of eight pieces between brackets.

* `Host.IsRead` — the hosts that are read.
* `Host.isRead_of_ofChars` — no other host is read.
* `Host.IsRead.ofChars_chars` — each of them is read where it is written.
-/

namespace NewsReader.Url

open Text (decodeLenient encode)

/-- A host that is read in a special scheme. -/
inductive Host.IsRead : Host → Prop where
  | name {cs : List Char} (hne : cs ≠ []) (hchars : ∀ c ∈ cs, isHostChar c)
    (hdomain : isDomainName cs) (hnumber : endsInNumber cs = false) : IsRead (.name cs)
  | ipv4 {n : Nat} (hlimit : n < Nat.pow 256 4) : IsRead (.ipv4 n)
  | ipv6 {ns : List Nat} (hlength : ns.length = 8) (hlimit : ∀ n ∈ ns, n < Nat.pow 256 2) :
    IsRead (.ipv6 ns)

/-! ### Texts that stand as they are -/

/-- Without percent signs a text stands for itself. -/
theorem percentDecode_of_notMem {cs : List Char} (h : '%' ∉ cs) :
    percentDecode cs = encode cs := by
  induction cs with
  | nil => rfl
  | cons c cs ih =>
    obtain ⟨hc, hcs⟩ := List.ne_and_not_mem_of_not_mem_cons h
    rw [percentDecode_cons hc.symm, ih hcs]
    exact List.flatMap_cons.symm

/-- What a host character is. -/
theorem isHostChar_iff {c : Char} :
    isHostChar c ↔ (isForbidden c || c == '%' || 0x80 ≤ c.toNat) = false ∧ c.toLower = c := by
  simp only [isHostChar, Bool.and_eq_true, Bool.or_eq_false_iff, Bool.not_eq_true',
    bne_iff_ne, beq_iff_eq,
    decide_eq_true_eq, decide_eq_false_iff_not, beq_eq_false_iff_ne, Nat.not_le]
  tauto

/-- A text of host characters is a name or an address of four bytes, as it stands. -/
theorem Host.ofChars_of_isHostChar {cs : List Char} (hne : cs ≠ [])
    (h : ∀ c ∈ cs, isHostChar c) :
    Host.ofChars cs =
      if !isDomainName cs then .error .badName
      else if endsInNumber cs then
        match ipv4? cs with
        | some n => .ok (.ipv4 n)
        | none => .error .badIpv4
      else .ok (.name cs) := by
  have hdecoded : (decodeLenient (percentDecode cs)).map Char.toLower = cs := by
    rw [percentDecode_of_notMem (notMem_of_isHostChar h (by decide)), Text.decodeLenient_encode]
    exact (List.map_congr_left fun c hc => (isHostChar_iff.mp (h c hc)).2).trans (List.map_id cs)
  have hall : (cs.any fun c => isForbidden c || c == '%' || 0x80 ≤ c.toNat) = false :=
    List.any_eq_false.mpr fun c hc => by simp [(isHostChar_iff.mp (h c hc)).1]
  unfold Host.ofChars
  split
  · exact absurd rfl hne
  · -- A bracket is no host character.
    exact absurd (h '[' List.mem_cons_self) (by decide)
  · simp only [hdecoded]
    exact if_neg (by simp [hall])

/-! ### Addresses of four bytes -/

/-- The digits of a number are digits. -/
theorem mem_decimal {n : Nat} {c : Char} (h : c ∈ decimal n) : ∃ d < 10, c = d.digitChar :=
  exists_of_mem_toDigits (by decide) h

/-- There is no point among digits. -/
theorem point_notMem_decimal (n : Nat) : '.' ∉ decimal n := by
  intro h
  obtain ⟨d, hd, hdigit⟩ := mem_decimal h
  exact (digitChar_spec (by omega : d < 16)).2.1 hdigit.symm

/-- The bytes of an address, as they are written. -/
def byteLabels (n : Nat) : List (List Char) :=
  [decimal (n / Nat.pow 256 3), decimal (n / Nat.pow 256 2 % 256), decimal (n / 256 % 256),
    decimal (n % 256)]

/-- Each byte of a written address is one label. -/
theorem splitAtChar_ipv4Chars (n : Nat) : splitAtChar '.' (ipv4Chars n) = byteLabels n := by
  simp only [ipv4Chars, splitAtChar_append,
    splitAtChar_of_notMem (point_notMem_decimal _), byteLabels, List.cons_append, List.nil_append]

/-- The last label of a written address is not empty. -/
theorem labels_ipv4Chars (n : Nat) : labels (ipv4Chars n) = byteLabels n := by
  have hlast : decimal (n % 256) ≠ [] := Nat.toDigits_ne_nil
  rw [labels, splitAtChar_ipv4Chars]
  simp [byteLabels, hlast]

/-- The digits of a number are read as a label that writes the number. -/
theorem labelNumber?_decimal (n : Nat) : labelNumber? (decimal n) = some n := by
  have hread : numberIn? 10 (decimal n) = some n := numberIn?_toDigits (by decide) (by decide) n
  rcases Nat.eq_zero_or_pos n with rfl | hn
  · rfl
  · have hhead : (decimal n).head? ≠ some '0' := Text.head?_toDigits_ne_zero hn
    have hne : decimal n ≠ [] := Nat.toDigits_ne_nil
    obtain ⟨c, cs, hcons⟩ := List.exists_cons_of_ne_nil hne
    rw [hcons] at hread hhead ⊢
    have hc : c ≠ '0' := fun heq => hhead (heq ▸ rfl)
    simp [labelNumber?, hc, hread]

/-- The bytes in front of the last number, each with the weight of its place. -/
theorem foldr_bytes (a b c : Nat) :
    [a, b, c].foldr (fun b n => b * Nat.pow 256 3 + n / 256) 0 =
      a * 16777216 + b * 65536 + c * 256 := by
  have hweight (k : Nat) : [a, b, c].foldr (fun b n => b * k + n / 256) 0 =
      a * k + (b * k + (c * k + 0 / 256) / 256) / 256 := rfl
  have hthree : Nat.pow 256 3 = 16777216 := rfl
  rw [hweight, hthree]
  omega

/-- Four bytes make an address. -/
theorem addressOf?_of_bytes {a b c d : Nat} (ha : a ≤ 255) (hb : b ≤ 255) (hc : c ≤ 255)
    (hd : d ≤ 255) : addressOf? [a, b, c, d] = some (a * 16777216 + b * 65536 + c * 256 + d) := by
  have hlast : d < Nat.pow 256 1 := Nat.lt_succ_of_le hd
  have hbytes : [a, b, c].all (· ≤ 255) := by simp [ha, hb, hc]
  have haddress : addressOf? [a, b, c, d] =
      some ([a, b, c].foldr (fun b n => b * Nat.pow 256 3 + n / 256) 0 + d) :=
        if_pos ⟨Nat.le_refl 3, hbytes, hlast⟩
  rw [haddress, foldr_bytes]

/-- The bytes of an address make the address. -/
theorem addressOf?_bytes {n : Nat} (h : n < Nat.pow 256 4) :
    addressOf? [n / Nat.pow 256 3, n / Nat.pow 256 2 % 256, n / 256 % 256, n % 256] = some n := by
  have hlimit : n < 4294967296 := h
  have hthree : Nat.pow 256 3 = 16777216 := rfl
  have htwo : Nat.pow 256 2 = 65536 := rfl
  rw [hthree, htwo, addressOf?_of_bytes (by omega) (by omega) (by omega) (by omega)]
  refine congrArg some ?_
  omega

/-- Bytes in front of the last number leave room for the bytes that it has. -/
theorem foldr_bytes_le {bytes : List Nat} (hlength : bytes.length ≤ 3)
    (hbytes : ∀ b ∈ bytes, b ≤ 255) :
    bytes.foldr (fun b n => b * Nat.pow 256 3 + n / 256) 0 +
      Nat.pow 256 (4 - bytes.length) ≤ Nat.pow 256 4 := by
  induction bytes with
  | nil => exact Nat.le_of_eq (Nat.zero_add _)
  | cons b bytes ih =>
    obtain ⟨hb, hbytes⟩ := List.forall_mem_cons.mp hbytes
    rw [List.length_cons] at hlength ⊢
    have hrest := ih (by omega) hbytes
    -- One byte more in front is a place less for the last number.
    have hroom : Nat.pow 256 (4 - bytes.length) = Nat.pow 256 (4 - (bytes.length + 1)) * 256 := by
      rw [show 4 - bytes.length = 4 - (bytes.length + 1) + 1 by omega]
      exact Nat.pow_succ ..
    have hlimit : Nat.pow 256 4 = 4294967296 := rfl
    have hthree : Nat.pow 256 3 = 16777216 := rfl
    rw [hroom, hlimit] at hrest
    rw [List.foldr_cons, hlimit]
    generalize bytes.foldr (fun b n => b * Nat.pow 256 3 + n / 256) 0 = front at hrest ⊢
    rw [hthree]
    omega

/-- An address that is made has four bytes. -/
theorem lt_of_addressOf? {numbers : List Nat} {n : Nat} (h : addressOf? numbers = some n) :
    n < Nat.pow 256 4 := by
  unfold addressOf? at h
  split at h
  · cases h
  · next last front _ =>
    dsimp only at h
    split at h
    · next hbytes =>
      obtain rfl := Option.some.inj h
      obtain ⟨hlength, hall, hlast⟩ := hbytes
      have hbound : ∀ b ∈ front.reverse, b ≤ 255 :=
        fun b hb => of_decide_eq_true (List.all_eq_true.mp hall b hb)
      exact Nat.lt_of_lt_of_le (Nat.add_lt_add_left hlast _) (foldr_bytes_le hlength hbound)
    · cases h

/-- A written address is read back. -/
theorem ipv4?_ipv4Chars {n : Nat} (h : n < Nat.pow 256 4) : ipv4? (ipv4Chars n) = some n := by
  have hnumbers : (byteLabels n).mapM labelNumber? =
      some [n / Nat.pow 256 3, n / Nat.pow 256 2 % 256, n / 256 % 256, n % 256] := by
    simp [byteLabels, labelNumber?_decimal]
  rw [ipv4?, labels_ipv4Chars, hnumbers, Option.bind_some, addressOf?_bytes h]

/-- A written address ends in a number. -/
theorem endsInNumber_ipv4Chars (n : Nat) : endsInNumber (ipv4Chars n) := by
  have hlast : (labels (ipv4Chars n)).getLast? = some (decimal (n % 256)) := by
    rw [labels_ipv4Chars]
    rfl
  simp [endsInNumber, hlast, labelNumber?_decimal]

/-- A written address is a domain name. -/
theorem isDomainName_ipv4Chars (n : Nat) : isDomainName (ipv4Chars n) := by
  have hdigits : ∀ d : Fin 10, isFromRight (Nat.digitChar d) = false := by decide +kernel
  -- No label has the mark of encoded labels in front, and no digit is a letter of a script from
  -- right to left.
  have hmeant (n : Nat) : meantLabel? (decimal n) = some (decimal n) := by
    unfold meantLabel?
    split
    · next hcons =>
      obtain ⟨d, hd, hx⟩ := mem_decimal (hcons ▸ List.mem_cons_self : 'x' ∈ decimal n)
      exact absurd hx.symm (digitChar_spec (by omega : d < 16)).2.2
    · rfl
  have hdirection (n : Nat) : (decimal n).any isFromRight = false := by
    refine List.any_eq_false.mpr fun c hc => ?_
    obtain ⟨d, hd, rfl⟩ := mem_decimal hc
    simp [hdigits ⟨d, hd⟩]
  simp [isDomainName, splitAtChar_ipv4Chars, byteLabels, hmeant, hdirection]

/-- A written address has only host characters. -/
theorem isHostChar_of_mem_ipv4Chars {n : Nat} {c : Char} (h : c ∈ ipv4Chars n) :
    isHostChar c := by
  have hdigit (n : Nat) (hc : c ∈ decimal n) : isHostChar c := by
    obtain ⟨d, hd, rfl⟩ := mem_decimal hc
    exact (digitChar_spec (by omega : d < 16)).1
  have hpoint : isHostChar '.' := by decide
  simp only [ipv4Chars, List.mem_append, List.mem_cons] at h
  rcases h with ((h | rfl | h) | rfl | h) | rfl | h
  all_goals first
    | exact hpoint
    | exact hdigit _ h

/-- An address that is read has four bytes. -/
theorem lt_of_ipv4? {cs : List Char} {n : Nat} (h : ipv4? cs = some n) : n < Nat.pow 256 4 := by
  obtain ⟨numbers, -, h⟩ := Option.bind_eq_some_iff.mp h
  exact lt_of_addressOf? h

/-- A written address of eight pieces has only host characters and colons. -/
theorem isHostChar_or_of_mem_ipv6Chars {ns : List Nat} {c : Char} (h : c ∈ ipv6Chars ns) :
    isHostChar c ∨ c = ':' := by
  have hpieces {ns : List Nat} (hc : c ∈ piecesChars ns) : isHostChar c ∨ c = ':' := by
    rcases mem_piecesChars hc with hcolon | ⟨d, hd, rfl⟩
    · exact .inr hcolon
    · exact .inl (digitChar_spec hd).1
  simp only [ipv6Chars] at h
  split at h
  · exact hpieces h
  · simp only [List.mem_append, List.mem_cons] at h
    rcases h with h | h | h | h
    · exact hpieces h
    · exact .inr h
    · exact .inr h
    · exact hpieces h

/-! ### Whole hosts -/

/-- What stands between brackets is an address of eight pieces. -/
theorem bracketed?_eq_ok_iff {cs : List Char} {h : Host} :
    bracketed? cs = .ok h ↔
      ∃ inner ns, cs = inner ++ [']'] ∧ ipv6? inner = some ns ∧ h = .ipv6 ns := by
  unfold bracketed?
  constructor
  · intro hread
    split at hread
    · next inner hreverse =>
      split at hread
      · next ns hns =>
        obtain rfl := Except.ok.inj hread
        exact ⟨inner.reverse, ns, by simpa using congrArg List.reverse hreverse, hns, rfl⟩
      · cases hread
    · cases hread
  · rintro ⟨inner, ns, rfl, hns, rfl⟩
    simp [hns]

namespace Host

/-- No other host is read. -/
theorem isRead_of_ofChars {cs : List Char} {h : Host} (hread : ofChars cs = .ok h) : h.IsRead := by
  have hname := ofChars_ne_name_nil hread
  unfold ofChars at hread
  split at hread
  · cases hread
  · obtain ⟨inner, ns, -, hns, rfl⟩ := bracketed?_eq_ok_iff.mp hread
    obtain ⟨hlength, hlimit⟩ := lt_of_ipv6? hns
    exact .ipv6 hlength hlimit
  · dsimp only at hread
    split at hread
    · cases hread
    · next hall =>
      split at hread
      · cases hread
      · next hdomain =>
        split at hread
        · split at hread
          · next n hn =>
            obtain rfl := Except.ok.inj hread
            exact .ipv4 (lt_of_ipv4? hn)
          · cases hread
        · next hnumber =>
          obtain rfl := Except.ok.inj hread
          refine .name (fun hnil => hname (congrArg Host.name hnil)) (fun c hc => ?_)
            (by simpa using hdomain) (by simpa using hnumber)
          -- Letters were made small, and this cannot be done twice.
          obtain ⟨d, -, rfl⟩ := List.mem_map.mp hc
          have hplain := List.any_eq_false.mp (Bool.eq_false_iff.mpr hall) _ hc
          exact isHostChar_iff.mpr ⟨Bool.eq_false_iff.mpr hplain, toLower_toLower d⟩

namespace IsRead

variable {h : Host}

/-- A host that is read is read where it is written. -/
theorem ofChars_chars (hread : h.IsRead) : ofChars h.chars = .ok h := by
  cases hread with
  | name hne hchars hdomain hnumber =>
    simp [chars, ofChars_of_isHostChar hne hchars, hdomain, hnumber]
  | @ipv4 n hlimit =>
    have hne : ipv4Chars n ≠ [] := by simp [ipv4Chars]
    rw [chars, ofChars_of_isHostChar hne fun _ => isHostChar_of_mem_ipv4Chars]
    simp [isDomainName_ipv4Chars, endsInNumber_ipv4Chars, ipv4?_ipv4Chars hlimit]
  | @ipv6 ns hlength hlimit =>
    exact bracketed?_eq_ok_iff.mpr ⟨ipv6Chars ns, ns, rfl, ipv6?_ipv6Chars hlength hlimit, rfl⟩

/-- The characters of a written host are host characters, brackets and colons. The brackets stand at
its ends, and there is no colon without them. -/
theorem chars_cases (hread : h.IsRead) :
    (∀ c ∈ h.chars, isHostChar c) ∨
      ∃ inner, h.chars = '[' :: inner ++ [']'] ∧ ∀ c ∈ inner, isHostChar c ∨ c = ':' := by
  cases hread with
  | name _ hchars => exact .inl hchars
  | ipv4 => exact .inl fun _ => isHostChar_of_mem_ipv4Chars
  | @ipv6 ns => exact .inr ⟨ipv6Chars ns, rfl, fun _ => isHostChar_or_of_mem_ipv6Chars⟩

end IsRead

end Host

end NewsReader.Url
