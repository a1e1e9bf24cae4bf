import NewsReader.Proofs.Text.Utf8
import NewsReader.Proofs.Url.Layers

/-!
# Pairs of a query

A server reads pairs of a name and a value out of a query. They stand between ampersands, and the
first equals sign ends the name. Then each part is decoded: a plus sign is a space, a percent sign
and two digits are a byte, and the bytes are a text.

Whatever is written as a pair is read as that pair and no other, since the marks that the reader
looks for cannot be left in what `formEncode` writes.

* `formDecode_formEncode` — a written part is read back.
* `pairs_formEncode` — a written pair is read as itself alone.
-/

namespace NewsReader.Url

open Text (hexValue? encode encodeChar decodeLenient decodeLenient_encode)

/-! ### Reading -/

/-- A plus sign stands for a space. -/
def unplus (c : Char) : Char :=
  if c = '+' then ' ' else c

/-- Read the name or the value of a pair. -/
def formDecode (cs : List Char) : List Char :=
  decodeLenient (percentDecode (cs.map unplus))

/-- Read what stands between two ampersands. -/
def pairOf (part : List Char) : String × String :=
  let (name, value) := cutAt '=' part
  (String.ofList (formDecode name), String.ofList (formDecode (value.getD [])))

/-- The pairs in a query. Nothing between two ampersands is no pair. -/
def pairs (query : List Char) : List (String × String) :=
  ((splitAtChar '&' query).filter (!·.isEmpty)).map pairOf

/-! ### Characters of written parts -/

/-- The digits of a written byte are read back, and they stand as they are in a pair. -/
theorem upperDigit_spec {n : Nat} (h : n < 16) :
    hexValue? (Nat.digitChar n).toUpper = some n ∧ isPlain (Nat.digitChar n).toUpper := by
  have hdigits : ∀ d : Fin 16, hexValue? (Nat.digitChar d).toUpper = some d.val ∧
      isPlain (Nat.digitChar d).toUpper := by
    decide
  exact hdigits ⟨n, h⟩

/-- An encoded character is written with percent signs and digits. -/
theorem mem_percentChar {c d : Char} (h : c ∈ percentChar d) :
    c = '%' ∨ ∃ n < 16, c = (Nat.digitChar n).toUpper := by
  obtain ⟨b, -, hmem⟩ := List.mem_flatMap.mp h
  have hlt : b.toNat < 256 := b.toNat_lt
  -- A byte is a percent sign and two digits.
  simp only [percentByte, List.mem_cons, List.not_mem_nil, or_false] at hmem
  rcases hmem with rfl | rfl | rfl
  · exact .inl rfl
  · exact .inr ⟨b.toNat / 16, by omega, rfl⟩
  · exact .inr ⟨b.toNat % 16, by omega, rfl⟩

/-- An encoded character is written with percent signs and with characters that stand as they
are. -/
theorem isPlain_of_mem_percentChar {c d : Char} (h : c ∈ percentChar d) :
    isPlain c ∨ c = '%' := by
  rcases mem_percentChar h with rfl | ⟨n, hn, rfl⟩
  · exact .inr rfl
  · exact .inl (upperDigit_spec hn).2

/-- The only characters in a written part are those that stand as they are, percent signs and plus
signs. -/
theorem isPlain_of_mem_formEncode {c : Char} {cs : List Char} (h : c ∈ formEncode cs) :
    isPlain c ∨ c = '%' ∨ c = '+' := by
  obtain ⟨d, -, hmem⟩ := List.mem_flatMap.mp h
  unfold formChar at hmem
  split at hmem
  · next hplain => exact .inl (List.mem_singleton.mp hmem ▸ hplain)
  · split at hmem
    · exact .inr (.inr (List.mem_singleton.mp hmem))
    · rcases isPlain_of_mem_percentChar hmem with hplain | hpercent
      · exact .inl hplain
      · exact .inr (.inl hpercent)

/-- A mark that neither stands as it is nor is one of the two signs is not in a written part. -/
theorem notMem_formEncode {mark : Char} (hplain : isPlain mark = false) (hpercent : mark ≠ '%')
    (hplus : mark ≠ '+') (cs : List Char) : mark ∉ formEncode cs := by
  intro hmem
  rcases isPlain_of_mem_formEncode hmem with h | h | h
  · exact absurd h (by simp [hplain])
  · exact hpercent h
  · exact hplus h

/-! ### Written parts are read back -/

theorem percentDecode_percentByte (b : UInt8) (cs : List Char) :
    percentDecode (percentByte b ++ cs) = b :: percentDecode cs := by
  have hlt : b.toNat < 256 := b.toNat_lt
  have hhigh := (upperDigit_spec (n := b.toNat / 16) (by omega)).1
  have hlow := (upperDigit_spec (n := b.toNat % 16) (by omega)).1
  have hbyte : UInt8.ofNat (b.toNat / 16 * 16 + b.toNat % 16) = b := by
    rw [Nat.div_add_mod']
    exact UInt8.ofNat_toNat
  simp only [percentByte, List.cons_append, List.nil_append, percentDecode, hhigh, hlow, hbyte]

theorem percentDecode_percentChar (c : Char) (cs : List Char) :
    percentDecode (percentChar c ++ cs) = encodeChar c ++ percentDecode cs := by
  unfold percentChar
  induction encodeChar c with
  | nil => rfl
  | cons b bs ih =>
    rw [List.flatMap_cons, List.append_assoc, percentDecode_percentByte, ih, List.cons_append]

/-- A character other than the percent sign is taken as it is. -/
theorem percentDecode_cons {c : Char} (h : c ≠ '%') (cs : List Char) :
    percentDecode (c :: cs) = encodeChar c ++ percentDecode cs := by
  rw [percentDecode]
  exact fun _ _ _ heq => absurd heq h

/-- A written character is read as its bytes. -/
theorem percentDecode_formChar (c : Char) (cs : List Char) :
    percentDecode ((formChar c).map unplus ++ cs) = encodeChar c ++ percentDecode cs := by
  have hsigns : isPlain '+' = false ∧ isPlain '%' = false := by decide
  unfold formChar
  split
  · next hplain =>
    have hplus : c ≠ '+' := by
      rintro rfl
      exact absurd hplain (by simp [hsigns])
    have hpercent : c ≠ '%' := by
      rintro rfl
      exact absurd hplain (by simp [hsigns])
    simpa [unplus, hplus] using percentDecode_cons hpercent cs
  · split
    · next hspace =>
      subst hspace
      exact percentDecode_cons (by decide) cs
    · -- There is no plus sign in a written byte, so none is taken for a space.
      have hkept : (percentChar c).map unplus = percentChar c := by
        refine (List.map_congr_left fun d hd => if_neg ?_).trans (List.map_id _)
        rintro rfl
        rcases isPlain_of_mem_percentChar hd with hplain | hpercent
        · exact absurd hplain (by simp [hsigns])
        · exact absurd hpercent (by decide)
      rw [hkept, percentDecode_percentChar]

theorem formDecode_formEncode (cs : List Char) : formDecode (formEncode cs) = cs := by
  -- Characters are read one by one as bytes, but it takes all the bytes to have a text again.
  have hbytes : percentDecode ((formEncode cs).map unplus) = encode cs := by
    induction cs with
    | nil => rfl
    | cons c cs ih =>
      have hcons : formEncode (c :: cs) = formChar c ++ formEncode cs := List.flatMap_cons
      rw [hcons, List.map_append, percentDecode_formChar, ih]
      exact List.flatMap_cons.symm
  rw [formDecode, hbytes, decodeLenient_encode]

/-- A text without the mark is one part. -/
theorem splitAtChar_of_notMem {sep : Char} {cs : List Char} (h : sep ∉ cs) :
    splitAtChar sep cs = [cs] := by
  induction cs with
  | nil => rfl
  | cons c cs ih =>
    obtain ⟨hne, hcs⟩ := not_or.mp (mt List.mem_cons.mpr h)
    rw [splitAtChar, if_neg (Ne.symm hne), ih hcs]

/-- A written pair is read as itself, and as nothing else. -/
theorem pairs_formEncode (name value : List Char) :
    pairs (formEncode name ++ '=' :: formEncode value) =
      [(String.ofList name, String.ofList value)] := by
  -- Neither mark can be left in a written part: there is no second pair, and the name ends where it
  -- was ended.
  have hand (cs : List Char) : '&' ∉ formEncode cs :=
    notMem_formEncode (by decide) (by decide) (by decide) cs
  have heq : '=' ∉ formEncode name := notMem_formEncode (by decide) (by decide) (by decide) name
  have hparts : splitAtChar '&' (formEncode name ++ '=' :: formEncode value) =
      [formEncode name ++ '=' :: formEncode value] := by
    refine splitAtChar_of_notMem ?_
    simp [hand]
  have hcut : cutAt '=' (formEncode name ++ '=' :: formEncode value) =
      (formEncode name, some (formEncode value)) :=
    cutAt_append_cons heq _
  rw [pairs, hparts]
  simp [pairOf, hcut, formDecode_formEncode]

end NewsReader.Url
