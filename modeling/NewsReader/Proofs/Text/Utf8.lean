import NewsReader.Text.Utf8

/-!
# Encoded text is decoded to itself, and nothing else is decoded

The bytes of a character are one lead byte and up to three bytes after it. The lead byte fixes the
range of the next one, so that the proof goes by the number of bytes and, for the ranges, by the
bounds of the code point.

* `decodeFirst_encodeChar` — the step function takes exactly the bytes of a character off the
  front.
* `decode?_encode` and `decodeLenient_encode` — both decoders give an encoded text back.
* `decode?_eq_some_iff` — strict decoding gives a text for its own bytes only.
-/

namespace NewsReader.Text

/-- One byte after the lead byte adds its six bits. -/
theorem readTail_succ {more lo hi bits m : Nat} (hm : m < 64) (hlo : lo ≤ m + 0x80)
    (hhi : m + 0x80 ≤ hi) (bs : List UInt8) :
    readTail (more + 1) lo hi bits (UInt8.ofNat (m + 0x80) :: bs) =
      readTail more 0x80 0xBF (bits * 64 + m) bs := by
  have hbyte : (UInt8.ofNat (m + 0x80)).toNat = m + 0x80 := by
    rw [UInt8.toNat_ofNat']
    omega
  have hbits : (m + 0x80) % 64 = m := by omega
  rw [readTail, hbyte, if_pos ⟨hlo, hhi⟩, hbits]

/-- A lead byte below `0x80` is the whole character. -/
theorem decodeFirst_one {v : Nat} (hv : v < 0x80) (bs : List UInt8) :
    decodeFirst (UInt8.ofNat v) bs = (some (Char.ofNat v), bs) := by
  have hbyte : (UInt8.ofNat v).toNat = v := by
    rw [UInt8.toNat_ofNat']
    omega
  simp [decodeFirst, hbyte, Lead.ofByte?, hv, readTail]

/-- The lead byte of two bytes. -/
theorem Lead.ofByte?_two {a : Nat} (hlo : 2 ≤ a) (hhi : a < 0x20) :
    Lead.ofByte? (a + 0xC0) = some ⟨1, a, 0x80, 0xBF⟩ := by
  rw [Lead.ofByte?, if_neg (by omega), if_neg (by omega), if_pos (by omega), Nat.add_sub_cancel]

/-- The lead byte of three bytes: the byte after it lies in a range that leaves out what two bytes
can write and the surrogates. -/
theorem Lead.ofByte?_three {a b : Nat} (ha : a < 0x10) (hb : b < 0x40) (hlong : 0x20 ≤ a * 64 + b)
    (hsurrogate : a * 64 + b < 0x360 ∨ 0x380 ≤ a * 64 + b) :
    ∃ lo hi, Lead.ofByte? (a + 0xE0) = some ⟨2, a, lo, hi⟩ ∧
      lo ≤ b + 0x80 ∧ b + 0x80 ≤ hi := by
  rw [Lead.ofByte?, if_neg (by omega), if_neg (by omega), if_neg (by omega)]
  -- `0xE0` and `0xED` narrow the range of the byte after them; the other lead bytes do not.
  by_cases hfirst : a = 0
  · refine ⟨0xA0, 0xBF, ?_, by omega, by omega⟩
    simp [hfirst]
  by_cases hlast : a = 0xD
  · refine ⟨0x80, 0x9F, ?_, by omega, by omega⟩
    simp [hlast]
  · refine ⟨0x80, 0xBF, ?_, by omega, by omega⟩
    rw [if_neg (by omega), if_neg (by omega), if_pos (by omega), Nat.add_sub_cancel]

/-- The lead byte of four bytes: the byte after it lies in a range that leaves out what three bytes
can write and what is past the last code point. -/
theorem Lead.ofByte?_four {a b : Nat} (hb : b < 0x40) (hlong : 0x10 ≤ a * 64 + b)
    (hlast : a * 64 + b < 0x110) :
    ∃ lo hi, Lead.ofByte? (a + 0xF0) = some ⟨3, a, lo, hi⟩ ∧
      lo ≤ b + 0x80 ∧ b + 0x80 ≤ hi := by
  rw [Lead.ofByte?, if_neg (by omega), if_neg (by omega), if_neg (by omega), if_neg (by omega),
    if_neg (by omega), if_neg (by omega)]
  -- Here it is `0xF0` and `0xF4` that narrow the range.
  by_cases hfirst : a = 0
  · refine ⟨0x90, 0xBF, ?_, by omega, by omega⟩
    simp [hfirst]
  by_cases hend : a = 4
  · refine ⟨0x80, 0x8F, ?_, by omega, by omega⟩
    simp [hend]
  · refine ⟨0x80, 0xBF, ?_, by omega, by omega⟩
    rw [if_neg (by omega), if_pos (by omega), Nat.add_sub_cancel]

/-- The lead bytes by the number of bytes that follow, with what the range of the next byte leaves
out. -/
inductive Lead.Begins : Nat → Lead → Prop where
  | one {n : Nat} (hn : n < 0x80) : Begins n ⟨0, n, 0x80, 0xBF⟩
  | two {a : Nat} (ha : 2 ≤ a) (ha' : a < 0x20) : Begins (a + 0xC0) ⟨1, a, 0x80, 0xBF⟩
  | three {a lo hi : Nat} (ha : a < 0x10) (hlo : 0x80 ≤ lo) (hhi : hi ≤ 0xBF)
    (hrange : ∀ m, lo ≤ m + 0x80 → m + 0x80 ≤ hi →
      0x20 ≤ a * 64 + m ∧ (a * 64 + m < 0x360 ∨ 0x380 ≤ a * 64 + m)) :
        Begins (a + 0xE0) ⟨2, a, lo, hi⟩
  | four {a lo hi : Nat} (ha : a < 8) (hlo : 0x80 ≤ lo) (hhi : hi ≤ 0xBF)
    (hrange : ∀ m,
      lo ≤ m + 0x80 → m + 0x80 ≤ hi → 0x10 ≤ a * 64 + m ∧ a * 64 + m < 0x110) :
    Begins (a + 0xF0) ⟨3, a, lo, hi⟩

/-- A lead byte of three bytes keeps out the shorter forms and the surrogates. -/
theorem Lead.begins_three {n lo hi : Nat} (hn : 0xE0 ≤ n) (hn' : n < 0xF0) (hlo : 0x80 ≤ lo)
    (hhi : hi ≤ 0xBF) (hshort : n = 0xE0 → 0xA0 ≤ lo)
    (hsurrogate : n = 0xED → hi ≤ 0x9F) : Lead.Begins n ⟨2, n - 0xE0, lo, hi⟩ := by
  have hsum : n = n - 0xE0 + 0xE0 := by omega
  rw [hsum, Nat.add_sub_cancel]
  exact .three (by omega) hlo hhi fun m hm hm' => by omega

/-- A lead byte of four bytes keeps out the shorter forms and what is past the last code point. -/
theorem Lead.begins_four {n lo hi : Nat} (hn : 0xF0 ≤ n) (hn' : n < 0xF5) (hlo : 0x80 ≤ lo)
    (hhi : hi ≤ 0xBF) (hshort : n = 0xF0 → 0x90 ≤ lo) (hlast : n = 0xF4 → hi ≤ 0x8F) :
    Lead.Begins n ⟨3, n - 0xF0, lo, hi⟩ := by
  have hsum : n = n - 0xF0 + 0xF0 := by omega
  rw [hsum, Nat.add_sub_cancel]
  exact .four (by omega) hlo hhi fun m hm hm' => by omega

/-- There are no other lead bytes. -/
theorem Lead.begins_of_ofByte? {n : Nat} {lead : Lead} (h : Lead.ofByte? n = some lead) :
    Lead.Begins n lead := by
  rw [Lead.ofByte?] at h
  split at h
  · next hn =>
    obtain rfl := Option.some.inj h
    exact .one hn
  split at h
  · cases h
  split at h
  · obtain rfl := Option.some.inj h
    have hsum : n = n - 0xC0 + 0xC0 := by omega
    rw [hsum, Nat.add_sub_cancel]
    exact .two (by omega) (by omega)
  -- What is left are the ranges for three bytes and for four, the narrow ones first.
  repeat'
    split at h
    obtain rfl := Option.some.inj h
    first
    | exact Lead.begins_three (by omega) (by omega) (by omega) (by omega) (by omega) (by omega)
    | exact Lead.begins_four (by omega) (by omega) (by omega) (by omega) (by omega) (by omega)
  cases h

/-- The byte after a lead byte is none of ASCII. -/
theorem Lead.lo_of_ofByte? {b : Nat} {lead : Lead} (h : Lead.ofByte? b = some lead) :
    0x80 ≤ lead.lo := by
  cases begins_of_ofByte? h with
  | one hn => exact Nat.le_refl _
  | two ha ha' => exact Nat.le_refl _
  | three ha hlo hhi hrange => exact hlo
  | four ha hlo hhi hrange => exact hlo

/-- The code points of characters: none past the last, and no surrogates. -/
theorem toNat_bounds (c : Char) : c.toNat < 0xD800 ∨ 0xDFFF < c.toNat ∧ c.toNat < 0x110000 := by
  exact c.valid

/-- The step function takes exactly the bytes of a character off the front. -/
theorem decodeFirst_encodeChar (c : Char) :
    ∃ b bs, encodeChar c = b :: bs ∧ ∀ rest, decodeFirst b (bs ++ rest) = (some c, rest) := by
  have hbounds := toNat_bounds c
  have hchar (n : Nat) (h : n = c.toNat) : Char.ofNat n = c := by rw [h, Char.ofNat_toNat]
  have hbyte {n : Nat} (h : n < 0x100) : (UInt8.ofNat n).toNat = n := by
    rw [UInt8.toNat_ofNat']
    omega
  change ∃ b bs, String.utf8EncodeChar c = b :: bs ∧ _
  rw [String.utf8EncodeChar, show c.val.toNat = c.toNat from rfl]
  generalize c.toNat = v at *
  -- The cases are the lengths of the encoding. In each, what the bytes add up to is the code point
  -- again.
  by_cases h1 : v ≤ 0x7F
  · rw [if_pos h1]
    refine ⟨_, _, rfl, fun rest => ?_⟩
    rw [List.nil_append, decodeFirst_one (by omega), hchar v rfl]
  by_cases h2 : v ≤ 0x7FF
  · rw [if_neg h1, if_pos h2]
    refine ⟨_, _, rfl, fun rest => ?_⟩
    rw [decodeFirst, hbyte (by omega), Lead.ofByte?_two (by omega) (by omega)]
    simp only [List.cons_append, List.nil_append]
    rw [readTail_succ (by omega) (by omega) (by omega), readTail, Option.map_some,
      hchar _ (by omega)]
  by_cases h3 : v ≤ 0xFFFF
  · rw [if_neg h1, if_neg h2, if_pos h3]
    refine ⟨_, _, rfl, fun rest => ?_⟩
    -- `hbounds` leaves out the surrogates, which the lead byte does not accept.
    obtain ⟨lo, hi, hlead, hlo, hhi⟩ :=
      Lead.ofByte?_three (a := v / 4096 % 16) (b := v / 64 % 64) (by omega) (by omega) (by omega)
        (by omega)
    rw [decodeFirst, hbyte (by omega), hlead]
    simp only [List.cons_append, List.nil_append]
    rw [readTail_succ (by omega) hlo hhi, readTail_succ (by omega) (by omega) (by omega), readTail,
      Option.map_some, hchar _ (by omega)]
  · rw [if_neg h1, if_neg h2, if_neg h3]
    refine ⟨_, _, rfl, fun rest => ?_⟩
    obtain ⟨lo, hi, hlead, hlo, hhi⟩ :=
      Lead.ofByte?_four (a := v / 262144 % 8) (b := v / 4096 % 64) (by omega) (by omega) (by omega)
    rw [decodeFirst, hbyte (by omega), hlead]
    simp only [List.cons_append, List.nil_append]
    rw [readTail_succ (by omega) hlo hhi, readTail_succ (by omega) (by omega) (by omega),
      readTail_succ (by omega) (by omega) (by omega), readTail, Option.map_some, hchar _ (by omega)]

/-- Decoding goes on after the bytes of a character. -/
theorem decode?_encodeChar_append (c : Char) (rest : List UInt8) :
    decode? (encodeChar c ++ rest) = (decode? rest).map (c :: ·) := by
  obtain ⟨b, bs, hbytes, hfirst⟩ := decodeFirst_encodeChar c
  rw [hbytes, List.cons_append, decode?_cons, hfirst rest]
  rfl

/-- Lenient decoding goes on after the bytes of a character. -/
theorem decodeLenient_encodeChar_append (c : Char) (rest : List UInt8) :
    decodeLenient (encodeChar c ++ rest) = c :: decodeLenient rest := by
  obtain ⟨b, bs, hbytes, hfirst⟩ := decodeFirst_encodeChar c
  rw [hbytes, List.cons_append, decodeLenient_cons, hfirst rest]
  rfl

/-- What is passed over after a lead byte are no bytes of ASCII. -/
theorem mem_readTail {more lo hi bits : Nat} {bs : List UInt8} {b : UInt8} (hlo : 0x80 ≤ lo)
    (hb : b.toNat < 0x80) (hmem : b ∈ bs) : b ∈ (readTail more lo hi bits bs).2 := by
  induction more generalizing lo hi bits bs with
  | zero => exact hmem
  | succ more ih =>
    cases bs with
    | nil => exact hmem
    | cons b' bs =>
      rw [readTail]
      split
      · next hrange =>
        -- Bytes in the range of a continuation are past ASCII.
        have hne : b ≠ b' := by
          rintro rfl
          omega
        exact ih (Nat.le_refl _) ((List.mem_cons.mp hmem).resolve_left hne)
      · exact hmem

/-- Lenient decoding shows each byte of ASCII, whatever bytes are around it. -/
theorem mem_decodeLenient {bytes : List UInt8} {b : UInt8} (hb : b.toNat < 0x80)
    (hmem : b ∈ bytes) : Char.ofNat b.toNat ∈ decodeLenient bytes := by
  fun_induction decodeLenient bytes with
  | case1 => cases hmem
  | case2 b' bs ih =>
    by_cases hlead : b = b'
    · obtain rfl := hlead
      have hfirst := decodeFirst_one hb bs
      rw [UInt8.ofNat_toNat] at hfirst
      rw [hfirst]
      exact List.mem_cons_self
    · have hlater : b ∈ bs := (List.mem_cons.mp hmem).resolve_left hlead
      -- A byte of ASCII is not passed over as the tail of a lead byte before it.
      have hrest : b ∈ (decodeFirst b' bs).2 := by
        rw [decodeFirst]
        cases hbyte : Lead.ofByte? b'.toNat with
        | none => exact hlater
        | some lead => exact mem_readTail (Lead.lo_of_ofByte? hbyte) hb hlater
      exact List.mem_cons_of_mem _ (ih hrest)

/-- Decoding goes on after the bytes of a text. -/
theorem decode?_encode_append (cs : List Char) (rest : List UInt8) :
    decode? (encode cs ++ rest) = (decode? rest).map (cs ++ ·) := by
  induction cs with
  | nil => simp [encode]
  | cons c cs ih =>
    have hcons : encode (c :: cs) ++ rest = encodeChar c ++ (encode cs ++ rest) := by simp [encode]
    rw [hcons, decode?_encodeChar_append, ih, Option.map_map]
    rfl

/-- An encoded text is decoded to itself. -/
@[simp]
theorem decode?_encode (cs : List Char) : decode? (encode cs) = some cs := by
  simpa using decode?_encode_append cs []

/-- Different texts have different bytes. -/
@[simp]
theorem encode_inj {cs cs' : List Char} : encode cs = encode cs' ↔ cs = cs' := by
  refine ⟨fun h => ?_, congrArg encode⟩
  simpa using congrArg decode? h

/-- An encoded text is decoded leniently to itself. -/
@[simp]
theorem decodeLenient_encode (cs : List Char) : decodeLenient (encode cs) = cs := by
  induction cs with
  | nil => simp [encode]
  | cons c cs ih =>
    rw [show encode (c :: cs) = encodeChar c ++ encode cs from List.flatMap_cons,
      decodeLenient_encodeChar_append, ih]

/-! ### Only encoded text is decoded -/

/-- The byte that is read after a lead byte. -/
theorem readTail_eq_some {more lo hi bits v : Nat} {bs rest : List UInt8} (hlo : 0x80 ≤ lo)
    (hhi : hi ≤ 0xBF) (h : readTail (more + 1) lo hi bits bs = (some v, rest)) :
    ∃ m bs', bs = UInt8.ofNat (m + 0x80) :: bs' ∧ m < 64 ∧ lo ≤ m + 0x80 ∧
      m + 0x80 ≤ hi ∧ readTail more 0x80 0xBF (bits * 64 + m) bs' = (some v, rest) := by
  cases bs with
  | nil => cases h
  | cons b bs =>
    rw [readTail] at h
    split at h
    · next hrange =>
      obtain ⟨hb, hb'⟩ := hrange
      refine ⟨b.toNat - 0x80, bs, ?_, by omega, by omega, by omega, ?_⟩
      · rw [Nat.sub_add_cancel (by omega), UInt8.ofNat_toNat]
      · rwa [show b.toNat - 0x80 = b.toNat % 64 by omega]
    · cases h

/-- The character with a code point. -/
theorem val_ofNat {v : Nat} (hv : v < 0xD800 ∨ 0xDFFF < v ∧ v < 0x110000) :
    (Char.ofNat v).val.toNat = v := by
  have hvalid : Nat.isValidChar v := hv
  rw [Char.ofNat, dif_pos hvalid]
  rfl

/-- The bytes that the step function takes as a character are the bytes of the character. -/
theorem eq_encodeChar_of_decodeFirst {b : UInt8} {bs rest : List UInt8} {c : Char}
    (h : decodeFirst b bs = (some c, rest)) : b :: bs = encodeChar c ++ rest := by
  rw [decodeFirst] at h
  cases hlead : Lead.ofByte? b.toNat with
  | none =>
    rw [hlead] at h
    cases h
  | some lead =>
    rw [hlead] at h
    obtain ⟨hpoint, hrest⟩ := Prod.ext_iff.mp h
    obtain ⟨v, hv, rfl⟩ := Option.map_eq_some_iff.mp hpoint
    have htail : readTail lead.more lead.lo lead.hi lead.bits bs = (some v, rest) :=
      Prod.ext hv hrest
    have hb : b = UInt8.ofNat b.toNat := UInt8.ofNat_toNat.symm
    change b :: bs = String.utf8EncodeChar (Char.ofNat v) ++ rest
    rw [String.utf8EncodeChar, hb]
    -- In each case, the code point gives the bytes back that it was made of.
    generalize b.toNat = n at hlead
    cases Lead.begins_of_ofByte? hlead with
    | one hn =>
      dsimp only at htail
      cases htail
      rw [val_ofNat (by omega), if_pos (by omega)]
      rfl
    | @two a ha ha' =>
      dsimp only at htail
      obtain ⟨m, bs, rfl, hm, -, -, htail⟩ :=
        readTail_eq_some (Nat.le_refl _) (Nat.le_refl _) htail
      cases htail
      rw [val_ofNat (by omega), if_neg (by omega), if_pos (by omega),
        show (a * 64 + m) / 64 % 32 = a by omega, show (a * 64 + m) % 64 = m by omega]
      rfl
    | @three a lo hi ha hlo hhi hrange =>
      dsimp only at htail
      obtain ⟨m, bs, rfl, hm, hmlo, hmhi, htail⟩ := readTail_eq_some hlo hhi htail
      obtain ⟨hlong, hsurrogate⟩ := hrange m hmlo hmhi
      obtain ⟨k, bs, rfl, hk, -, -, htail⟩ :=
        readTail_eq_some (Nat.le_refl _) (Nat.le_refl _) htail
      cases htail
      rw [val_ofNat (by omega), if_neg (by omega), if_neg (by omega), if_pos (by omega),
        show ((a * 64 + m) * 64 + k) / 4096 % 16 = a by omega,
          show ((a * 64 + m) * 64 + k) / 64 % 64 = m by omega,
        show ((a * 64 + m) * 64 + k) % 64 = k by omega]
      rfl
    | @four a lo hi ha hlo hhi hrange =>
      dsimp only at htail
      obtain ⟨m, bs, rfl, hm, hmlo, hmhi, htail⟩ := readTail_eq_some hlo hhi htail
      obtain ⟨hlong, hlast⟩ := hrange m hmlo hmhi
      obtain ⟨k, bs, rfl, hk, -, -, htail⟩ :=
        readTail_eq_some (Nat.le_refl _) (Nat.le_refl _) htail
      obtain ⟨l, bs, rfl, hl, -, -, htail⟩ :=
        readTail_eq_some (Nat.le_refl _) (Nat.le_refl _) htail
      cases htail
      rw [val_ofNat (by omega), if_neg (by omega), if_neg (by omega), if_neg (by omega),
        show (((a * 64 + m) * 64 + k) * 64 + l) / 262144 % 8 = a by omega,
        show (((a * 64 + m) * 64 + k) * 64 + l) / 4096 % 64 = m by omega,
        show (((a * 64 + m) * 64 + k) * 64 + l) / 64 % 64 = k by omega,
        show (((a * 64 + m) * 64 + k) * 64 + l) % 64 = l by omega]
      rfl

/-- Bytes are decoded to a text exactly if they are the bytes of the text. -/
theorem decode?_eq_some_iff {bytes : List UInt8} {cs : List Char} :
    decode? bytes = some cs ↔ bytes = encode cs := by
  refine ⟨fun h => ?_, fun h => h ▸ decode?_encode cs⟩
  fun_induction decode? bytes generalizing cs with
  | case1 =>
    cases h
    rfl
  | case2 b bs hfirst => cases h
  | case3 b bs c hfirst ih =>
    obtain ⟨cs, hrest, rfl⟩ := Option.map_eq_some_iff.mp h
    rw [eq_encodeChar_of_decodeFirst (Prod.ext hfirst rfl)]
    exact congrArg (encodeChar c ++ ·) (ih hrest)

/-- Bytes from the front of a text are decoded to a front of the text, if at all. -/
theorem exists_append_of_decode?_take {cs front : List Char} {cut : Nat}
    (h : decode? ((encode cs).take cut) = some front) (hcut : cut < (encode cs).length) :
    ∃ more, cs = front ++ more ∧ more ≠ [] := by
  have hfront := decode?_eq_some_iff.mp h
  -- What is left of the bytes is decoded after the front, as the whole text is.
  have hwhole : (decode? ((encode cs).drop cut)).map (front ++ ·) = some cs := by
    rw [← decode?_encode_append, ← hfront, List.take_append_drop, decode?_encode]
  obtain ⟨more, hmore, rfl⟩ := Option.map_eq_some_iff.mp hwhole
  refine ⟨more, rfl, ?_⟩
  rintro rfl
  have hnil := decode?_eq_some_iff.mp hmore
  rw [show encode [] = [] from rfl, List.drop_eq_nil_iff] at hnil
  exact absurd hcut (Nat.not_lt.mpr hnil)

end NewsReader.Text
