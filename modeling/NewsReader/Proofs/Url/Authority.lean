import Mathlib.Data.List.TakeDrop
import Mathlib.Data.List.TakeWhile
import NewsReader.Proofs.Text.Utf8
import NewsReader.Proofs.Url.Segments

/-!
# Authorities with more behind them

An authority of a special scheme is read up to the path, and nothing of what follows counts for it.
What comes before the path counts: a blank or a control at the end of the authority is none of its
host and none of its port.

* `Host.ofChars_ne_name_nil` — a host of a special scheme has a name.
* `Authority.ofChars_congr` — whether anything follows makes no difference in a special scheme.
* `Authority.ofChars_blank` — there is no authority with a blank at its end.
-/

namespace NewsReader.Url

open Text (decodeLenient encodeChar hexValue?)

/-! ### Bytes -/

/-- A character of ASCII is one byte. -/
theorem encodeChar_of_lt {c : Char} (hc : c.toNat < 0x80) :
    encodeChar c = [UInt8.ofNat c.toNat] := by
  rw [encodeChar, String.utf8EncodeChar,
    if_pos (show c.val.toNat ≤ 0x7F from Nat.le_of_lt_succ hc)]
  rfl

/-- A character of ASCII that is neither a percent sign nor a digit in base sixteen stands for
itself. -/
theorem mem_percentDecode {c : Char} {cs : List Char} (hc : c.toNat < 0x80) (hpercent : c ≠ '%')
    (hdigit : hexValue? c = none) (hmem : c ∈ cs) : UInt8.ofNat c.toNat ∈ percentDecode cs := by
  -- A percent sign takes only digits with it, so the character is read by itself.
  fun_induction percentDecode cs with
  | case1 a b cs x y hx hy ih =>
    simp only [List.mem_cons, hpercent, false_or] at hmem
    rcases hmem with rfl | rfl | hmem
    · rw [hdigit] at hy
      cases hy
    · rw [hdigit] at hx
      cases hx
    · exact List.mem_cons_of_mem _ (ih hmem)
  | case2 a b cs _ ih =>
    simp only [List.mem_cons, hpercent, false_or] at hmem
    exact List.mem_append_right _ (ih (by simpa using hmem))
  | case3 c' cs _ ih =>
    rcases List.mem_cons.mp hmem with rfl | hmem
    · refine List.mem_append_left _ ?_
      rw [encodeChar_of_lt hc]
      exact List.mem_singleton_self _
    · exact List.mem_append_right _ (ih hmem)
  | case4 => cases hmem

/-- There are bytes where there are characters. -/
theorem percentDecode_ne_nil {cs : List Char} (h : cs ≠ []) : percentDecode cs ≠ [] := by
  have hbytes (c : Char) : encodeChar c ≠ [] := by
    obtain ⟨b, bs, hcons, -⟩ := Text.decodeFirst_encodeChar c
    rw [hcons]
    exact List.cons_ne_nil b bs
  fun_cases percentDecode cs with
  | case1 => simp
  | case2 => simp [hbytes]
  | case3 => simp [hbytes]
  | case4 => exact absurd rfl h

/-! ### Hosts -/

/-- The host of a special scheme has a name if it is not an address. -/
theorem Host.ofChars_ne_name_nil {cs : List Char} {h : Host} (hread : Host.ofChars cs = .ok h) :
    h ≠ .name [] := by
  rintro rfl
  unfold Host.ofChars at hread
  split at hread
  · cases hread
  · unfold bracketed? at hread
    split at hread
    · split at hread <;> cases hread
    · cases hread
  · next hne _ =>
    -- Even what is no UTF-8 is decoded to a character.
    have hname : decodeLenient (percentDecode cs) ≠ [] := by
      obtain ⟨b, bs, hcons⟩ := List.exists_cons_of_ne_nil (percentDecode_ne_nil hne)
      rw [hcons, Text.decodeLenient_cons]
      exact List.cons_ne_nil _ _
    simp only at hread
    split at hread
    · cases hread
    · split at hread
      · cases hread
      · split at hread
        · split at hread <;> cases hread
        · exact hname (List.map_eq_nil_iff.mp (Host.name.inj (Except.ok.inj hread)))

/-- A blank or control is no digit, and no name has it. -/
theorem isForbidden_of_le {c : Char} (hc : c.toNat ≤ 0x20) :
    c ≠ '%' ∧ c ≠ ']' ∧ Text.isDigit c = false ∧ hexValue? c = none ∧
      isForbidden c.toLower := by
  have hall : ∀ n : Fin 33,
      Char.ofNat n ≠ '%' ∧ Char.ofNat n ≠ ']' ∧ Text.isDigit (Char.ofNat n) = false ∧
      hexValue? (Char.ofNat n) = none ∧ isForbidden (Char.ofNat n).toLower := by decide +kernel
  have hchar := hall ⟨c.toNat, Nat.lt_succ_of_le hc⟩
  rwa [Char.ofNat_toNat] at hchar

/-- There is no host with a blank at its end. -/
theorem Host.ofChars_blank {cs trail : List Char} (hcs : cs ≠ []) (htrail : IsTrail trail) :
    ∃ fault, Host.ofChars (cs ++ trail) = .error fault := by
  obtain ⟨front, c, rfl⟩ : ∃ front c, trail = front ++ [c] := by
    rcases List.eq_nil_or_concat trail with rfl | ⟨front, c, rfl⟩
    · exact absurd rfl htrail.ne_nil
    · exact ⟨front, c, List.concat_eq_append ..⟩
  have hle := htrail.hidden c (by simp)
  obtain ⟨hpercent, hbracket, -, hdigit, hforbidden⟩ := isForbidden_of_le hle
  unfold Host.ofChars
  split
  · exact ⟨_, rfl⟩
  · next rest heq =>
    -- The last character is the blank, and not the bracket that has to stand there.
    have hreverse : ∃ more, rest.reverse = c :: more := by
      obtain ⟨c', cs, rfl⟩ := List.exists_cons_of_ne_nil hcs
      obtain ⟨-, rfl⟩ := List.cons.inj heq
      exact ⟨front.reverse ++ cs.reverse, by simp⟩
    obtain ⟨more, hmore⟩ := hreverse
    unfold bracketed?
    rw [hmore]
    split
    · next heq' => exact absurd (List.cons.inj heq').1 hbracket
    · exact ⟨_, rfl⟩
  · have hbyte : c.toNat < 0x80 := by omega
    have hmem : UInt8.ofNat c.toNat ∈ percentDecode (cs ++ (front ++ [c])) :=
      mem_percentDecode hbyte hpercent hdigit (by simp)
    have hvalue : (UInt8.ofNat c.toNat).toNat = c.toNat := by
      rw [UInt8.toNat_ofNat']
      omega
    have hshown : c ∈ decodeLenient (percentDecode (cs ++ (front ++ [c]))) := by
      have hascii : (UInt8.ofNat c.toNat).toNat < 0x80 := by rwa [hvalue]
      have h := Text.mem_decodeLenient hascii hmem
      rwa [hvalue, Char.ofNat_toNat] at h
    have hany : ((decodeLenient (percentDecode (cs ++ (front ++ [c])))).map Char.toLower).any
        fun c => isForbidden c || c == '%' || 0x80 ≤ c.toNat := by
      refine List.any_eq_true.mpr ⟨c.toLower, List.mem_map_of_mem hshown, ?_⟩
      rw [hforbidden, Bool.true_or, Bool.true_or]
    simp only [hany, ↓reduceIte]
    exact ⟨_, rfl⟩

/-! ### Authorities -/

/-- In a text without the mark, no character is the mark. -/
theorem bne_of_notMem {mark : Char} {cs : List Char} (h : mark ∉ cs) :
    ∀ c ∈ cs, (c != mark) = true := by
  intro c hc
  rw [bne_iff_ne]
  rintro rfl
  exact h hc

/-- The part after the last mark goes on with a text that has none. -/
theorem cutAtLast_append {mark : Char} {more : List Char} (h : mark ∉ more) (cs : List Char) :
    cutAtLast mark (cs ++ more) = ((cutAtLast mark cs).1, (cutAtLast mark cs).2 ++ more) := by
  have hmore : ∀ c ∈ more.reverse, (c != mark) = true :=
    bne_of_notMem (mt List.mem_reverse.mp h)
  simp only [cutAtLast, List.reverse_append, List.span_eq_takeWhile_dropWhile,
    List.takeWhile_append_of_pos hmore, List.dropWhile_append_of_pos hmore]
  cases cs.reverse.dropWhile (· != mark) <;> simp

/-- What is written after the last mark is written in the text. -/
theorem mem_of_mem_cutAtLast {mark c : Char} {cs : List Char} (h : c ∈ (cutAtLast mark cs).2) :
    c ∈ cs := by
  have hafter : (cutAtLast mark cs).2 = (cs.reverse.takeWhile (· != mark)).reverse := by
    simp only [cutAtLast, List.span_eq_takeWhile_dropWhile]
    cases cs.reverse.dropWhile (· != mark) <;> rfl
  rw [hafter, List.mem_reverse] at h
  exact List.mem_reverse.mp ((List.takeWhile_sublist _).mem h)

/-- A text without colons goes on with the port, or with the host if there is no port. -/
theorem cutPort_append {more : List Char} (h : ':' ∉ more) (inBrackets : Bool) (cs : List Char) :
    cutPort inBrackets (cs ++ more) =
      match cutPort inBrackets cs with
      | (host, none) => (host ++ more, none)
      | (host, some port) => (host, some (port ++ more)) := by
  induction cs generalizing inBrackets with
  | nil =>
    -- Without a colon nothing is cut off, inside brackets or not.
    induction more generalizing inBrackets with
    | nil => rfl
    | cons c more ih =>
      obtain ⟨hc, hmore⟩ := List.ne_and_not_mem_of_not_mem_cons h
      have hrest := ih hmore (if c = '[' then true else if c = ']' then false else inBrackets)
      simp only [List.nil_append, cutPort] at hrest ⊢
      rw [if_neg fun hand => hc hand.1.symm, hrest]
  | cons c cs ih =>
    rcases hcut : cutPort (if c = '[' then true else if c = ']' then false else inBrackets) cs with
      ⟨host, port⟩
    simp only [List.cons_append, cutPort, ih, hcut]
    split
    · rfl
    · cases port <;> rfl

/-- What is written in the host or the port is written in the text. -/
theorem mem_of_mem_cutPort (inBrackets : Bool) {c : Char} {cs : List Char}
    (h : c ∈ (cutPort inBrackets cs).1 ∨ ∃ port ∈ (cutPort inBrackets cs).2, c ∈ port) :
    c ∈ cs := by
  induction cs generalizing inBrackets with
  | nil => simp [cutPort] at h
  | cons d cs ih =>
    rw [cutPort] at h
    split at h
    · simp at h
      exact List.mem_cons_of_mem _ h
    · simp only [List.mem_cons] at h ⊢
      rcases h with (rfl | hhost) | hport
      · exact .inl rfl
      · exact .inr (ih _ (.inl hhost))
      · exact .inr (ih _ (.inr hport))

namespace Authority

variable {scheme : String}

/-- An authority of a special scheme: the host and the port have to be ones, and the user can be
any. -/
theorem ofChars_of_isSpecial (h : isSpecial scheme) (atEnd : Bool) (cs : List Char) :
    ofChars scheme atEnd cs =
      match Host.ofChars (cutPort false (cutAtLast '@' cs).2).1 with
      | .error fault => .error fault
      | .ok host =>
        (portOf scheme ((cutPort false (cutAtLast '@' cs).2).2.map (·.takeWhile (· != '\\')))).map
          fun port =>
            (⟨(((cutAtLast '@' cs).1.map userOf).getD ([], none)).1,
              (((cutAtLast '@' cs).1.map userOf).getD ([], none)).2, host, port⟩,
              (cutAtLast '@' cs).2.dropWhile (· != '\\')) := by
  rw [ofChars, h]
  cases hhost : Host.ofChars (cutPort false (cutAtLast '@' cs).2).1 with
  | error fault => simp [hhost, bind, Except.bind]
  | ok host =>
    have hname := Host.ofChars_ne_name_nil hhost
    simp [hhost, hname, bind, Except.bind]
    rfl

/-- In a special scheme it makes no difference whether anything follows. -/
theorem ofChars_congr (h : isSpecial scheme) (atEnd atEnd' : Bool) (cs : List Char) :
    ofChars scheme atEnd cs = ofChars scheme atEnd' cs := by
  rw [ofChars_of_isSpecial h, ofChars_of_isSpecial h]

/-- There is something in an authority. -/
theorem ne_nil_of_ofChars (h : isSpecial scheme) {atEnd : Bool} {cs : List Char}
    {r : Authority × List Char} (hread : ofChars scheme atEnd cs = .ok r) : cs ≠ [] := by
  rintro rfl
  rw [ofChars_of_isSpecial h] at hread
  cases hread

/-- What is read of an authority of a special scheme: its host, and what is left for the path. -/
theorem exists_of_ofChars (h : isSpecial scheme) {atEnd : Bool} {cs : List Char}
    {r : Authority × List Char} (hread : ofChars scheme atEnd cs = .ok r) :
    Host.ofChars (cutPort false (cutAtLast '@' cs).2).1 = .ok r.1.host ∧
      r.2 = (cutAtLast '@' cs).2.dropWhile (· != '\\') := by
  rw [ofChars_of_isSpecial h] at hread
  split at hread
  · cases hread
  · next host hhost =>
    cases hport :
      portOf scheme ((cutPort false (cutAtLast '@' cs).2).2.map (·.takeWhile (· != '\\'))) with
    | error fault => simp [hport, Except.map] at hread
    | ok port =>
      rw [hport] at hread
      obtain rfl := Except.ok.inj hread
      exact ⟨hhost, rfl⟩

/-- An authority of a special scheme has a host. -/
theorem host_ne_of_ofChars (h : isSpecial scheme) {atEnd : Bool} {cs : List Char}
    {r : Authority × List Char} (hread : ofChars scheme atEnd cs = .ok r) :
    r.1.host ≠ .name [] :=
  Host.ofChars_ne_name_nil (exists_of_ofChars h hread).1

/-- Without a backslash nothing is left for the path. -/
theorem rest_of_ofChars (h : isSpecial scheme) {atEnd : Bool} {cs : List Char}
    {r : Authority × List Char} (hcs : '\\' ∉ cs) (hread : ofChars scheme atEnd cs = .ok r) :
    r.2 = [] := by
  rw [(exists_of_ofChars h hread).2, List.dropWhile_eq_nil_iff]
  exact bne_of_notMem fun hmem => hcs (mem_of_mem_cutAtLast hmem)

/-- A port has no blank at its end. -/
theorem portOf_blank (digits : List Char) {trail : List Char} (htrail : IsTrail trail) :
    portOf scheme (some (digits ++ trail)) = .error .badPort := by
  obtain ⟨c, rest, rfl⟩ := List.exists_cons_of_ne_nil htrail.ne_nil
  have hdigit : Text.isDigit c = false :=
    (isForbidden_of_le (htrail.hidden c List.mem_cons_self)).2.2.1
  have hall : (digits ++ c :: rest).all Text.isDigit = false := by
    rw [List.all_append, List.all_cons, hdigit, Bool.false_and, Bool.and_false]
  simp [portOf, hall]

/-- There is no authority with a blank at its end. -/
theorem ofChars_blank (h : isSpecial scheme) {atEnd : Bool} {cs trail : List Char}
    {r : Authority × List Char} (hcs : '\\' ∉ cs) (hread : ofChars scheme atEnd cs = .ok r)
    (htrail : IsTrail trail) (atEnd' : Bool) :
    ∃ fault, ofChars scheme atEnd' (cs ++ trail) = .error fault := by
  have hmark : '@' ∉ trail := htrail.notMem (by decide)
  have hcolon : ':' ∉ trail := htrail.notMem (by decide)
  rw [ofChars_of_isSpecial h] at hread ⊢
  rw [cutAtLast_append hmark, cutPort_append hcolon]
  -- The blank is at the end of the port if there is one, and else at the end of the host.
  rcases hcut : cutPort false (cutAtLast '@' cs).2 with ⟨host, port⟩
  rw [hcut] at hread
  cases port with
  | none =>
    have hhost : host ≠ [] := by
      rintro rfl
      cases hread
    obtain ⟨fault, hfault⟩ := Host.ofChars_blank hhost htrail
    simp only [hfault]
    exact ⟨fault, rfl⟩
  | some port =>
    have hport : '\\' ∉ port := by
      intro hmem
      have hrest : '\\' ∈ (cutAtLast '@' cs).2 :=
        mem_of_mem_cutPort false (.inr ⟨port, by rw [hcut]; rfl, hmem⟩)
      exact hcs (mem_of_mem_cutAtLast hrest)
    have hwhole : (port ++ trail).takeWhile (· != '\\') = port ++ trail := by
      rw [List.takeWhile_eq_self_iff]
      refine bne_of_notMem fun hmem => ?_
      rcases List.mem_append.mp hmem with hmem | hmem
      · exact hport hmem
      · exact htrail.notMem (by decide) hmem
    cases hhost : Host.ofChars host with
    | error fault => exact ⟨fault, rfl⟩
    | ok host => exact ⟨.badPort, by simp [hwhole, portOf_blank port htrail, Except.map]⟩

end Authority

end NewsReader.Url
