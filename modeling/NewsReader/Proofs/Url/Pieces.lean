import NewsReader.Proofs.Url.Numbers

/-!
# Addresses of eight pieces

An address of eight pieces is written with its longest run of zeros left out, and read back with
that run put in again. No piece is written without digits, so the pair of colons stands only where
the run was.

* `splitGap_piecesChars` — where the pair of colons is found.
* `split_longestRun` — an address is its longest run of zeros with what stands around it.
* `ipv6?_ipv6Chars` — a written address is read back.
* `lt_of_ipv6?` — an address that is read has eight pieces of two bytes.
-/

namespace NewsReader.Url

variable {ns : List Nat}

/-! ### Written pieces -/

/-- Parts without separators are found again between the separators. -/
theorem splitAtChar_intercalate {sep : Char} {parts : List (List Char)} (hne : parts ≠ [])
    (h : ∀ part ∈ parts, sep ∉ part) :
    splitAtChar sep (List.intercalate [sep] parts) = parts := by
  induction parts with
  | nil => exact absurd rfl hne
  | cons part parts ih =>
    obtain ⟨hpart, hparts⟩ := List.forall_mem_cons.mp h
    -- A separator follows a part only if there is another part.
    cases parts with
    | nil => rw [List.intercalate_singleton, splitAtChar_of_notMem hpart]
    | cons next parts =>
      rw [List.intercalate_cons_of_ne_nil (List.cons_ne_nil _ _), List.append_assoc,
        List.singleton_append,
        splitAtChar_append, splitAtChar_of_notMem hpart, ih (List.cons_ne_nil _ _) hparts,
        List.singleton_append]

/-- A piece is written with one to four digits, and it is read as itself. -/
theorem piece_spec {n : Nat} (h : n < Nat.pow 256 2) :
    Nat.toDigits 16 n ≠ [] ∧ (Nat.toDigits 16 n).length ≤ 4 ∧ ':' ∉ Nat.toDigits 16 n ∧
      '.' ∉ Nat.toDigits 16 n ∧ numberIn? 16 (Nat.toDigits 16 n) = some n := by
  have hdigits {c : Char} (hc : c ∈ Nat.toDigits 16 n) : c ≠ ':' ∧ c ≠ '.' := by
    obtain ⟨d, hd, rfl⟩ := exists_of_mem_toDigits (by decide) hc
    obtain ⟨hhost, hpoint, -⟩ := digitChar_spec hd
    refine ⟨fun hcolon => ?_, hpoint⟩
    rw [hcolon] at hhost
    exact absurd hhost (by decide)
  exact ⟨Nat.toDigits_ne_nil, (Nat.length_toDigits_le_iff (by decide) (by decide)).mpr h,
    fun hc => (hdigits hc).1 rfl, fun hc => (hdigits hc).2 rfl,
      numberIn?_toDigits (by decide) (by decide) n⟩

/-- Pieces are written one after the other, with colons between them. -/
theorem piecesChars_cons_cons (n m : Nat) (ns : List Nat) :
    piecesChars (n :: m :: ns) = Nat.toDigits 16 n ++ ':' :: piecesChars (m :: ns) := by
  simp [piecesChars, List.intercalate_cons_of_ne_nil]

/-- The characters of pieces are colons and digits. -/
theorem mem_piecesChars {c : Char} (h : c ∈ piecesChars ns) :
    c = ':' ∨ ∃ d < 16, c = d.digitChar := by
  induction ns with
  | nil => cases h
  | cons n ns ih =>
    cases ns with
    | nil =>
      have hdigits : piecesChars [n] = Nat.toDigits 16 n := List.intercalate_singleton
      exact .inr (exists_of_mem_toDigits (by decide) (hdigits ▸ h))
    | cons m ns =>
      rw [piecesChars_cons_cons, List.mem_append, List.mem_cons] at h
      rcases h with hdigit | hcolon | hrest
      · exact .inr (exists_of_mem_toDigits (by decide) hdigit)
      · exact .inl hcolon
      · exact ih hrest

/-- There are no points between pieces. -/
theorem point_notMem_piecesChars : '.' ∉ piecesChars ns := by
  intro h
  rcases mem_piecesChars h with hcolon | ⟨d, hd, hdigit⟩
  · cases hcolon
  · exact (digitChar_spec hd).2.1 hdigit.symm

/-! ### Pieces are read back -/

/-- Written pieces are read one by one. -/
theorem pieces?_map (h : ∀ n ∈ ns, n < Nat.pow 256 2) :
    pieces? (ns.map (Nat.toDigits 16)) = some ns := by
  induction ns with
  | nil => rfl
  | cons n ns ih =>
    obtain ⟨hn, hns⟩ := List.forall_mem_cons.mp h
    obtain ⟨hne, hlength, -, hpoint, hread⟩ := piece_spec hn
    have hfour : ¬4 < (Nat.toDigits 16 n).length := Nat.not_lt_of_le hlength
    cases ns with
    | nil => simp [pieces?, hne, hpoint, hread, hfour]
    | cons m ns =>
      have hrest : pieces? (Nat.toDigits 16 m :: ns.map (Nat.toDigits 16)) = some (m :: ns) :=
        ih hns
      simp [pieces?, hne, hread, hfour, hrest]

/-- Written pieces are read back, even if there are none. -/
theorem somePieces?_piecesChars (h : ∀ n ∈ ns, n < Nat.pow 256 2) :
    somePieces? (piecesChars ns) = some ns := by
  cases ns with
  | nil => rfl
  | cons n ns =>
    have hparts : splitAtChar ':' (piecesChars (n :: ns)) = (n :: ns).map (Nat.toDigits 16) := by
      refine splitAtChar_intercalate (List.cons_ne_nil _ _) fun part hpart => ?_
      obtain ⟨m, hm, rfl⟩ := List.mem_map.mp hpart
      exact (piece_spec (h m hm)).2.2.1
    have hne : (piecesChars (n :: ns)).isEmpty = false := by
      rw [List.isEmpty_eq_false_iff]
      intro hnil
      rw [hnil] at hparts
      -- The one part of nothing would have to be the digits of a piece.
      have hfirst : [] = Nat.toDigits 16 n := (List.cons.inj hparts).1
      exact (piece_spec (h n List.mem_cons_self)).1 hfirst.symm
    rw [somePieces?, hne, hparts]
    exact pieces?_map h

/-! ### The gap -/

/-- A character that does not start a pair of colons is passed over. -/
theorem splitGap_cons {c : Char} {cs : List Char} (h : c = ':' → cs.head? ≠ some ':') :
    splitGap (c :: cs) = (splitGap cs).map fun (before, after) => (c :: before, after) := by
  rw [splitGap]
  rintro cs rfl rfl
  exact h rfl rfl

/-- Characters other than colons are passed over. -/
theorem splitGap_append_of_notMem {cs : List Char} (h : ':' ∉ cs) (more : List Char) :
    splitGap (cs ++ more) = (splitGap more).map fun (before, after) => (cs ++ before, after) := by
  induction cs with
  | nil => simp
  | cons c cs ih =>
    obtain ⟨hc, hcs⟩ := List.ne_and_not_mem_of_not_mem_cons h
    rw [List.cons_append, splitGap_cons fun heq => absurd heq.symm hc, ih hcs]
    cases splitGap more <;> rfl

/-- Written pieces do not start with a colon. -/
theorem head?_piecesChars {n : Nat} (hn : n < Nat.pow 256 2) (ns : List Nat) (more : List Char) :
    (piecesChars (n :: ns) ++ more).head? ≠ some ':' := by
  obtain ⟨hne, -, hcolon, -⟩ := piece_spec hn
  obtain ⟨c, cs, hcons⟩ := List.exists_cons_of_ne_nil hne
  have hc : c ≠ ':' := fun heq => hcolon (hcons ▸ heq ▸ List.mem_cons_self)
  cases ns with
  | nil => simpa [piecesChars, hcons] using hc
  | cons m ns => simpa [piecesChars_cons_cons, hcons] using hc

/-- There is no pair of colons in written pieces. -/
theorem splitGap_piecesChars_append (h : ∀ n ∈ ns, n < Nat.pow 256 2) (more : List Char) :
    splitGap (piecesChars ns ++ more) =
      (splitGap more).map fun (before, after) => (piecesChars ns ++ before, after) := by
  induction ns with
  | nil =>
    have hnil : piecesChars [] = [] := rfl
    simp [hnil]
  | cons n ns ih =>
    obtain ⟨hn, hns⟩ := List.forall_mem_cons.mp h
    have hcolon := (piece_spec hn).2.2.1
    cases ns with
    | nil =>
      have hdigits : piecesChars [n] = Nat.toDigits 16 n := List.intercalate_singleton
      rw [hdigits, splitGap_append_of_notMem hcolon]
    | cons m ns =>
      -- Behind the colon after a piece there are the digits of the next one, so it starts no pair.
      have hhead := head?_piecesChars (hns m List.mem_cons_self) ns more
      rw [piecesChars_cons_cons, List.append_assoc, List.cons_append,
        splitGap_append_of_notMem hcolon, splitGap_cons fun _ => hhead, ih hns]
      cases splitGap more <;> simp

/-- The pair of colons is found behind the pieces that stand before it. -/
theorem splitGap_piecesChars (h : ∀ n ∈ ns, n < Nat.pow 256 2) :
    splitGap (piecesChars ns) = none ∧
      ∀ after, splitGap (piecesChars ns ++ ':' :: ':' :: after) =
        some (piecesChars ns, after) := by
  constructor
  · rw [← List.append_nil (piecesChars ns), splitGap_piecesChars_append h]
    rfl
  · intro after
    simp [splitGap_piecesChars_append h, splitGap]

/-! ### The longest run -/

/-- A run of zeros that was found has at least so many of them. -/
theorem longestRun_le (ns : List Nat) :
    (longestRun ns).2 ≤ ((ns.drop (longestRun ns).1).takeWhile (· == 0)).length := by
  -- Every pair that the search keeps in between has this property.
  have hstep (best : Nat × Nat) (hbest : best.2 ≤ ((ns.drop best.1).takeWhile (· == 0)).length)
      (places : List Nat) : let last := places.foldl (fun best i =>
        let run := ((ns.drop i).takeWhile (· == 0)).length
        if best.2 < run then (i, run) else best) best
      last.2 ≤ ((ns.drop last.1).takeWhile (· == 0)).length := by
    induction places generalizing best with
    | nil => exact hbest
    | cons i places ih =>
      refine ih _ ?_
      dsimp only
      split
      · exact Nat.le_refl _
      · exact hbest
  exact hstep (0, 0) (Nat.zero_le _) _

/-- An address is its longest run of zeros with what stands around it. -/
theorem split_longestRun (ns : List Nat) :
    ns = ns.take (longestRun ns).1 ++ (List.replicate (longestRun ns).2 0 ++
      ns.drop ((longestRun ns).1 + (longestRun ns).2)) := by
  have hzeros : (ns.drop (longestRun ns).1).take (longestRun ns).2 =
      List.replicate (longestRun ns).2 0 := by
    have hlength := longestRun_le ns
    generalize longestRun ns = best at hlength
    rw [← List.takeWhile_append_dropWhile (p := (· == 0)) (l := ns.drop best.1),
      List.take_append_of_le_length hlength]
    refine List.eq_replicate_iff.mpr ⟨List.length_take_of_le hlength, fun n hn => ?_⟩
    have hzero := List.mem_takeWhile_imp (List.mem_of_mem_take hn)
    simpa using hzero
  rw [← hzeros, ← List.drop_drop, List.take_append_drop, List.take_append_drop]

/-! ### Whole addresses -/

/-- A written address is read back. -/
theorem ipv6?_ipv6Chars (hlength : ns.length = 8) (h : ∀ n ∈ ns, n < Nat.pow 256 2) :
    ipv6? (ipv6Chars ns) = some ns := by
  have hfront : ∀ n ∈ ns.take (longestRun ns).1, n < Nat.pow 256 2 :=
    fun n hn => h n (List.mem_of_mem_take hn)
  have hback : ∀ n ∈ ns.drop ((longestRun ns).1 + (longestRun ns).2), n < Nat.pow 256 2 :=
    fun n hn => h n (List.mem_of_mem_drop hn)
  have hsplit := split_longestRun ns
  have hsum := congrArg List.length hsplit
  rcases hrun : longestRun ns with ⟨start, run⟩
  simp only [hrun] at hfront hback hsplit hsum
  simp only [ipv6Chars, hrun]
  split
  · -- All pieces are written.
    rw [ipv6?, (splitGap_piecesChars h).1]
    simp [somePieces?_piecesChars h, hlength]
  · next hlong =>
    -- The pieces of the run are the ones that are missing.
    have hmissing : 8 - (ns.take start).length - (ns.drop (start + run)).length = run := by
      simp only [List.length_append, List.length_replicate, hlength] at hsum
      omega
    have hfew : (ns.take start).length + (ns.drop (start + run)).length < 8 := by
      simp only [List.length_append, List.length_replicate, hlength] at hsum
      omega
    rw [ipv6?, (splitGap_piecesChars hfront).2]
    simp only [List.contains_iff_mem, point_notMem_piecesChars, somePieces?_piecesChars hfront,
      somePieces?_piecesChars hback, ↓reduceIte, bind, Option.bind]
    rw [if_pos hfew, hmissing, List.append_assoc, ← hsplit]

/-! ### Addresses that are read -/

/-- A part with at most four digits is a piece of two bytes. -/
theorem lt_of_numberIn? {n : Nat} {part : List Char} (hlength : part.length ≤ 4)
    (h : numberIn? 16 part = some n) : n < Nat.pow 256 2 :=
  Nat.lt_of_lt_of_le (numberIn?_lt h) (Nat.pow_le_pow_right (by decide) hlength)

/-- What is true of everything that is read of a part is true of everything that is read of
parts. -/
theorem forall_of_mapM {α β : Type} {f : α → Option β} {P : β → Prop}
    (hf : ∀ a b, f a = some b → P b) {as : List α} {bs : List β} (h : as.mapM f = some bs) :
    ∀ b ∈ bs, P b := by
  induction as generalizing bs with
  | nil =>
    obtain rfl : [] = bs := by simpa using h
    exact List.forall_mem_nil _
  | cons a as ih =>
    rw [List.mapM_cons] at h
    obtain ⟨b, hb, h⟩ := Option.bind_eq_some_iff.mp h
    obtain ⟨rest, hrest, h⟩ := Option.bind_eq_some_iff.mp h
    obtain rfl := Option.some.inj h
    exact List.forall_mem_cons.mpr ⟨hf a b hb, ih hrest⟩

/-- The four bytes at the end are two pieces. -/
theorem lt_of_embeddedIpv4? {cs : List Char} (h : embeddedIpv4? cs = some ns) :
    ∀ n ∈ ns, n < Nat.pow 256 2 := by
  unfold embeddedIpv4? at h
  dsimp only at h
  split at h
  · next a b c d hbytes =>
    obtain rfl := Option.some.inj h
    have hbyte := forall_of_mapM (P := (· ≤ 255)) (fun part n hn => by
      split at hn
      · next hpart => exact Option.some.inj hn ▸ hpart.2.2.2
      · cases hn) hbytes
    simp only [List.forall_mem_cons, List.not_mem_nil, false_imp_iff, implies_true, and_true]
      at hbyte ⊢
    have hlimit : Nat.pow 256 2 = 65536 := rfl
    omega
  · cases h

/-- Pieces that are read have two bytes each. -/
theorem lt_of_pieces? {parts : List (List Char)} (h : pieces? parts = some ns) :
    ∀ n ∈ ns, n < Nat.pow 256 2 := by
  induction parts generalizing ns with
  | nil =>
    obtain rfl := Option.some.inj h
    exact List.forall_mem_nil _
  | cons part parts ih =>
    -- The last part can also be an address of four bytes, which gives two pieces.
    cases parts with
    | nil =>
      rw [pieces?] at h
      split at h
      · exact lt_of_embeddedIpv4? h
      · split at h
        · cases h
        · next hshort =>
          obtain ⟨n, hn, rfl⟩ := Option.map_eq_some_iff.mp h
          obtain ⟨-, hlength⟩ := not_or.mp hshort
          exact List.forall_mem_singleton.mpr (lt_of_numberIn? (Nat.le_of_not_lt hlength) hn)
    | cons next parts =>
      rw [pieces?] at h
      · split at h
        · cases h
        · next hshort =>
          obtain ⟨n, hn, h⟩ := Option.bind_eq_some_iff.mp h
          obtain ⟨rest, hrest, h⟩ := Option.bind_eq_some_iff.mp h
          obtain rfl := Option.some.inj h
          obtain ⟨-, hlength⟩ := not_or.mp hshort
          exact List.forall_mem_cons.mpr
            ⟨lt_of_numberIn? (Nat.le_of_not_lt hlength) hn, ih hrest⟩
      · exact List.cons_ne_nil _ _

/-- An address that is read has eight pieces of two bytes. -/
theorem lt_of_ipv6? {cs : List Char} (h : ipv6? cs = some ns) :
    ns.length = 8 ∧ ∀ n ∈ ns, n < Nat.pow 256 2 := by
  have hsome {cs : List Char} {ns : List Nat} (h : somePieces? cs = some ns) :
      ∀ n ∈ ns, n < Nat.pow 256 2 := by
    rw [somePieces?] at h
    split at h
    · obtain rfl := Option.some.inj h
      exact List.forall_mem_nil _
    · exact lt_of_pieces? h
  rw [ipv6?] at h
  split at h
  · -- Without a gap all pieces were written.
    obtain ⟨ns', hread, h⟩ := Option.bind_eq_some_iff.mp h
    split at h
    · next hlength =>
      obtain rfl := Option.some.inj h
      exact ⟨hlength, hsome hread⟩
    · cases h
  · split at h
    · cases h
    · obtain ⟨front, hfront, h⟩ := Option.bind_eq_some_iff.mp h
      obtain ⟨back, hback, h⟩ := Option.bind_eq_some_iff.mp h
      split at h
      · next hfew =>
        -- The gap has as many zeros as there are pieces missing.
        obtain rfl := Option.some.inj h
        constructor
        · simp only [List.length_append, List.length_replicate]
          omega
        · intro n hn
          rcases List.mem_append.mp hn with hn | hn
          · rcases List.mem_append.mp hn with hn | hn
            · exact hsome hfront n hn
            · exact List.eq_of_mem_replicate hn ▸ Nat.two_pow_pos 16
          · exact hsome hback n hn
      · cases h

end NewsReader.Url
