import NewsReader.Text.Excerpt

/-!
# Excerpts

An excerpt is as long as the text if the text fits, and as long as is allowed if not. It has the
characters of the text and points. A shorter excerpt can be made from a longer one: if it has points
of its own, they stand before those of the longer one.

* `length_excerpt` — how long an excerpt is.
* `excerptChars_excerptChars_iff` — exactly for which bounds an excerpt of an excerpt is one of
  the text.
* `excerpt_is_exact` — all of it together.
-/

namespace NewsReader.Text

variable {m n : Nat} {c : Char} {cs : List Char} {s : String}

/-! ### The three kinds of excerpts -/

/-- A text that fits is shown whole. -/
theorem excerptChars_of_le (h : cs.length ≤ n) : excerptChars n cs = cs :=
  if_pos h

/-- There is no room for points in a short excerpt. -/
theorem excerptChars_of_le_three (h : n ≤ 3) (cs : List Char) :
    excerptChars n cs = cs.take n := by
  unfold excerptChars
  split
  · next hfits => exact (List.take_of_length_le hfits).symm
  · rfl

/-- A text that does not fit ends in points where there is room for them. -/
theorem excerptChars_of_lt (h : n < cs.length) (hroom : 3 < n) :
    excerptChars n cs = cs.take (n - 3) ++ ellipsis := by
  rw [excerptChars, if_neg (Nat.not_le.mpr h), if_neg (Nat.not_le.mpr hroom)]

/-! ### Length and characters -/

/-- An excerpt has as many characters as the text has and as it may have. -/
theorem length_excerptChars (n : Nat) (cs : List Char) :
    (excerptChars n cs).length = min cs.length n := by
  rcases Nat.lt_or_ge n cs.length with hcut | hfits
  · rcases Nat.lt_or_ge 3 n with hroom | hshort
    · rw [excerptChars_of_lt hcut hroom, List.length_append, List.length_take]
      simp only [ellipsis, List.length_cons, List.length_nil]
      omega
    · rw [excerptChars_of_le_three hshort, List.length_take, Nat.min_comm]
  · rw [excerptChars_of_le hfits, Nat.min_eq_left hfits]

/-- An excerpt has no characters but those of the text and points. -/
theorem mem_or_eq_of_mem_excerptChars (h : c ∈ excerptChars n cs) : c ∈ cs ∨ c = '.' := by
  rcases Nat.lt_or_ge n cs.length with hcut | hfits
  · rcases Nat.lt_or_ge 3 n with hroom | hshort
    · rw [excerptChars_of_lt hcut hroom] at h
      rcases List.mem_append.mp h with hfront | hpoint
      · exact .inl (List.mem_of_mem_take hfront)
      · exact .inr (by simpa [ellipsis] using hpoint)
    · rw [excerptChars_of_le_three hshort] at h
      exact .inl (List.mem_of_mem_take h)
  · rw [excerptChars_of_le hfits] at h
    exact .inl h

/-- An excerpt is as long as the text and as it may be. -/
theorem length_excerpt (n : Nat) (s : String) : (excerpt n s).length = min s.length n := by
  rw [excerpt, String.length_ofList, length_excerptChars, String.length_toList]

/-- Nothing is cut exactly if the text fits. -/
theorem excerptChars_eq_self_iff : excerptChars n cs = cs ↔ cs.length ≤ n := by
  refine ⟨fun h => ?_, excerptChars_of_le⟩
  have hlength := length_excerptChars n cs
  rw [h] at hlength
  exact hlength ▸ Nat.min_le_right _ _

/-! ### Excerpts of excerpts -/

/-- The start of an excerpt is that of the text, up to the points. -/
theorem take_excerptChars (h : m + 3 ≤ n) (cs : List Char) :
    (excerptChars n cs).take m = cs.take m := by
  rcases Nat.lt_or_ge n cs.length with hcut | hfits
  · by_cases hroom : 3 < n
    · have hfront : m ≤ (cs.take (n - 3)).length := by
        rw [List.length_take]
        omega
      rw [excerptChars_of_lt hcut hroom, List.take_append_of_le_length hfront, List.take_take,
        Nat.min_eq_left (by omega)]
    · -- Nothing is left of the text then.
      have hnone : m = 0 := by omega
      rw [hnone, List.take_zero, List.take_zero]
  · rw [excerptChars_of_le hfits]

/-- A second excerpt that is no shorter changes nothing. -/
theorem excerptChars_excerptChars_of_ge (h : n ≤ m) (cs : List Char) :
    excerptChars m (excerptChars n cs) = excerptChars n cs := by
  refine excerptChars_of_le ?_
  rw [length_excerptChars]
  omega

/-- A shorter excerpt with room for points is the same from an excerpt as from the text. -/
theorem excerptChars_excerptChars_of_lt (hroom : 3 < m) (h : m < n) (cs : List Char) :
    excerptChars m (excerptChars n cs) = excerptChars m cs := by
  rcases Nat.lt_or_ge n cs.length with hcut | hfits
  · -- The excerpt is longer than the second bound too, and what the second one keeps stands before
    -- the points.
    have hagain : m < (excerptChars n cs).length := by
      rw [length_excerptChars]
      omega
    rw [excerptChars_of_lt hagain hroom, excerptChars_of_lt (by omega) hroom,
      take_excerptChars (by omega)]
  · rw [excerptChars_of_le hfits]

/-- Behind the start of the text an excerpt goes on with points. -/
theorem getElem?_excerptChars (h : n < cs.length) (hroom : 3 < n) :
    (excerptChars n cs)[n - 3]? = some '.' := by
  have hfront : (cs.take (n - 3)).length = n - 3 := by
    rw [List.length_take]
    omega
  rw [excerptChars_of_lt h hroom, List.getElem?_append_right (Nat.le_of_eq hfront),
    hfront, Nat.sub_self]
  rfl

/-- Exactly for which bounds the second of two excerpts is the same from the first one as from the
text: there is room for its own points, or none for those of the first one, or it ends before
those. -/
theorem excerptChars_excerptChars_iff (h : m ≤ n) :
    (∀ cs, excerptChars m (excerptChars n cs) = excerptChars m cs) ↔
      3 < m ∨ n ≤ 3 ∨ m + 3 ≤ n := by
  constructor
  · intro hsame
    refine Decidable.byContradiction fun hcond => ?_
    obtain ⟨hm, hn, hmn⟩ : m ≤ 3 ∧ 3 < n ∧ n - 3 < m := by omega
    -- Of a text of letters the first excerpt has a point where the text has a letter.
    have hlong : n < (List.replicate (n + 1) 'a').length := by
      rw [List.length_replicate]
      exact Nat.lt_succ_self n
    have hletter : (List.replicate (n + 1) 'a')[n - 3]? = some 'a' :=
      List.getElem?_replicate_of_lt (by omega)
    have hat := congrArg (·[n - 3]?) (hsame (List.replicate (n + 1) 'a'))
    simp only [excerptChars_of_le_three hm, List.getElem?_take_of_lt hmn, hletter,
      getElem?_excerptChars hlong hn] at hat
    exact absurd (Option.some.inj hat) (by decide)
  · rintro (hroom | hshort | hbefore) cs
    · rcases Nat.lt_or_eq_of_le h with hlt | rfl
      · exact excerptChars_excerptChars_of_lt hroom hlt cs
      · exact excerptChars_excerptChars_of_ge (Nat.le_refl m) cs
    · rw [excerptChars_of_le_three (Nat.le_trans h hshort),
        excerptChars_of_le_three (Nat.le_trans h hshort),
        excerptChars_of_le_three hshort, List.take_take, Nat.min_eq_left h]
    · rcases Nat.lt_or_ge 3 m with hroom | hshort
      · exact excerptChars_excerptChars_of_lt hroom (by omega) cs
      · rw [excerptChars_of_le_three hshort, excerptChars_of_le_three hshort,
          take_excerptChars hbefore]

/-! ### Excerpts of strings -/

/-- An excerpt is the text exactly if the text fits. -/
theorem excerpt_eq_self_iff : excerpt n s = s ↔ s.length ≤ n := by
  rw [← String.toList_inj, excerpt, String.toList_ofList, excerptChars_eq_self_iff,
    String.length_toList]

/-- An excerpt of an excerpt, as characters. -/
theorem toList_excerpt_excerpt (m n : Nat) (s : String) :
    (excerpt m (excerpt n s)).toList = excerptChars m (excerptChars n s.toList) := by
  rw [excerpt, excerpt, String.toList_ofList, String.toList_ofList]

/-- A text that does not fit is cut three characters before the bound, to have room for the
points. -/
theorem exists_append_points (h : n < s.length) (hroom : 3 < n) :
    ∃ front rest, s = front ++ rest ∧ front.length = n - 3 ∧
      excerpt n s = front ++ "..." := by
  refine ⟨String.ofList (s.toList.take (n - 3)),
    String.ofList (s.toList.drop (n - 3)), ?_, ?_, ?_⟩
  · rw [← String.ofList_append, List.take_append_drop, String.ofList_toList]
  · rw [String.length_ofList, List.length_take, String.length_toList]
    omega
  · rw [excerpt, excerptChars_of_lt (by rwa [String.length_toList]) hroom, String.ofList_append]
    rfl

/-- Where there are no points an excerpt is the start of the text. -/
theorem exists_append_of_no_points (h : s.length ≤ n ∨ n ≤ 3) :
    ∃ rest, s = excerpt n s ++ rest := by
  refine ⟨String.ofList (s.toList.drop n), ?_⟩
  have htake : excerptChars n s.toList = s.toList.take n := by
    rcases h with hfits | hshort
    · have hfits : s.toList.length ≤ n := by rwa [String.length_toList]
      rw [excerptChars_of_le hfits, List.take_of_length_le hfits]
    · exact excerptChars_of_le_three hshort _
  rw [excerpt, htake, ← String.ofList_append, List.take_append_drop, String.ofList_toList]

/-- What an excerpt is, for every text and every bound. It is as long as the text and the bound
allow, and it is the text exactly if the text fits. If it does not fit and there is room for points,
it is the start of the text up to three characters before the bound, with three points behind;
without points it is just the start of the text. Excerpts compose: a shorter excerpt with room for
points can be made from a longer one, and one more excerpt of the same length changes nothing. -/
theorem excerpt_is_exact (n : Nat) (s : String) :
    (excerpt n s).length = min s.length n ∧
    (excerpt n s = s ↔ s.length ≤ n) ∧
    (n < s.length → 3 < n → ∃ front rest,
      s = front ++ rest ∧ front.length = n - 3 ∧ excerpt n s = front ++ "...") ∧
    (s.length ≤ n ∨ n ≤ 3 → ∃ rest, s = excerpt n s ++ rest) ∧
    (∀ m, 3 < m → m ≤ n → excerpt m (excerpt n s) = excerpt m s) ∧
    excerpt n (excerpt n s) = excerpt n s := by
  refine ⟨length_excerpt n s, excerpt_eq_self_iff, exists_append_points,
    exists_append_of_no_points, ?_, ?_⟩
  · intro m hroom h
    have hsame := (excerptChars_excerptChars_iff h).mpr (.inl hroom) s.toList
    rw [← String.toList_inj, toList_excerpt_excerpt, hsame, excerpt, String.toList_ofList]
  · rw [excerpt_eq_self_iff, length_excerpt]
    exact Nat.min_le_right _ _

/-- A greeting with an accent is cut before the points by characters; an excerpt of four of its
excerpt of seven is one of the greeting; and there are no points in two characters. -/
theorem excerpt_is_exact_of_greeting :
    (7 < "héllo wörld".length ∧ 3 < 7 ∧
      ∃ front rest, "héllo wörld" = front ++ rest ∧ front.length = 4 ∧
        excerpt 7 "héllo wörld" = front ++ "...") ∧
    (2 ≤ 3 ∧ ∃ rest, "héllo wörld" = excerpt 2 "héllo wörld" ++ rest) ∧
    (3 < 4 ∧ 4 ≤ 7 ∧ excerpt 4 (excerpt 7 "héllo wörld") = excerpt 4 "héllo wörld") := by
  have hlong : 7 < "héllo wörld".length := by decide
  obtain ⟨-, -, hpoints, -, hcompose, -⟩ := excerpt_is_exact 7 "héllo wörld"
  obtain ⟨-, -, -, hstart, -, -⟩ := excerpt_is_exact 2 "héllo wörld"
  exact ⟨⟨hlong, by decide, hpoints hlong (by decide)⟩,
    ⟨by decide, hstart (.inr (by decide))⟩,
    by decide, by decide, hcompose 4 (by decide) (by decide)⟩

end NewsReader.Text
