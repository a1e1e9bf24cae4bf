import NewsReader.Text.Blank

/-!
# Trimming

Trimming takes the blanks at both ends of a text away, and nothing else.

* `exists_of_trimChars` — what is taken away is blank.
* `head?_trimChars`, `getLast?_trimChars` — what is left neither starts nor ends with a blank.
* `trimChars_append`, `trimChars_of_ends` — what neither starts nor ends with a blank is left,
  whatever blanks are around it.
* `trimChars_blanks` — more blanks around a text make no difference.
-/

namespace NewsReader.Text

variable {lead mid trail cs : List Char}

/-- A text is what is left by trimming, with blanks around it. -/
theorem exists_of_trimChars (cs : List Char) :
    ∃ lead trail, cs = lead ++ trimChars cs ++ trail ∧ ∀ c ∈ lead ++ trail, isBlank c := by
  have hback := (cs.dropWhile isBlank).reverse.takeWhile_append_dropWhile (p := isBlank)
  have hfront := cs.takeWhile_append_dropWhile (p := isBlank)
  refine ⟨cs.takeWhile isBlank,
    ((cs.dropWhile isBlank).reverse.takeWhile isBlank).reverse, ?_, ?_⟩
  · -- The end is dropped from the reversed text, so its parts are put together in reverse.
    have hrest : trimChars cs ++ ((cs.dropWhile isBlank).reverse.takeWhile isBlank).reverse =
        cs.dropWhile isBlank := by
      rw [trimChars, trimEnd, ← List.reverse_append, hback, List.reverse_reverse]
    rw [List.append_assoc, hrest, hfront]
  · intro c hc
    rcases List.mem_append.mp hc with hc | hc
    · exact List.all_eq_true.mp List.all_takeWhile c hc
    · exact List.all_eq_true.mp List.all_takeWhile c (List.mem_reverse.mp hc)

/-- What neither starts nor ends with a blank is what is left by trimming, whatever blanks are
around it. -/
theorem trimChars_append (hblank : ∀ c ∈ lead ++ trail, isBlank c)
    (hfirst : ∀ c ∈ mid.head?, ¬isBlank c) (hlast : ∀ c ∈ mid.getLast?, ¬isBlank c) :
    trimChars (lead ++ mid ++ trail) = mid := by
  obtain ⟨hlead, htrail⟩ := List.forall_mem_append.mp hblank
  -- Nothing is a case of its own: then both ends are one run of blanks.
  rcases List.eq_nil_or_concat mid with rfl | ⟨front, last, hmid⟩
  · have hnil : (lead ++ [] ++ trail).dropWhile isBlank = [] := by
      have hdrop : (lead ++ trail ++ []).dropWhile isBlank = List.dropWhile isBlank [] :=
        List.dropWhile_append_of_pos hblank
      rwa [List.append_nil, List.dropWhile_nil, ← List.append_nil lead] at hdrop
    rw [trimChars, hnil]
    rfl
  · rw [List.concat_eq_append] at hmid
    subst hmid
    have hfront : (lead ++ (front ++ [last]) ++ trail).dropWhile isBlank =
        front ++ [last] ++ trail := by
      rw [List.append_assoc, List.dropWhile_append_of_pos hlead]
      cases front with
      | nil => exact List.dropWhile_cons_of_neg (hfirst last rfl)
      | cons c front => exact List.dropWhile_cons_of_neg (hfirst c rfl)
    have hback : (front ++ [last] ++ trail).reverse.dropWhile isBlank =
        (front ++ [last]).reverse := by
      rw [List.reverse_append,
        List.dropWhile_append_of_pos fun c hc => htrail c (List.mem_reverse.mp hc),
          List.reverse_append]
      exact List.dropWhile_cons_of_neg (hlast last (by simp))
    rw [trimChars, hfront, trimEnd, hback, List.reverse_reverse]

/-- What neither starts nor ends with a blank is left as it is. -/
theorem trimChars_of_ends (hfirst : ∀ c ∈ mid.head?, ¬isBlank c)
    (hlast : ∀ c ∈ mid.getLast?, ¬isBlank c) : trimChars mid = mid := by
  have hnone : ∀ c ∈ ([] ++ [] : List Char), isBlank c := List.forall_mem_nil _
  have htrim := trimChars_append hnone hfirst hlast
  rwa [List.nil_append, List.append_nil] at htrim

/-- Where the blanks at the front end, there is none. -/
theorem not_isBlank_of_dropWhile {c : Char} (h : c ∈ (cs.dropWhile isBlank).head?) :
    ¬isBlank c := by
  have hnot := List.head?_dropWhile_not isBlank cs
  rw [Option.mem_def.mp h] at hnot
  exact Bool.not_eq_true _ ▸ hnot

/-- What is left by trimming does not end with a blank. -/
theorem getLast?_trimChars (cs : List Char) : ∀ c ∈ (trimChars cs).getLast?, ¬isBlank c := by
  intro c hc
  rw [trimChars, trimEnd, List.getLast?_reverse] at hc
  exact not_isBlank_of_dropWhile hc

/-- What is left by trimming does not start with a blank. -/
theorem head?_trimChars (cs : List Char) : ∀ c ∈ (trimChars cs).head?, ¬isBlank c := by
  intro c hc
  -- Dropping the end leaves a front of what was there.
  have hfront : trimChars cs <+: cs.dropWhile isBlank :=
    List.reverse_suffix.mp
      (by rw [trimChars, trimEnd, List.reverse_reverse]; exact List.dropWhile_suffix _)
  obtain ⟨rest, hrest⟩ := hfront
  refine not_isBlank_of_dropWhile (?_ : c ∈ (cs.dropWhile isBlank).head?)
  rw [← hrest, List.head?_append, Option.mem_def.mp hc]
  rfl

/-- Blanks around a text make no difference to what is left by trimming. -/
theorem trimChars_blanks (hblank : ∀ c ∈ lead ++ trail, isBlank c) (cs : List Char) :
    trimChars (lead ++ cs ++ trail) = trimChars cs := by
  obtain ⟨front, back, hcs, hmore⟩ := exists_of_trimChars cs
  have hall : ∀ c ∈ (lead ++ front) ++ (back ++ trail), isBlank c := by
    simp only [List.forall_mem_append] at hblank hmore ⊢
    exact ⟨⟨hblank.1, hmore.1⟩, hmore.2, hblank.2⟩
  calc trimChars (lead ++ cs ++ trail)
      = trimChars (lead ++ (front ++ trimChars cs ++ back) ++ trail) := by rw [← hcs]
    _ = trimChars ((lead ++ front) ++ trimChars cs ++ (back ++ trail)) := by
      simp only [List.append_assoc]
    _ = trimChars cs := trimChars_append hall (head?_trimChars cs) (getLast?_trimChars cs)

/-- A blank is no letter, so it has no case. -/
theorem toLower_of_isBlank {c : Char} (h : isBlank c) : c.toLower = c := by
  have hcapital : ¬('A' ≤ c ∧ c ≤ 'Z') := by
    rintro ⟨hlo, hhi⟩
    have hlo' : 0x41 ≤ c.toNat := hlo
    have hhi' : c.toNat ≤ 0x5A := hhi
    simp [isBlank] at h
    omega
  exact dif_neg hcapital

end NewsReader.Text
