import NewsReader.Text.Blank

/-!
# Collapsed text

A text is tidied by taking the blanks at its ends away and putting one space in place of each run of
blanks inside. `Tidied` says so without reference to how it is done: the text is blank, or it is one
word with blanks around it, or a word stands in front, with blanks between it and what is left.
Collapsing a text is the only way to tidy it.

* `collapse_eq_iff` — a text is collapsed to another exactly if that is what it is when tidied.
* `Tidied.visible_eq` — no character is lost but blanks.
* `Tidied.eq_of_isBlank` — the only blank in a tidied text is the space.
-/

namespace NewsReader.Text

variable {c : Char} {cs w rest lead gap short : List Char} {ws : List (List Char)}

/-- A word: characters that are not blank, and at least one. -/
structure IsWord (w : List Char) : Prop where
  /-- There is a character. -/
  ne_nil : w ≠ []
  /-- None is blank. -/
  not_isBlank : ∀ c ∈ w, isBlank c = false

/-- The second text is the first without the blanks at its ends and with one space for each run of
blanks inside. -/
inductive Tidied : List Char → List Char → Prop where
  /-- Nothing is left of a blank text. -/
  | blank {gap : List Char} (hgap : ∀ c ∈ gap, isBlank c) : Tidied gap []
  /-- A single word is left as it is. -/
  | word {lead w trail : List Char} (hlead : ∀ c ∈ lead, isBlank c) (hw : IsWord w)
    (htrail : ∀ c ∈ trail, isBlank c) :
      Tidied (lead ++ w ++ trail) w
  /-- Between the first word and those that follow there is a space. -/
  | more {lead w gap cs short : List Char} (hlead : ∀ c ∈ lead, isBlank c) (hw : IsWord w)
      (hgap : ∀ c ∈ gap, isBlank c) (hne : gap ≠ []) (hrest : Tidied cs short)
        (hshort : short ≠ []) :
      Tidied (lead ++ w ++ gap ++ cs) (w ++ ' ' :: short)

/-! ### The words of a text -/

/-- A blank in front is in none of the words. -/
theorem words_cons_of_isBlank (h : isBlank c) (cs : List Char) : words (c :: cs) = words cs := by
  cases cs with
  | nil => simp [words, h]
  | cons d cs => rw [words, if_pos h]

/-- Blanks in front are in none of the words. -/
theorem words_append_of_isBlank (h : ∀ c ∈ lead, isBlank c) (cs : List Char) :
    words (lead ++ cs) = words cs := by
  induction lead with
  | nil => rfl
  | cons c lead ih =>
    rw [List.cons_append, words_cons_of_isBlank (h c List.mem_cons_self)]
    exact ih fun d hd => h d (List.mem_cons_of_mem c hd)

/-- A word in front is the first of the words if it ends where a blank stands or where the text
ends. -/
theorem words_append_of_isWord (hw : IsWord w) (hrest : ∀ c ∈ rest.head?, isBlank c) :
    words (w ++ rest) = w :: words rest := by
  obtain ⟨hne, hvisible⟩ := hw
  induction w with
  | nil => exact absurd rfl hne
  | cons c w ih =>
    have hc : ¬isBlank c := by simp [hvisible c List.mem_cons_self]
    -- The last character of the word is the one that ends it; all others go on with it.
    cases w with
    | nil =>
      cases rest with
      | nil => simp only [List.append_nil, words, if_neg hc]
      | cons d rest =>
        rw [List.cons_append, List.nil_append, words, if_neg hc, if_pos (hrest d rfl)]
    | cons d w =>
      have hd : ¬isBlank d := by simp [hvisible d (List.mem_cons_of_mem c List.mem_cons_self)]
      have ih := ih (List.cons_ne_nil d w) fun x hx => hvisible x (List.mem_cons_of_mem c hx)
      rw [List.cons_append] at ih
      rw [List.cons_append, List.cons_append, words, if_neg hc, if_neg hd, ih]

/-- The first word, with blanks on both sides. -/
theorem words_of_blanks (hlead : ∀ c ∈ lead, isBlank c) (hw : IsWord w)
    (hgap : ∀ c ∈ gap, isBlank c) (hrest : gap = [] → rest = []) :
    words (lead ++ w ++ gap ++ rest) = w :: words rest := by
  have hhead : ∀ c ∈ (gap ++ rest).head?, isBlank c := by
    cases gap with
    | nil => simp [hrest rfl]
    | cons c gap =>
      rintro d ⟨⟩
      exact hgap c List.mem_cons_self
  rw [List.append_assoc, List.append_assoc, words_append_of_isBlank hlead,
    words_append_of_isWord hw hhead, words_append_of_isBlank hgap]

/-! ### Tidied text -/

/-- A text is tidied in one way only, by collapsing it. -/
theorem Tidied.collapse_eq (h : Tidied cs short) : collapse cs = short := by
  induction h with
  | @blank gap hgap =>
    have hwords := words_append_of_isBlank hgap []
    rw [List.append_nil] at hwords
    rw [collapse, hwords]
    rfl
  | @word lead w trail hlead hw htrail =>
    have hwords := words_of_blanks hlead hw htrail fun _ => (rfl : [] = [])
    rw [List.append_nil] at hwords
    rw [collapse, hwords]
    exact List.append_nil w
  | @more lead w gap cs short hlead hw hgap hne hrest hshort ih =>
    rw [collapse, words_of_blanks hlead hw hgap fun hnil => absurd hnil hne]
    -- What follows has a word, so there is a space before it.
    cases hwords : words cs with
    | nil =>
      rw [collapse, hwords] at ih
      exact absurd ih.symm hshort
    | cons v ws =>
      rw [collapse, hwords] at ih
      rw [List.intercalate_cons_cons, ih]
      simp only [List.append_assoc, List.cons_append, List.nil_append]

/-- A blank in front makes no difference. -/
theorem Tidied.cons_of_isBlank (h : Tidied cs short) (hc : isBlank c) : Tidied (c :: cs) short := by
  cases h with
  | blank hgap => exact .blank (List.forall_mem_cons.mpr ⟨hc, hgap⟩)
  | @word lead w trail hlead hw htrail =>
    rw [← List.cons_append, ← List.cons_append]
    exact .word (List.forall_mem_cons.mpr ⟨hc, hlead⟩) hw htrail
  | @more lead w gap cs short hlead hw hgap hne hrest hshort =>
    rw [← List.cons_append, ← List.cons_append, ← List.cons_append]
    exact .more (List.forall_mem_cons.mpr ⟨hc, hlead⟩) hw hgap hne hrest hshort

/-- A character in front that is not blank starts a word or goes on with one. -/
theorem Tidied.exists_cons (h : Tidied cs short) (hc : isBlank c = false) :
    ∃ long, Tidied (c :: cs) long := by
  have hword : IsWord [c] := ⟨List.cons_ne_nil c [], by simpa using hc⟩
  have hlonger {w : List Char} (hw : IsWord w) : IsWord (c :: w) :=
    ⟨List.cons_ne_nil c w, List.forall_mem_cons.mpr ⟨hc, hw.not_isBlank⟩⟩
  have hnone : ∀ d ∈ ([] : List Char), isBlank d := List.forall_mem_nil _
  cases h with
  | blank hgap => exact ⟨_, .word hnone hword hgap⟩
  | @word lead w trail hlead hw htrail =>
    -- Where no blank follows, the word that is there gets longer; else the character is a word of
    -- its own.
    cases lead with
    | nil => exact ⟨_, .word hnone (hlonger hw) htrail⟩
    | cons d lead =>
      rw [List.append_assoc]
      exact ⟨_, .more hnone hword hlead (List.cons_ne_nil d lead)
        (.word hnone hw htrail) hw.ne_nil⟩
  | @more lead w gap cs short hlead hw hgap hne hrest hshort =>
    cases lead with
    | nil => exact ⟨_, .more hnone (hlonger hw) hgap hne hrest hshort⟩
    | cons d lead =>
      rw [List.append_assoc, List.append_assoc, ← List.append_assoc w]
      exact ⟨_, .more hnone hword hlead (List.cons_ne_nil d lead)
        (.more hnone hw hgap hne hrest hshort) (by simp)⟩

/-- Every text can be tidied. -/
theorem exists_tidied (cs : List Char) : ∃ short, Tidied cs short := by
  induction cs with
  | nil => exact ⟨[], .blank (List.forall_mem_nil _)⟩
  | cons c cs ih =>
    obtain ⟨short, hshort⟩ := ih
    cases hc : isBlank c with
    | true => exact ⟨short, hshort.cons_of_isBlank hc⟩
    | false => exact hshort.exists_cons hc

/-- A text is collapsed to another exactly if that is what it is when tidied. -/
theorem collapse_eq_iff : collapse cs = short ↔ Tidied cs short := by
  refine ⟨?_, Tidied.collapse_eq⟩
  rintro rfl
  -- There is some way to tidy the text, and collapsing comes to the same.
  obtain ⟨short, hshort⟩ := exists_tidied cs
  rwa [hshort.collapse_eq]

/-! ### What is left of a text -/

/-- The characters that are not blank, in order. -/
def visible (cs : List Char) : List Char :=
  cs.filter fun c => !isBlank c

/-- The visible characters of two texts, one after the other. -/
theorem visible_append (cs ds : List Char) : visible (cs ++ ds) = visible cs ++ visible ds :=
  List.filter_append cs ds

/-- A blank text has no visible character. -/
theorem visible_eq_nil_iff : visible cs = [] ↔ ∀ c ∈ cs, isBlank c := by
  simp [visible, List.filter_eq_nil_iff]

/-- Tidying keeps the visible characters. -/
theorem Tidied.visible_eq (h : Tidied cs short) : visible short = visible cs := by
  induction h with
  | blank hgap => exact (visible_eq_nil_iff.mpr hgap).symm
  | @word lead w trail hlead hw htrail =>
    rw [visible_append, visible_append, visible_eq_nil_iff.mpr hlead, visible_eq_nil_iff.mpr htrail,
      List.nil_append, List.append_nil]
  | @more lead w gap cs short hlead hw hgap hne hrest hshort ih =>
    have hspace : visible (' ' :: short) = visible short := List.filter_cons_of_neg (by decide)
    simp only [visible_append, visible_eq_nil_iff.mpr hlead,
      visible_eq_nil_iff.mpr hgap, hspace, ih, List.nil_append, List.append_nil]

/-- The only blank in a tidied text is the space. -/
theorem Tidied.eq_of_isBlank (h : Tidied cs short) (hmem : c ∈ short) (hc : isBlank c) :
    c = ' ' := by
  have hnot {w : List Char} (hw : IsWord w) : c ∉ w := fun hcw => by
    rw [hw.not_isBlank c hcw] at hc
    exact Bool.false_ne_true hc
  induction h with
  | blank hgap => cases hmem
  | word hlead hw htrail => exact absurd hmem (hnot hw)
  | more hlead hw hgap hne hrest hshort ih =>
    rcases List.mem_append.mp hmem with hword | hmem
    · exact absurd hword (hnot hw)
    · rcases List.mem_cons.mp hmem with hspace | hmem
      · exact hspace
      · exact ih hmem

end NewsReader.Text
