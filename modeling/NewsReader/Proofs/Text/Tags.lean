import NewsReader.Text.Markup

/-!
# Tags in a title

The scan for tags knows of the text before it only whether it is inside of a tag. So a title can be
scanned piece by piece: what has no `<` in it stands as it is, a tag is one space, and behind a text
in which each tag is closed the scan starts anew.

* `dropTags_append_of_notMem`, `dropTags_tag` — text and tags.
* `dropTags_append_of_isClosed` — a text in which each tag is closed, and what follows it.
* `dropTags_open` — a tag that is not closed.
-/

namespace NewsReader.Text

variable {c : Char} {cs body : List Char} {inTag : Bool}

/-- Outside of a tag, what has no `<` in it is left. -/
theorem dropTags_append_of_notMem (h : '<' ∉ cs) (rest : List Char) :
    dropTags false (cs ++ rest) = cs ++ dropTags false rest := by
  induction cs with
  | nil => rfl
  | cons c cs ih =>
    obtain ⟨hc, hcs⟩ := List.ne_and_not_mem_of_not_mem_cons h
    rw [List.cons_append, dropTags, if_neg (Ne.symm hc), if_neg Bool.false_ne_true, ih hcs,
      List.cons_append]

/-- Without a `<` there is nothing to drop. -/
theorem dropTags_of_notMem (h : '<' ∉ cs) : dropTags false cs = cs := by
  have hrest := dropTags_append_of_notMem h []
  rwa [List.append_nil, dropTags, List.append_nil] at hrest

/-- Inside a tag, what has no `>` in it is dropped. -/
theorem dropTags_true_append (h : '>' ∉ body) (rest : List Char) :
    dropTags true (body ++ rest) = dropTags true rest := by
  induction body with
  | nil => rfl
  | cons c body ih =>
    obtain ⟨hc, hbody⟩ := List.ne_and_not_mem_of_not_mem_cons h
    rw [List.cons_append, dropTags]
    split
    · exact ih hbody
    · rw [if_pos rfl, if_neg (Ne.symm hc), ih hbody]

/-- A tag gives way to a space. -/
theorem dropTags_tag (h : '>' ∉ body) (rest : List Char) :
    dropTags false ('<' :: (body ++ '>' :: rest)) = ' ' :: dropTags false rest := by
  rw [dropTags, if_pos rfl, dropTags_true_append h, dropTags, if_neg (by decide),
    if_pos rfl, if_pos rfl]

/-- A tag that is not closed goes to the end of the text. -/
theorem dropTags_open (h : '>' ∉ body) : dropTags false ('<' :: body) = [] := by
  have hrest := dropTags_true_append h []
  rw [List.append_nil] at hrest
  rw [dropTags, if_pos rfl, hrest]
  rfl

/-- A `>` follows each `<`. -/
def IsClosed (cs : List Char) : Prop :=
  ∀ front rest, cs = front ++ '<' :: rest → '>' ∈ rest

/-- A text is closed if its rest is, and a `>` follows if it starts with a `<`. -/
theorem isClosed_cons_iff : IsClosed (c :: cs) ↔ (c = '<' → '>' ∈ cs) ∧ IsClosed cs := by
  constructor
  · intro h
    refine ⟨?_, fun front rest hcs => h (c :: front) rest (by rw [hcs, List.cons_append])⟩
    rintro rfl
    exact h [] cs rfl
  · rintro ⟨hfirst, hrest⟩ front rest hcs
    cases front with
    | nil =>
      obtain ⟨rfl, rfl⟩ := List.cons.inj hcs
      exact hfirst rfl
    | cons d front => exact hrest front rest (List.cons.inj hcs).2

/-- The empty text is closed. -/
theorem isClosed_nil : IsClosed [] :=
  fun _ _ hnil => absurd hnil (by simp)

instance decidableIsClosed : (cs : List Char) → Decidable (IsClosed cs)
  | [] => isTrue isClosed_nil
  | _ :: cs =>
    have := decidableIsClosed cs
    decidable_of_iff _ isClosed_cons_iff.symm

/-- Tags are dropped in one text and then in the other where the first is closed, and so is the tag
it may start in. -/
theorem dropTags_append_of_isClosed (h : IsClosed cs) (hstart : inTag = true → '>' ∈ cs)
    (rest : List Char) :
    dropTags inTag (cs ++ rest) = dropTags inTag cs ++ dropTags false rest := by
  induction cs generalizing inTag with
  | nil =>
    cases inTag with
    | false => rfl
    | true => cases hstart rfl
  | cons c cs ih =>
    obtain ⟨hfirst, hclosed⟩ := isClosed_cons_iff.mp h
    rw [List.cons_append, dropTags, dropTags]
    split
    · next heq => exact ih hclosed fun _ => hfirst heq
    · cases inTag with
      | false => simp [ih hclosed]
      | true =>
        -- The tag ends here, or the `>` that ends it is still to come.
        simp only [↓reduceIte]
        split
        · rw [ih hclosed (by simp), List.cons_append]
        · next hne => exact ih hclosed fun _ =>
            (List.mem_cons.mp (hstart rfl)).resolve_left (Ne.symm hne)

end NewsReader.Text
