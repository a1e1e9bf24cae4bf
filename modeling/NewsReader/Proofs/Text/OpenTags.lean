import NewsReader.Proofs.Text.Entities
import NewsReader.Proofs.Text.Tags
import NewsReader.Proofs.Text.Words

/-!
# Tags that are not closed

The scan for tags takes everything behind an open `<` for a part of a tag. If no `>` follows, that
is the whole rest of the title, and with it everything that is to be seen there.

* `writeOutOnce_append_cons` — a sign that is in no name divides what is written out.
* `plain_of_open` — the rest of a title from a `<` on that is not closed is lost.
* `plain_keeps_rest_iff` — exactly in which titles nothing is lost.
-/

namespace NewsReader.Text

open Entity

variable {x : Char} {cs ds rest : List Char} {es : List Entity}

/-- A written form in front of a text with a sign that is not in it stands in front of that sign. -/
theorem Entity.exists_of_append_cons_eq {e : Entity} (hx : x ∉ e.chars)
    (h : cs ++ x :: ds = e.chars ++ rest) : ∃ more, cs = e.chars ++ more := by
  rcases List.append_eq_append_iff.mp h with ⟨more, hchars, hmore⟩ | ⟨more, hcs, -⟩
  · cases more with
    | nil => exact ⟨[], by rw [hchars, List.append_nil, List.append_nil]⟩
    | cons y more =>
      obtain ⟨rfl, -⟩ := List.cons.inj hmore
      exact absurd (by simp [hchars]) hx
  · exact ⟨more, hcs⟩

/-- A sign that is in no written form divides what is written out. -/
theorem writeOutOnce_append_cons (hnamed : ∀ e ∈ es, e.IsNamed)
    (hx : ∀ e ∈ es, x ∉ e.chars) (cs ds : List Char) :
    writeOutOnce es (cs ++ x :: ds) = writeOutOnce es cs ++ x :: writeOutOnce es ds := by
  fun_induction writeOutOnce es cs with
  | case1 =>
    have hfront : front? es (x :: ds) = none :=
      front?_eq_none_iff.mpr fun e he rest heq =>
        hx e he ((List.cons.inj heq).1 ▸ List.mem_cons_self)
    rw [List.nil_append, writeOutOnce_of_none hfront, List.nil_append]
  | case2 c cs p hfront ih =>
    obtain ⟨e, he, hcs, hlonger⟩ := exists_front?_append hnamed hfront
    rw [hcs, List.append_assoc, writeOutOnce_of_some (hlonger _), ih, List.cons_append]
  | case3 c cs hfront ih =>
    -- A written form that stands in front of all of it does not go beyond the sign.
    have hlonger : front? es (c :: cs ++ x :: ds) = none := by
      refine front?_eq_none_iff.mpr fun e he rest heq => ?_
      obtain ⟨more, hmore⟩ := exists_of_append_cons_eq (hx e he) heq
      exact front?_eq_none_iff.mp hfront e he more hmore
    rw [List.cons_append] at hlonger ⊢
    rw [writeOutOnce_of_none hlonger, ih, List.cons_append]

/-- No named character of titles has a `<` in its written form. -/
theorem Entity.notMem_chars {e : Entity} (h : e ∈ all) : '<' ∉ e.chars := by
  have hall : all.all fun e => !e.chars.contains '<' := by decide
  simpa using List.all_eq_true.mp hall e h

/-- A `<` divides a text. -/
theorem writeOutOnce_append_open (cs ds : List Char) :
    writeOutOnce Entity.all (cs ++ '<' :: ds) =
      writeOutOnce Entity.all cs ++ '<' :: writeOutOnce Entity.all ds :=
  writeOutOnce_append_cons areOrdered_all.isNamed (fun _ => notMem_chars) cs ds

/-- The plain text of a title is tidied from what its tags leave. -/
theorem tidied_plain (s : String) :
    Tidied (writeOutOnce Entity.all (dropTags false s.toList)) (plain s).toList := by
  rw [← collapse_eq_iff, ← writeOutEntities_eq, plain, String.toList_ofList, plainChars]

/-- The rest of a title is lost from a tag on that is not closed. -/
theorem plain_of_open {a c : String} (ha : IsClosed a.toList) (hc : '>' ∉ c.toList) :
    plain (a ++ "<" ++ c) = plain a := by
  have htext : (a ++ "<" ++ c).toList = a.toList ++ '<' :: c.toList := by simp
  rw [plain, plain, plainChars, plainChars, htext, dropTags_append_of_isClosed ha (by simp),
    dropTags_open hc, List.append_nil]

/-- A text that goes on is a part of its front exactly if it does not go on. -/
theorem append_sublist_left_iff : (cs ++ ds).Sublist cs ↔ ds = [] := by
  constructor
  · intro h
    have hsame : cs ++ ds = cs :=
      h.eq_of_length_le (by rw [List.length_append]; exact Nat.le_add_right _ _)
    exact List.append_right_eq_self.mp hsame
  · rintro rfl
    simp

/-- What is lost of a title. If there is no `>` in it, it is read as it is, with its named
characters written out once and tidied, exactly if there is no `<` in it either. If something
without a `>` stands behind a `<`, and before that each tag is closed, then the plain text is that
of the part before; so what stands there is kept exactly if nothing of it is visible. -/
theorem plain_keeps_rest_iff (s : String) :
    ('>' ∉ s.toList →
      (Tidied (writeOutOnce Entity.all s.toList) (plain s).toList ↔ '<' ∉ s.toList)) ∧
    ∀ a c : String, s = a ++ "<" ++ c → IsClosed a.toList → '>' ∉ c.toList →
      plain s = plain a ∧
        ((visible (plain a).toList ++ visible (writeOutOnce Entity.all c.toList)).Sublist
          (visible (plain s).toList) ↔
          ∀ x ∈ writeOutOnce Entity.all c.toList, isBlank x) := by
  refine ⟨fun hclose => ⟨fun htidied hopen => ?_, fun hopen => ?_⟩, ?_⟩
  · -- The sign itself would be visible, but it is gone with the rest.
    obtain ⟨front, rest, hs, hfront⟩ := List.eq_append_cons_of_mem hopen
    have hrest : '>' ∉ rest := fun hmem => hclose (by rw [hs]; simp [hmem])
    have hdrop : dropTags false s.toList = front := by
      rw [hs, dropTags_append_of_notMem hfront, dropTags_open hrest, List.append_nil]
    have hplain := (tidied_plain s).visible_eq
    rw [htidied.visible_eq, hdrop, hs, writeOutOnce_append_open, visible_append] at hplain
    have hsign : visible ('<' :: writeOutOnce Entity.all rest) = [] :=
      List.append_right_eq_self.mp hplain
    exact absurd (visible_eq_nil_iff.mp hsign '<' List.mem_cons_self) (by decide)
  · have hplain := tidied_plain s
    rwa [dropTags_of_notMem hopen] at hplain
  · rintro a c rfl ha hc
    have hlost := plain_of_open ha hc
    exact ⟨hlost, by rw [hlost, append_sublist_left_iff, visible_eq_nil_iff]⟩

/-- A comparison is read as it is with its sign by name. With the sign as it is, behind a tag, what
stands behind the sign is lost. -/
theorem plain_keeps_rest_iff_of_comparison :
    ('>' ∉ "1 &lt; 2".toList ∧
      Tidied (writeOutOnce Entity.all "1 &lt; 2".toList) (plain "1 &lt; 2").toList) ∧
    "<b>Go</b> 1< 2" = "<b>Go</b> 1" ++ "<" ++ " 2" ∧ IsClosed "<b>Go</b> 1".toList ∧
    '>' ∉ " 2".toList ∧
      plain "<b>Go</b> 1< 2" = plain "<b>Go</b> 1" ∧
      ¬(visible (plain "<b>Go</b> 1").toList ++
        visible (writeOutOnce Entity.all " 2".toList)).Sublist
        (visible (plain "<b>Go</b> 1< 2").toList) := by
  have hclose : '>' ∉ "1 &lt; 2".toList := by decide
  have htidied := ((plain_keeps_rest_iff "1 &lt; 2").1 hclose).mpr (by decide)
  have htext : "<b>Go</b> 1< 2" = "<b>Go</b> 1" ++ "<" ++ " 2" := by decide
  have hclosed : IsClosed "<b>Go</b> 1".toList := by decide
  have hopen : '>' ∉ " 2".toList := by decide
  have hrest : writeOutOnce Entity.all " 2".toList = " 2".toList :=
    writeOutOnce_of_notMem (by decide)
  obtain ⟨hlost, hkept⟩ := (plain_keeps_rest_iff "<b>Go</b> 1< 2").2 _ _ htext hclosed hopen
  refine ⟨⟨hclose, htidied⟩, htext, hclosed, hopen, hlost, fun hsublist => ?_⟩
  have hblank := hkept.mp hsublist '2' (by rw [hrest]; decide)
  exact absurd hblank (by decide)

/-- A title that compares two numbers is cut at the sign, where with the sign as text it would be
read as a whole. -/
theorem plain_loses_comparison :
    '>' ∉ "1 < 2".toList ∧ plain "1 < 2" = "1" ∧
      ¬Tidied (writeOutOnce Entity.all "1 < 2".toList) (plain "1 < 2").toList := by
  have hplain : plain "1 < 2" = "1" := by
    rw [plain, plainChars, writeOutEntities_eq, writeOutOnce_of_notMem (by decide)]
    decide
  refine ⟨by decide, hplain, fun htidied => ?_⟩
  rw [hplain, writeOutOnce_of_notMem (by decide), ← collapse_eq_iff] at htidied
  exact absurd htidied (by decide)

end NewsReader.Text
