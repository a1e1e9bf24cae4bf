import NewsReader.Text.Markup

/-!
# Named characters are written out once

Titles write out one kind of named character after the other. `writeOutOnce` is a single scan from
left to right that writes out whichever named character it meets and goes on behind it. The two come
to the same: a name has no ampersand in it, so no two written forms overlap, and the character that
is written out is part of no form that is looked for later, so no new one arises.

* `writeOutOnce_cons` — one kind less in the scan and written out before it makes no difference.
* `writeOutEntities_eq` — one kind after the other is a single scan.
-/

namespace NewsReader.Text

variable {f c r : Char} {fs cs ds t front rest : List Char}

/-! ### Replacing one text -/

/-- What is left after the front is what follows it. -/
theorem dropFront?_eq_some_iff : dropFront? front cs = some rest ↔ cs = front ++ rest := by
  induction front generalizing cs with
  | nil => simp [dropFront?]
  | cons f fs ih =>
    cases cs with
    | nil => simp [dropFront?]
    | cons c cs =>
      rw [dropFront?]
      split
      · next heq => simp [ih, heq]
      · next hne => simp [Ne.symm hne]

/-- A text is not found where it does not stand. -/
theorem replaceAll_cons_of_none (h : dropFront? (f :: fs) (c :: cs) = none) :
    replaceAll f fs r (c :: cs) = c :: replaceAll f fs r cs := by
  rw [replaceAll]
  split
  · next heq => rw [h] at heq; cases heq
  · rfl

/-- A text is replaced where it stands. -/
theorem replaceAll_append (fs : List Char) (r : Char) (rest : List Char) :
    replaceAll f fs r (f :: (fs ++ rest)) = r :: replaceAll f fs r rest := by
  have hfront : dropFront? (f :: fs) (f :: (fs ++ rest)) = some rest :=
    dropFront?_eq_some_iff.mpr rfl
  rw [replaceAll]
  split
  · next heq =>
    rw [hfront] at heq
    rw [Option.some.inj heq]
  · next heq => rw [hfront] at heq; cases heq

/-- A text does not stand where another character does than its first. -/
theorem dropFront?_of_ne (h : c ≠ f) : dropFront? (f :: fs) (c :: cs) = none :=
  if_neg (Ne.symm h)

/-- Nothing is replaced in characters that the text does not start with. -/
theorem replaceAll_append_of_notMem (h : f ∉ t) (rest : List Char) :
    replaceAll f fs r (t ++ rest) = t ++ replaceAll f fs r rest := by
  induction t with
  | nil => rfl
  | cons c t ih =>
    obtain ⟨hc, ht⟩ := List.ne_and_not_mem_of_not_mem_cons h
    rw [List.cons_append, replaceAll_cons_of_none (dropFront?_of_ne (Ne.symm hc)), ih ht,
      List.cons_append]

/-- What stands in front after the replacement, without a character that was put in, stood there
before. -/
theorem exists_of_replaceAll_eq (hr : r ∉ t) (h : replaceAll f fs r cs = t ++ ds) :
    ∃ rest, cs = t ++ rest := by
  induction t generalizing cs with
  | nil => exact ⟨cs, rfl⟩
  | cons x t ih =>
    obtain ⟨hx, ht⟩ := List.ne_and_not_mem_of_not_mem_cons hr
    cases cs with
    | nil => simp [replaceAll] at h
    | cons c cs =>
      cases hfront : dropFront? (f :: fs) (c :: cs) with
      | some rest =>
        rw [dropFront?_eq_some_iff, List.cons_append] at hfront
        rw [hfront, replaceAll_append] at h
        -- A replacement would put in the character that is not there.
        exact absurd (List.cons.inj h).1 hx
      | none =>
        rw [replaceAll_cons_of_none hfront] at h
        obtain ⟨rfl, hrest⟩ := List.cons.inj h
        obtain ⟨rest, rfl⟩ := ih ht hrest
        exact ⟨rest, rfl⟩

/-! ### A single scan -/

namespace Entity

/-- The written form. -/
def chars (e : Entity) : List Char :=
  '&' :: e.tail

/-- What stands in front is the written form of a named character: that character, and what
follows. -/
def front? (es : List Entity) (cs : List Char) : Option (Char × List Char) :=
  es.findSome? fun e => (dropFront? e.chars cs).map (e.char, ·)

variable {e e' : Entity} {es : List Entity} {p : Char × List Char}

/-- The written form in front is that of one of the named characters. -/
theorem exists_of_front? (h : front? es cs = some p) :
    ∃ e ∈ es, cs = e.chars ++ p.2 ∧ e.char = p.1 := by
  obtain ⟨e, hmem, he⟩ := List.exists_of_findSome?_eq_some h
  obtain ⟨rest, hrest, rfl⟩ := Option.map_eq_some_iff.mp he
  exact ⟨e, hmem, dropFront?_eq_some_iff.mp hrest, rfl⟩

/-- What follows is less than the whole. -/
theorem length_of_front? (h : front? es cs = some p) : p.2.length < cs.length := by
  obtain ⟨e, -, hcs, -⟩ := exists_of_front? h
  rw [hcs, chars, List.length_append, List.length_cons]
  omega

end Entity

open Entity in
/-- Write out each named character that is met, from left to right. -/
def writeOutOnce (es : List Entity) (cs : List Char) : List Char :=
  match cs with
  | [] => []
  | c :: cs =>
    match _h : front? es (c :: cs) with
    | some p => p.1 :: writeOutOnce es p.2
    | none => c :: writeOutOnce es cs
termination_by cs.length
decreasing_by
  · exact length_of_front? _h
  · simp

section Scan

open Entity

variable {e e' : Entity} {es : List Entity} {p : Char × List Char}

/-- A named character is written out, and the scan goes on behind it. -/
theorem writeOutOnce_of_some (h : front? es cs = some p) :
    writeOutOnce es cs = p.1 :: writeOutOnce es p.2 := by
  cases cs with
  | nil => exact absurd (length_of_front? h) (Nat.not_lt_zero _)
  | cons c cs =>
    rw [writeOutOnce]
    split
    · next heq =>
      rw [h] at heq
      rw [Option.some.inj heq]
    · next heq => rw [h] at heq; cases heq

/-- Any other character is left as it is. -/
theorem writeOutOnce_of_none (h : front? es (c :: cs) = none) :
    writeOutOnce es (c :: cs) = c :: writeOutOnce es cs := by
  rw [writeOutOnce]
  split
  · next heq => rw [h] at heq; cases heq
  · rfl

/-- No written form stands in front exactly if the text starts with none of them. -/
theorem Entity.front?_eq_none_iff :
    front? es cs = none ↔ ∀ e ∈ es, ∀ rest, cs ≠ e.chars ++ rest := by
  simp only [front?, List.findSome?_eq_none_iff, Option.map_eq_none_iff]
  simp only [Option.eq_none_iff_forall_ne_some, ne_eq, dropFront?_eq_some_iff]

/-- No written form stands in front where another character than an ampersand does. -/
theorem Entity.front?_of_ne (h : c ≠ '&') : front? es (c :: cs) = none :=
  front?_eq_none_iff.mpr fun _ _ _ heq => h (List.cons.inj heq).1

/-! ### Scans one after the other -/

/-- The name has neither of the signs around it in it. -/
structure Entity.IsNamed (e : Entity) : Prop where
  /-- There is no ampersand in it. -/
  ampersand : '&' ∉ e.name.toList
  /-- There is no semicolon in it. -/
  semicolon : ';' ∉ e.name.toList

/-- There is no ampersand behind the first one. -/
theorem Entity.IsNamed.notMem_tail (h : e.IsNamed) : '&' ∉ e.tail := by
  simp [tail, h.ampersand]

/-- A name goes up to the first semicolon. -/
theorem Entity.IsNamed.takeWhile_tail (h : e.IsNamed) (rest : List Char) :
    (e.tail ++ rest).takeWhile (· ≠ ';') = e.name.toList := by
  have hname : ∀ c ∈ e.name.toList, (decide (c ≠ ';')) = true := fun c hc =>
    decide_eq_true fun heq => h.semicolon (heq ▸ hc)
  rw [tail, List.append_assoc, List.takeWhile_append_of_pos hname]
  exact List.append_nil _

/-- Of two written forms in front of the same text, both have the same name. -/
theorem Entity.IsNamed.tail_eq (h : e.IsNamed) (h' : e'.IsNamed)
    (heq : e.tail ++ cs = e'.tail ++ ds) : e.tail = e'.tail := by
  have hnames := h.takeWhile_tail cs
  rw [heq, h'.takeWhile_tail ds] at hnames
  rw [tail, tail, hnames]

/-- Which written form stands in front is a matter of its name, and not of what follows. -/
theorem Entity.front?_append (hes : ∀ e ∈ es, e.IsNamed) (h : e'.IsNamed) (rest : List Char) :
    front? es (e'.chars ++ rest) = (es.find? fun e => e.tail = e'.tail).map fun e =>
      (e.char, rest) := by
  induction es with
  | nil => rfl
  | cons e es ih =>
    obtain ⟨he, hes⟩ := List.forall_mem_cons.mp hes
    rw [front?, List.findSome?_cons, List.find?_cons]
    -- The first kind stands in front exactly if it has the name that is written there.
    by_cases htail : e.tail = e'.tail
    · have hfront : dropFront? e.chars (e'.chars ++ rest) = some rest :=
        dropFront?_eq_some_iff.mpr (by rw [chars, chars, htail])
      simp [hfront, htail]
    · have hfront : dropFront? e.chars (e'.chars ++ rest) = none := by
        refine Option.eq_none_iff_forall_ne_some.mpr fun ds hds => htail ?_
        rw [dropFront?_eq_some_iff, chars, chars, List.cons_append, List.cons_append] at hds
        exact (h.tail_eq he (List.cons.inj hds).2).symm
      simp only [hfront, htail, decide_false, Option.map_none]
      exact ih hes

/-- The written form in front is met whatever follows it. -/
theorem Entity.exists_front?_append (hes : ∀ e ∈ es, e.IsNamed) (h : front? es cs = some p) :
    ∃ e ∈ es, cs = e.chars ++ p.2 ∧
      ∀ rest, front? es (e.chars ++ rest) = some (p.1, rest) := by
  obtain ⟨e, he, rfl, -⟩ := exists_of_front? h
  refine ⟨e, he, rfl, fun rest => ?_⟩
  rw [front?_append hes (hes e he)] at h ⊢
  obtain ⟨found, hfind, hp⟩ := Option.map_eq_some_iff.mp h
  rw [hfind, Option.map_some, ← hp]

/-- With one more kind of named character, either its written form stands in front, or one of the
others. -/
theorem Entity.front?_cons_eq_some_iff : front? (e :: es) cs = some p ↔
    (cs = e.chars ++ p.2 ∧ e.char = p.1) ∨
      (dropFront? e.chars cs = none ∧ front? es cs = some p) := by
  obtain ⟨c, rest⟩ := p
  rw [front?, List.findSome?_cons, ← dropFront?_eq_some_iff]
  cases dropFront? e.chars cs with
  | none => simp [front?]
  | some ds => simp [and_comm]

/-- With one more kind of named character, no written form stands in front if neither it does nor
one of the others. -/
theorem Entity.front?_cons_eq_none_iff :
    front? (e :: es) cs = none ↔ dropFront? e.chars cs = none ∧ front? es cs = none := by
  simp only [front?, List.findSome?_eq_none_iff, List.forall_mem_cons, Option.map_eq_none_iff]

/-- A written form of the kind is written out. -/
theorem Entity.writeOut_chars (e : Entity) (rest : List Char) :
    e.writeOut (e.chars ++ rest) = e.char :: e.writeOut rest :=
  replaceAll_append e.tail e.char rest

/-- A character that starts no written form of the kind is left. -/
theorem Entity.writeOut_cons_of_none (h : dropFront? e.chars (c :: cs) = none) :
    e.writeOut (c :: cs) = c :: e.writeOut cs :=
  replaceAll_cons_of_none h

/-- A written form of another kind is left. -/
theorem Entity.writeOut_append (h : e'.IsNamed)
    (hother : dropFront? e.chars (e'.chars ++ rest) = none) :
    e.writeOut (e'.chars ++ rest) = e'.chars ++ e.writeOut rest :=
  (e.writeOut_cons_of_none hother).trans
    (congrArg _ (replaceAll_append_of_notMem h.notMem_tail rest))

/-- One kind of named character written out before the scan of the others is a scan of all. It must
not be written out as a part of another one, which would then be met. -/
theorem writeOutOnce_cons (hnamed : ∀ e' ∈ e :: es, e'.IsNamed)
    (hchar : ∀ e' ∈ es, e.char ∉ e'.chars) (cs : List Char) :
    writeOutOnce (e :: es) cs = writeOutOnce es (e.writeOut cs) := by
  obtain ⟨he, hes⟩ := List.forall_mem_cons.mp hnamed
  fun_induction writeOutOnce (e :: es) cs with
  | case1 => simp [writeOut, replaceAll, writeOutOnce]
  | case2 c cs p hfront ih =>
    rcases front?_cons_eq_some_iff.mp hfront with ⟨hcs, hp⟩ | ⟨hother, hfront⟩
    · -- The one kind is written out, as a character that starts none of the others.
      have hnone : front? es (e.char :: e.writeOut p.2) = none :=
        front?_eq_none_iff.mpr fun e' he' rest heq =>
          hchar e' he' ((List.cons.inj heq).1 ▸ List.mem_cons_self)
      rw [hcs, ih, ← hp, writeOut_chars, writeOutOnce_of_none hnone]
    · -- One of the others is left as it is, and it is met later.
      obtain ⟨e', he', hcs, hlater⟩ := exists_front?_append hes hfront
      rw [hcs] at hother ⊢
      rw [ih, writeOut_append (hes e' he') hother, writeOutOnce_of_some (hlater _)]
  | case3 c cs hfront ih =>
    obtain ⟨hone, hothers⟩ := front?_cons_eq_none_iff.mp hfront
    -- No other arises: it would have a character in it that was put in, or have been there before.
    have hnone : front? es (c :: e.writeOut cs) = none := by
      refine front?_eq_none_iff.mpr fun e' he' ds heq => ?_
      obtain ⟨rfl, htail⟩ := List.cons.inj heq
      obtain ⟨rest, rfl⟩ :=
        exists_of_replaceAll_eq (fun hmem => hchar e' he' (List.mem_cons_of_mem _ hmem)) htail
      exact front?_eq_none_iff.mp hothers e' he' rest rfl
    rw [ih, writeOut_cons_of_none hone, writeOutOnce_of_none hnone]

/-- Without kinds of named characters a scan leaves the text as it is. -/
theorem writeOutOnce_nil (cs : List Char) : writeOutOnce [] cs = cs := by
  induction cs with
  | nil => rw [writeOutOnce]
  | cons c cs ih => rw [writeOutOnce_of_none rfl, ih]

/-- A scan leaves a text without an ampersand as it is. -/
theorem writeOutOnce_of_notMem (h : '&' ∉ cs) : writeOutOnce es cs = cs := by
  induction cs with
  | nil => rw [writeOutOnce]
  | cons c cs ih =>
    obtain ⟨hc, hcs⟩ := List.ne_and_not_mem_of_not_mem_cons h
    rw [writeOutOnce_of_none (front?_of_ne (Ne.symm hc)), ih hcs]

/-- Kinds of named characters can be written out one after the other if none of them is written out
as a part of a later one. -/
structure Entity.AreOrdered (es : List Entity) : Prop where
  /-- Each has a name. -/
  isNamed : ∀ e ∈ es, e.IsNamed
  /-- None is written out as a part of a later one. -/
  notMem : es.Pairwise fun e e' => e.char ∉ e'.chars

/-- One kind after the other is a single scan. -/
theorem foldl_writeOut (h : AreOrdered es) (cs : List Char) :
    es.foldl (fun cs e => e.writeOut cs) cs = writeOutOnce es cs := by
  induction es generalizing cs with
  | nil => exact (writeOutOnce_nil cs).symm
  | cons e es ih =>
    obtain ⟨hchar, hlater⟩ := List.pairwise_cons.mp h.notMem
    rw [List.foldl_cons, ih ⟨(List.forall_mem_cons.mp h.isNamed).2, hlater⟩,
      writeOutOnce_cons h.isNamed hchar]

/-- The named characters of titles are in such an order: the ampersand is last. -/
theorem Entity.areOrdered_all : AreOrdered all where
  isNamed := by
    have hnames : all.all fun e =>
        !e.name.toList.contains '&' && !e.name.toList.contains ';' := by decide
    intro e he
    have he := List.all_eq_true.mp hnames e he
    simp only [Bool.and_eq_true, Bool.not_eq_true', List.contains_eq_mem, decide_eq_false_iff_not]
      at he
    exact ⟨he.1, he.2⟩
  notMem := by decide

/-- Titles have their named characters written out as in a single scan. -/
theorem writeOutEntities_eq (cs : List Char) : writeOutEntities cs = writeOutOnce Entity.all cs :=
  foldl_writeOut Entity.areOrdered_all cs

end Scan

end NewsReader.Text
