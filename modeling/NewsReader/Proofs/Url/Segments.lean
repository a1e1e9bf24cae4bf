import NewsReader.Url.Parse

/-!
# Paths with more behind them

Segments of points are resolved while a path is read, so what is read of a path depends on what
follows it only at its end: the last segment is read in another way when nothing follows
(`resolve_append`). The stem of a path is what all its segments leave when more follows.

* `exists_stem` — a path as it stands is its stem and some slashes; a path with more behind it is
  its stem and that.
* `length_segmentsOf_blank` — a blank at the end of a path is a character of its own when more
  follows.
-/

namespace NewsReader.Url

/-! ### Splitting -/

/-- There is always a part. -/
theorem splitAtChar_ne_nil (sep : Char) (cs : List Char) : splitAtChar sep cs ≠ [] := by
  cases cs with
  | nil => simp [splitAtChar]
  | cons c cs =>
    rw [splitAtChar]
    split
    · simp
    · split <;> simp

/-- Parts around a separator are parts of what stands before it and after it. -/
theorem splitAtChar_append (sep : Char) (before after : List Char) :
    splitAtChar sep (before ++ sep :: after) = splitAtChar sep before ++ splitAtChar sep after := by
  induction before with
  | nil => simp [splitAtChar]
  | cons c before ih =>
    by_cases hc : c = sep
    · simp [splitAtChar, hc, ih]
    · obtain ⟨part, parts, hparts⟩ :=
        List.exists_cons_of_ne_nil (splitAtChar_ne_nil sep before)
      simp [splitAtChar, hc, ih, hparts]

/-- A text without separators goes on with the last part. -/
theorem splitAtChar_append_of_notMem {sep : Char} {more : List Char} (h : sep ∉ more)
    (cs : List Char) :
    ∃ parts last, splitAtChar sep cs = parts ++ [last] ∧
      splitAtChar sep (cs ++ more) = parts ++ [last ++ more] := by
  induction cs with
  | nil =>
    -- Nothing is one empty part, and what follows is all of it.
    refine ⟨[], [], rfl, ?_⟩
    induction more with
    | nil => rfl
    | cons c more ih =>
      obtain ⟨hc, hmore⟩ := List.ne_and_not_mem_of_not_mem_cons h
      have hwhole : splitAtChar sep more = [more] := ih hmore
      simp [splitAtChar, Ne.symm hc, hwhole]
  | cons c cs ih =>
    obtain ⟨parts, last, hcs, hmore⟩ := ih
    by_cases hc : c = sep
    · exact ⟨[] :: parts, last, by simp [splitAtChar, hc, hcs],
        by simp [splitAtChar, hc, hmore]⟩
    · cases parts with
      | nil =>
        exact ⟨[], c :: last, by simp [splitAtChar, hc, hcs], by simp [splitAtChar, hc, hmore]⟩
      | cons part parts =>
        exact ⟨(c :: part) :: parts, last, by simp [splitAtChar, hc, hcs],
          by simp [splitAtChar, hc, hmore]⟩

/-- Parts with their separators are the text. -/
theorem flatMap_splitAtChar (sep : Char) (cs : List Char) :
    (splitAtChar sep cs).flatMap (sep :: ·) = sep :: cs := by
  induction cs with
  | nil => rfl
  | cons c cs ih =>
    by_cases hc : c = sep
    · simp [splitAtChar, hc, ih]
    · obtain ⟨part, parts, hparts⟩ := List.exists_cons_of_ne_nil (splitAtChar_ne_nil sep cs)
      rw [hparts, List.flatMap_cons] at ih
      simpa [splitAtChar, hc, hparts] using ih

/-! ### Segments -/

/-- Read a segment after those in `done`, of which the last comes first, when more follow. -/
def pass (done : List (List Char)) (part : List Char) : List (List Char) :=
  if isTwoDots part then shorten done else if isDot part then done else part :: done

/-- A segment that is neither one of one point nor one of two. -/
def IsPart (part : List Char) : Prop :=
  isDot part = false ∧ isTwoDots part = false

/-- A segment that is not resolved is kept. -/
theorem pass_of_isPart {part : List Char} (h : IsPart part) (done : List (List Char)) :
    pass done part = part :: done := by
  simp [pass, h.1, h.2]

/-- Segments with more behind them are read one by one. -/
theorem resolve_append {parts more : List (List Char)} (hmore : more ≠ [])
    (done : List (List Char)) :
    resolve done (parts ++ more) = resolve (parts.foldl pass done) more := by
  induction parts generalizing done with
  | nil => rfl
  | cons part parts ih =>
    have hne : (parts ++ more).isEmpty = false := by simp [hmore]
    rw [List.cons_append, resolve, List.foldl_cons, ← ih]
    simp [hne, pass]

/-- The last segment leaves an empty one if it is resolved. -/
theorem resolve_singleton (done : List (List Char)) (part : List Char) :
    resolve done [part] =
      (if isTwoDots part ∨ isDot part then [] :: pass done part else pass done part).reverse := by
  simp [resolve, pass]

/-- Segments that are not resolved are kept. -/
theorem resolve_of_isPart {parts : List (List Char)} (h : ∀ part ∈ parts, IsPart part)
    (done : List (List Char)) : resolve done parts = done.reverse ++ parts := by
  induction parts generalizing done with
  | nil => simp [resolve]
  | cons part parts ih =>
    obtain ⟨hdot, hdots⟩ := h part List.mem_cons_self
    simp only [resolve, hdot, hdots, Bool.false_eq_true, or_self, and_false, ↓reduceIte]
    rw [ih fun p hp => h p (List.mem_cons_of_mem _ hp)]
    simp

/-- Written segments. -/
def segmentChars (parts : List (List Char)) : List Char :=
  parts.flatMap ('/' :: ·)

/-- Segments are written one after the other. -/
theorem segmentChars_append (parts more : List (List Char)) :
    segmentChars (parts ++ more) = segmentChars parts ++ segmentChars more :=
  List.flatMap_append

/-- Segments with the parts of a text behind them are written with the text behind them. -/
theorem chars_segments_append (parts : List (List Char)) (more : List Char) :
    (Path.segments (parts ++ splitAtChar '/' more)).chars = segmentChars parts ++ '/' :: more := by
  rw [← flatMap_splitAtChar '/' more]
  exact segmentChars_append parts _

/-- Where a path ends, its segments leave a slash behind them or nothing. -/
theorem exists_segmentChars_resolve (parts done : List (List Char)) :
    ∃ n, segmentChars (resolve done parts) =
      segmentChars (parts.foldl pass done).reverse ++ List.replicate n '/' := by
  rcases List.eq_nil_or_concat parts with rfl | ⟨parts, part, rfl⟩
  · exact ⟨0, by simp [resolve]⟩
  · rw [List.concat_eq_append, resolve_append (List.cons_ne_nil _ _), resolve_singleton,
      List.foldl_append, List.foldl_cons, List.foldl_nil]
    split
    · exact ⟨1, by rw [List.reverse_cons, segmentChars_append]; rfl⟩
    · exact ⟨0, (List.append_nil _).symm⟩

/-! ### Paths -/

/-- The text can be put behind a slash and stays as it is: it has no blank and no mark, nothing in
it is encoded, and no segment of it is resolved. -/
structure IsPlain (cs : List Char) : Prop where
  /-- There are neither blanks nor controls. -/
  visible : ∀ c ∈ cs, 0x20 < c.toNat
  /-- There is no mark that ends a path, and no backslash. -/
  unmarked : '?' ∉ cs ∧ '#' ∉ cs ∧ '\\' ∉ cs
  /-- The segments stay as they are. -/
  parts : ∀ part ∈ splitAtChar '/' cs, percentEncode inPathSet part = part ∧ IsPart part

instance (cs : List Char) : Decidable (IsPlain cs) :=
  decidable_of_iff
    ((cs.all fun c => 0x20 < c.toNat) ∧ ('?' ∉ cs ∧ '#' ∉ cs ∧ '\\' ∉ cs) ∧
      (splitAtChar '/' cs).all fun part => percentEncode inPathSet part == part && !isDot part &&
        !isTwoDots part)
    ⟨fun ⟨hvisible, hunmarked, hparts⟩ =>
        ⟨by simpa using hvisible, hunmarked, by simpa [IsPart, and_assoc] using hparts⟩,
      fun h =>
        ⟨by simpa using h.visible, h.unmarked, by simpa [IsPart, and_assoc] using h.parts⟩⟩

/-- Between slashes there is nothing. -/
theorem splitAtChar_replicate (n : Nat) :
    splitAtChar '/' (List.replicate n '/') = List.replicate (n + 1) [] := by
  induction n with
  | zero => rfl
  | succ n ih =>
    rw [List.replicate_succ, splitAtChar, if_pos rfl, ih]
    rfl

/-- Slashes can be put behind a slash. -/
theorem isPlain_replicate (n : Nat) : IsPlain (List.replicate n '/') where
  visible c hc := by
    rw [List.eq_of_mem_replicate hc]
    decide
  unmarked := by simp [List.mem_replicate]
  parts part hpart := by
    rw [splitAtChar_replicate] at hpart
    rw [List.eq_of_mem_replicate hpart]
    exact ⟨rfl, rfl, rfl⟩

/-- The text of a path in a special scheme, where a backslash is a slash. -/
def slashed (cs : List Char) : List Char :=
  cs.map fun c => if c = '\\' then '/' else c

/-- A text without backslashes stays as it is. -/
theorem slashed_of_notMem {cs : List Char} (h : '\\' ∉ cs) : slashed cs = cs := by
  refine (List.map_congr_left fun c hc => if_neg ?_).trans (List.map_id cs)
  rintro rfl
  exact h hc

/-- The segments of a path behind its first slash. -/
theorem segmentsOf_cons {c : Char} (hc : isSlash true c) (cs : List Char) :
    segmentsOf true (c :: cs) =
      resolve [] ((splitAtChar '/' (slashed cs)).map (percentEncode inPathSet)) := by
  have hslash : (if c = '\\' then '/' else c) = '/' := by
    have hcases : c = '/' ∨ c = '\\' := by simpa [isSlash] using hc
    rcases hcases with rfl | rfl <;> rfl
  simp [segmentsOf, slashed, hslash]

/-- What can be put behind a slash stays as it is when it is read. -/
theorem IsPlain.map_percentEncode {cs : List Char} (h : IsPlain cs) :
    (splitAtChar '/' cs).map (percentEncode inPathSet) = splitAtChar '/' cs :=
  (List.map_congr_left fun part hpart => (h.parts part hpart).1).trans (List.map_id _)

/-- The segments of a path to which nothing has to be done are its parts. -/
theorem IsPlain.segmentsOf_cons {cs : List Char} (h : IsPlain cs) :
    segmentsOf true ('/' :: cs) = splitAtChar '/' cs := by
  rw [Url.segmentsOf_cons rfl, slashed_of_notMem h.unmarked.2.2, h.map_percentEncode,
    resolve_of_isPart fun part hpart => (h.parts part hpart).2]
  rfl

/-- A path is empty or starts with a slash. -/
def IsPath (cs : List Char) : Prop :=
  cs = [] ∨ ∃ c rest, cs = c :: rest ∧ isSlash true c

/-- A path has a stem. With more behind it, its segments are the stem and those of what follows; as
it stands, and with slashes behind it, it is the stem with slashes behind it. -/
theorem exists_stem {cs : List Char} (h : IsPath cs) :
    ∃ stem, (∀ more,
      IsPlain more → segmentsOf true (cs ++ '/' :: more) = stem ++ splitAtChar '/' more) ∧
      ∀ n, ∃ m, segmentChars (segmentsOf true (cs ++ List.replicate n '/')) =
        segmentChars stem ++ List.replicate m '/' := by
  -- Slashes after the path, at least one, are something that can stand behind it.
  have hslashes {stem : List (List Char)}
      (hmore : ∀ more, IsPlain more →
        segmentsOf true (cs ++ '/' :: more) = stem ++ splitAtChar '/' more) (n : Nat) :
      segmentChars (segmentsOf true (cs ++ List.replicate (n + 1) '/')) =
        segmentChars stem ++ List.replicate (n + 1) '/' := by
    rw [List.replicate_succ, hmore _ (isPlain_replicate n), segmentChars_append,
      segmentChars, segmentChars, flatMap_splitAtChar]
  rcases h with rfl | ⟨c, rest, rfl, hc⟩
  · have hmore (more : List Char) (hplain : IsPlain more) :
        segmentsOf true ([] ++ '/' :: more) = [] ++ splitAtChar '/' more := hplain.segmentsOf_cons
    refine ⟨[], hmore, fun n => ?_⟩
    cases n with
    | zero => exact ⟨1, rfl⟩
    | succ n => exact ⟨n + 1, hslashes hmore n⟩
  · let parts := (splitAtChar '/' (slashed rest)).map (percentEncode inPathSet)
    have hmore (more : List Char) (hplain : IsPlain more) :
        segmentsOf true (c :: rest ++ '/' :: more) =
          (parts.foldl pass []).reverse ++ splitAtChar '/' more := by
      have hsplit : slashed (rest ++ '/' :: more) = slashed rest ++ '/' :: more := by
        rw [slashed, List.map_append]
        exact congrArg (slashed rest ++ '/' :: ·) (slashed_of_notMem hplain.unmarked.2.2)
      rw [List.cons_append, segmentsOf_cons hc, hsplit, splitAtChar_append, List.map_append,
        hplain.map_percentEncode,
        resolve_append (splitAtChar_ne_nil _ _),
        resolve_of_isPart fun part hpart => (hplain.parts part hpart).2]
    refine ⟨(parts.foldl pass []).reverse, hmore, fun n => ?_⟩
    cases n with
    | zero =>
      rw [List.replicate_zero, List.append_nil, segmentsOf_cons hc]
      exact exists_segmentChars_resolve parts []
    | succ n => exact ⟨n + 1, hslashes hmore n⟩

/-! ### Blanks at the end -/

/-- Blanks and controls, of which there is at least one. -/
structure IsTrail (cs : List Char) : Prop where
  /-- There is one. -/
  ne_nil : cs ≠ []
  /-- There is nothing else. -/
  hidden : ∀ c ∈ cs, c.toNat ≤ 0x20

/-- A mark is no part of blanks and controls. -/
theorem IsTrail.notMem {cs : List Char} (h : IsTrail cs) {c : Char} (hc : 0x20 < c.toNat) :
    c ∉ cs :=
  fun hmem => Nat.not_lt_of_le (h.hidden c hmem) hc

/-- The digits after a percent sign that do not write a point. -/
def NoPoint (a b : Char) : Prop :=
  b ≠ '.' ∧ ¬(a.toLower = '2' ∧ b.toLower = 'e')

/-- A text that ends in an encoded character other than a point is no segment of one point. -/
theorem isDot_append_percent {a b : Char} (h : NoPoint a b) (cs : List Char) :
    isDot (cs ++ ['%', a, b]) = false := by
  rw [isDot, Bool.or_eq_false_iff, beq_eq_false_iff_ne, beq_eq_false_iff_ne]
  constructor
  · intro heq
    have hlength := congrArg List.length heq
    simp at hlength
  · intro heq
    have hlength := congrArg List.length heq
    obtain rfl : cs = [] := List.eq_nil_of_length_eq_zero (by simpa using hlength)
    simp only [List.nil_append, List.map_cons, List.map_nil, List.cons.injEq, and_true] at heq
    exact h.2 ⟨heq.2.1, heq.2.2⟩

/-- A text that ends in an encoded character other than a point is no segment of points. -/
theorem isPart_append_percent {a b : Char} (h : NoPoint a b) (cs : List Char) :
    IsPart (cs ++ ['%', a, b]) := by
  refine ⟨isDot_append_percent h cs, ?_⟩
  rw [← Bool.not_eq_true]
  intro hdots
  unfold isTwoDots at hdots
  split at hdots
  · next rest heq =>
    -- The text behind a first point ends in the encoded character too.
    cases cs with
    | nil => exact absurd (List.cons.inj heq).1 (by decide)
    | cons c cs =>
      have hrest : cs ++ ['%', a, b] = rest := (List.cons.inj heq).2
      rw [← hrest, isDot_append_percent h cs] at hdots
      cases hdots
  · next x y z rest _ heq =>
    rw [Bool.and_eq_true] at hdots
    -- Three characters are taken off; what is left is too short, or ends in the encoded character.
    match cs, heq with
    | [], heq =>
      simp only [List.nil_append, List.cons.injEq] at heq
      obtain ⟨-, -, -, rfl⟩ := heq
      exact absurd hdots.2 (by decide)
    | [_], heq =>
      simp only [List.cons_append, List.nil_append, List.cons.injEq] at heq
      obtain ⟨-, -, -, rfl⟩ := heq
      simp [isDot, h.1] at hdots
    | [_, _], heq =>
      simp only [List.cons_append, List.nil_append, List.cons.injEq] at heq
      obtain ⟨-, -, -, rfl⟩ := heq
      simp [isDot] at hdots
    | _ :: _ :: _ :: cs, heq =>
      simp only [List.cons_append, List.cons.injEq] at heq
      obtain ⟨-, -, -, rfl⟩ := heq
      rw [isDot_append_percent h cs] at hdots
      cases hdots.2
  · cases hdots

/-- A blank or control is encoded, and it is no point. -/
theorem percentChar_of_le {c : Char} (hc : c.toNat ≤ 0x20) :
    inPathSet c ∧ ∃ a b, percentChar c = ['%', a, b] ∧ NoPoint a b := by
  have hall : ∀ n : Fin 33, inPathSet (Char.ofNat n) ∧
      percentChar (Char.ofNat n) =
        ['%', (Nat.digitChar (n / 16)).toUpper, (Nat.digitChar (n % 16)).toUpper] ∧
      (Nat.digitChar (n % 16)).toUpper ≠ '.' ∧
      ¬((Nat.digitChar (n / 16)).toUpper.toLower = '2' ∧
        (Nat.digitChar (n % 16)).toUpper.toLower = 'e') := by
    decide +kernel
  obtain ⟨hset, hchars, hpoint⟩ := hall ⟨c.toNat, Nat.lt_succ_of_le hc⟩
  rw [Char.ofNat_toNat] at hset hchars
  exact ⟨hset, _, _, hchars, hpoint⟩

/-- Behind a text, blanks and controls are written so that it is no segment of points. -/
theorem IsTrail.percentEncode {trail : List Char} (h : IsTrail trail) (cs : List Char) :
    IsPart (percentEncode inPathSet (cs ++ trail)) ∧
      (Url.percentEncode inPathSet cs).length <
        (Url.percentEncode inPathSet (cs ++ trail)).length := by
  rcases List.eq_nil_or_concat trail with rfl | ⟨front, c, rfl⟩
  · exact absurd rfl h.ne_nil
  · rw [List.concat_eq_append] at h ⊢
    obtain ⟨hset, a, b, hchars, hpoint⟩ := percentChar_of_le (h.hidden c (by simp))
    have htext : Url.percentEncode inPathSet (cs ++ (front ++ [c])) =
        Url.percentEncode inPathSet (cs ++ front) ++ ['%', a, b] := by
      rw [← List.append_assoc, Url.percentEncode, List.flatMap_append, ← hchars]
      simp [Url.percentEncode, hset]
    rw [htext]
    refine ⟨isPart_append_percent hpoint _, ?_⟩
    rw [Url.percentEncode, Url.percentEncode, List.flatMap_append]
    simp

/-- The characters of segments, of which the last comes first. -/
theorem length_segmentChars_reverse_cons (part : List Char) (done : List (List Char)) :
    (segmentChars (part :: done).reverse).length =
      (segmentChars done.reverse).length + 1 + part.length := by
  rw [List.reverse_cons, segmentChars_append, List.length_append, Nat.add_assoc]
  simp [segmentChars, Nat.add_comm]

/-- A segment adds no more characters than it has, and its slash. -/
theorem length_resolve_singleton_le (done : List (List Char)) (part : List Char) :
    (segmentChars (resolve done [part])).length ≤
      (segmentChars done.reverse).length + 1 + part.length := by
  have hshorten : (segmentChars (shorten done).reverse).length ≤
      (segmentChars done.reverse).length := by
    cases done with
    | nil => exact Nat.le_refl _
    | cons last done =>
      rw [shorten]
      split
      · exact Nat.le_refl _
      · rw [length_segmentChars_reverse_cons]
        omega
  rw [resolve_singleton, pass]
  -- Two points take a segment away and leave an empty one; one point leaves an empty one.
  by_cases hdots : isTwoDots part
  · rw [if_pos hdots, if_pos (.inl hdots), length_segmentChars_reverse_cons, List.length_nil]
    omega
  · by_cases hdot : isDot part
    · rw [if_neg hdots, if_pos hdot, if_pos (.inr hdot), length_segmentChars_reverse_cons]
      simp
    · refine Nat.le_of_eq ?_
      rw [if_neg hdots, if_neg hdot, if_neg (by simp [hdots, hdot]),
        length_segmentChars_reverse_cons]

/-- Blanks at the end of a path are characters of it when more follows. -/
theorem length_segmentsOf_blank {c : Char} {cs trail more : List Char} (hc : isSlash true c)
    (htrail : IsTrail trail) (hmore : IsPlain more) :
    (segmentChars (segmentsOf true (c :: cs))).length + 1 + more.length <
      (segmentChars (segmentsOf true (c :: cs ++ (trail ++ '/' :: more)))).length := by
  have hslash : '/' ∉ trail := htrail.notMem (by decide)
  have hbackslash : '\\' ∉ trail := htrail.notMem (by decide)
  -- Without a slash in them, the blanks belong to the last segment.
  obtain ⟨parts, last, hparts, htext⟩ := splitAtChar_append_of_notMem hslash (slashed cs)
  have hslashed : slashed (cs ++ (trail ++ '/' :: more)) = slashed cs ++ trail ++ '/' :: more := by
    have htail : slashed ('/' :: more) = '/' :: more :=
      congrArg ('/' :: ·) (slashed_of_notMem hmore.unmarked.2.2)
    have htrails : slashed trail = trail := slashed_of_notMem hbackslash
    unfold slashed at htail htrails ⊢
    rw [List.map_append, List.map_append, htail, htrails, List.append_assoc]
  obtain ⟨hpart, hlength⟩ := htrail.percentEncode last
  let done := (parts.map (percentEncode inPathSet)).foldl pass []
  have hserver : segmentsOf true (c :: cs) = resolve done [percentEncode inPathSet last] := by
    rw [segmentsOf_cons hc, hparts, List.map_append, List.map_singleton,
      resolve_append (List.cons_ne_nil _ _)]
  have hlonger : segmentsOf true (c :: cs ++ (trail ++ '/' :: more)) =
      (percentEncode inPathSet (last ++ trail) :: done).reverse ++ splitAtChar '/' more := by
    rw [List.cons_append, segmentsOf_cons hc, hslashed, splitAtChar_append, htext, List.map_append,
      hmore.map_percentEncode, resolve_append (splitAtChar_ne_nil _ _),
      resolve_of_isPart fun part hpart => (hmore.parts part hpart).2, List.map_append,
      List.foldl_append, List.map_singleton, List.foldl_cons, List.foldl_nil, pass_of_isPart hpart]
  have hle := length_resolve_singleton_le done (percentEncode inPathSet last)
  have hsplit : (segmentChars (splitAtChar '/' more)).length = 1 + more.length := by
    rw [segmentChars, flatMap_splitAtChar, List.length_cons, Nat.add_comm]
  rw [hserver, hlonger, segmentChars_append, List.length_append,
    length_segmentChars_reverse_cons, hsplit]
  omega

end NewsReader.Url
