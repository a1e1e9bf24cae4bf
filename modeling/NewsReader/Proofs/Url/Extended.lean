import Mathlib.Data.List.DropRight
import NewsReader.Proofs.Url.Layers

/-!
# Addresses with more behind them

The text of an address loses the slashes at its end, and a slash and more are put behind it. What is
read then is not always the URL of the address with a longer path: a query or a fragment takes in
all that follows, and a blank at the end of the address, which would not count there, counts in the
middle of a text.

* `scheme?_extended`, `scheme?_extended_of_blank` — what stands behind the scheme then.
* `ofText_extended` — without a mark and without a blank at the end, the path is the stem with
  what follows.
* `ofText_extended_of_marked` — behind a query or a fragment the path does not change.
* `ofText_extended_of_blank` — behind a blank the path gets longer than by what follows.
* `unmarked_of_ofText_extended` — more behind an address is neither query nor fragment if it has
  none.
-/

namespace NewsReader.Url

/-! ### Characters that count -/

/-- A blank or a control. -/
def isEdge (c : Char) : Bool :=
  c.toNat ≤ 0x20

/-- No tab and no line break. -/
def isKept (c : Char) : Bool :=
  c != '\t' && c != '\n' && c != '\r'

/-- The characters that count, by the functions that take from the end of a list. -/
theorem cleaned_eq (s : String) :
    cleaned s = ((s.toList.dropWhile isEdge).rdropWhile isEdge).filter isKept :=
  rfl

/-- What is neither a blank nor a control is no tab and no line break. -/
theorem isKept_of_lt {c : Char} (h : 0x20 < c.toNat) : isKept c := by
  simp only [isKept, Bool.and_eq_true, bne_iff_ne]
  refine ⟨⟨?_, ?_⟩, ?_⟩ <;> rintro rfl <;> exact absurd h (by decide)

/-- The text does not end in a blank or a control, even if tabs and line breaks are left out. -/
def EndsVisibly (cs : List Char) : Prop :=
  ∀ c ∈ (cs.filter isKept).getLast?, 0x20 < c.toNat

instance : DecidablePred EndsVisibly := fun cs =>
  decidable_of_iff (((cs.filter isKept).getLast?.all (0x20 < ·.toNat)) = true)
    (by simp [EndsVisibly, Option.all_eq_true])

/-- The slashes at the end of a text are left out. -/
def withoutSlashes (cs : List Char) : List Char :=
  cs.rdropWhile (· == '/')

/-- A text is one without slashes at its end, with slashes behind it. -/
theorem exists_eq_withoutSlashes (cs : List Char) :
    ∃ n, cs = withoutSlashes cs ++ List.replicate n '/' := by
  refine ⟨(cs.rtakeWhile (· == '/')).length, ?_⟩
  have hslashes : cs.rtakeWhile (· == '/') =
      List.replicate (cs.rtakeWhile (· == '/')).length '/' :=
    List.eq_replicate_of_mem fun c hc => by simpa using List.mem_rtakeWhile_imp hc
  rw [← hslashes, withoutSlashes, List.rdropWhile_append_rtakeWhile]

/-- Slashes behind a text are left out with those at its end. -/
theorem withoutSlashes_append_replicate (cs : List Char) (n : Nat) :
    withoutSlashes (cs ++ List.replicate n '/') = withoutSlashes cs := by
  induction n with
  | zero => rw [List.replicate_zero, List.append_nil]
  | succ n ih => rw [List.replicate_succ', ← List.append_assoc, withoutSlashes,
    List.rdropWhile_concat_pos _ _ _ rfl, ← ih, withoutSlashes]

/-- Nothing is left out of a text exactly if it does not end in a slash, so that there are no two
with one more. -/
theorem withoutSlashes_eq_self_iff (cs : List Char) :
    withoutSlashes cs = cs ↔ ¬['/', '/'] <:+ cs ++ ['/'] := by
  rw [withoutSlashes, List.rdropWhile_eq_self_iff]
  rcases List.eq_nil_or_concat cs with rfl | ⟨front, c, rfl⟩
  · simp [List.suffix_cons_iff]
  · have hsuffix : ['/', '/'] <:+ front ++ [c, '/'] ↔ c = '/' := by
      constructor
      · rintro ⟨before, h⟩
        exact (List.cons.inj (List.append_inj_right' h rfl)).1.symm
      · rintro rfl
        exact List.suffix_append ..
    simp [hsuffix]

/-- A text does not get longer. -/
theorem length_withoutSlashes_le (cs : List Char) : (withoutSlashes cs).length ≤ cs.length :=
  (List.rdropWhile_prefix (p := (· == '/')) cs).length_le

/-- The address with slashes at its end left out, and a slash and more behind it. -/
def extended (s : String) (more : List Char) : String :=
  String.ofList (withoutSlashes s.toList ++ '/' :: more)

/-- The characters that count in an address with more behind it, up to the slash. -/
def baseChars (s : String) : List Char :=
  ((withoutSlashes s.toList).dropWhile isEdge).filter isKept

/-- What follows counts as it is. -/
theorem cleaned_extended {more : List Char} (hmore : ∀ c ∈ more, 0x20 < c.toNat) (s : String) :
    cleaned (extended s more) = baseChars s ++ '/' :: more := by
  -- The slash and what follows it are visible, so neither end loses any of them.
  have hslash : isEdge '/' = false := by decide
  have hfront : (withoutSlashes s.toList ++ '/' :: more).dropWhile isEdge =
      (withoutSlashes s.toList).dropWhile isEdge ++ '/' :: more := by
    rw [List.dropWhile_append]
    split
    · next hnil => rw [List.isEmpty_iff.mp hnil, List.dropWhile_cons_of_neg (by simp [hslash]),
        List.nil_append]
    · rfl
  have hvisible : ∀ c ∈ '/' :: more, 0x20 < c.toNat := by
    intro c hc
    rcases List.mem_cons.mp hc with rfl | hc
    · decide
    · exact hmore c hc
  have hlast (front : List Char) :
      (front ++ '/' :: more).rdropWhile isEdge = front ++ '/' :: more := by
    rw [List.rdropWhile_eq_self_iff]
    intro hne
    rw [List.getLast_append_of_ne_nil hne (List.cons_ne_nil _ _)]
    have hlt := hvisible _ (List.getLast_mem (List.cons_ne_nil '/' more))
    simp only [isEdge, decide_eq_true_eq]
    exact Nat.not_le_of_lt hlt
  have hkept : ('/' :: more).filter isKept = '/' :: more :=
    List.filter_eq_self.mpr fun c hc => isKept_of_lt (hvisible c hc)
  rw [cleaned_eq, extended, String.toList_ofList, hfront, hlast, List.filter_append,
    hkept, baseChars]

/-- The blanks and controls at the end of an address that count when more follows. -/
def trailChars (s : String) : List Char :=
  ((s.toList.dropWhile isEdge).rtakeWhile isEdge).filter isKept

/-- A trail has nothing but blanks and controls. -/
theorem toNat_le_of_mem_trailChars {s : String} {c : Char} (hc : c ∈ trailChars s) :
    c.toNat ≤ 0x20 := by
  have hedge : isEdge c := List.mem_rtakeWhile_imp (List.mem_of_mem_filter hc)
  simpa [isEdge] using hedge

/-- Without its tabs and line breaks, an address is what counts of it between blanks and
controls. -/
theorem filter_isKept_eq (s : String) :
    s.toList.filter isKept =
      (s.toList.takeWhile isEdge).filter isKept ++ (cleaned s ++ trailChars s) := by
  rw [cleaned_eq, trailChars, ← List.filter_append, List.rdropWhile_append_rtakeWhile,
    ← List.filter_append, List.takeWhile_append_dropWhile]

/-- What counts of an address does not end in a blank. -/
theorem endsVisibly_cleaned (s : String) : ∀ c ∈ (cleaned s).getLast?, 0x20 < c.toNat := by
  rw [cleaned_eq]
  rcases List.eq_nil_or_concat ((s.toList.dropWhile isEdge).rdropWhile isEdge) with
    hnil | ⟨front, c, hconcat⟩
  · rw [hnil]
    simp
  · rw [List.concat_eq_append] at hconcat
    have hedge : ¬isEdge c := by
      have hlast := List.rdropWhile_last_not isEdge (s.toList.dropWhile isEdge) (by simp [hconcat])
      simpa [hconcat] using hlast
    have hlt : 0x20 < c.toNat := by simpa [isEdge] using hedge
    rw [hconcat, List.filter_append, List.filter_singleton, isKept_of_lt hlt]
    simpa using hlt

/-- An address of which something counts ends in a blank exactly if it has a trail. -/
theorem endsVisibly_iff {s : String} (h : cleaned s ≠ []) :
    EndsVisibly s.toList ↔ trailChars s = [] := by
  rw [EndsVisibly, filter_isKept_eq]
  constructor
  · intro hvisible
    rcases List.eq_nil_or_concat (trailChars s) with hnil | ⟨front, c, hconcat⟩
    · exact hnil
    · rw [List.concat_eq_append] at hconcat
      have hle := toNat_le_of_mem_trailChars (s := s) (c := c) (by simp [hconcat])
      exact absurd (hvisible c (by simp [hconcat])) (Nat.not_lt_of_le hle)
  · intro hnil
    rw [hnil, List.append_nil, List.getLast?_append_of_ne_nil _ h]
    exact endsVisibly_cleaned s

/-- If no slash is left out, what counts in an address when more follows is what counts of it, and
the trail. -/
theorem baseChars_of_withoutSlashes {s : String} (h : withoutSlashes s.toList = s.toList) :
    baseChars s = cleaned s ++ trailChars s := by
  rw [baseChars, h, cleaned_eq, trailChars, ← List.filter_append,
    List.rdropWhile_append_rtakeWhile]

/-- An address that ends in a slash does not end in a blank. -/
theorem endsVisibly_of_append_slash {cs front : List Char} (h : cs = front ++ ['/']) :
    EndsVisibly cs := by
  have hkept : isKept '/' := by decide
  rw [EndsVisibly, h, List.filter_append, List.filter_singleton, hkept]
  simp

/-- An address that does not end in a blank is what counts of it when more follows, with slashes
behind it. -/
theorem cleaned_of_endsVisibly {s : String} (hcleaned : cleaned s ≠ [])
    (h : EndsVisibly s.toList) : ∃ n, cleaned s = baseChars s ++ List.replicate n '/' := by
  obtain ⟨n, hn⟩ := exists_eq_withoutSlashes s.toList
  cases n with
  | zero =>
    have hwhole : withoutSlashes s.toList = s.toList := by simpa using hn.symm
    refine ⟨0, ?_⟩
    rw [baseChars_of_withoutSlashes hwhole, (endsVisibly_iff hcleaned).mp h, List.append_nil,
      List.replicate_zero, List.append_nil]
  | succ n =>
    -- The slashes at the end are more behind the address without them.
    have hext : extended s (List.replicate n '/') = s := by
      rw [extended, ← List.replicate_succ, ← hn, String.ofList_toList]
    refine ⟨n + 1, ?_⟩
    rw [List.replicate_succ, ← cleaned_extended (isPlain_replicate n).visible s, hext]

/-- An address that ends in a blank has a trail, which counts when more follows. -/
theorem cleaned_of_not_endsVisibly {s : String} (hcleaned : cleaned s ≠ [])
    (h : ¬EndsVisibly s.toList) :
    IsTrail (trailChars s) ∧ baseChars s = cleaned s ++ trailChars s := by
  refine ⟨⟨mt (endsVisibly_iff hcleaned).mpr h, fun c => toNat_le_of_mem_trailChars⟩,
    baseChars_of_withoutSlashes ?_⟩
  obtain ⟨n, hn⟩ := exists_eq_withoutSlashes s.toList
  cases n with
  | zero => simpa using hn.symm
  | succ n =>
    rw [List.replicate_succ', ← List.append_assoc] at hn
    exact absurd (endsVisibly_of_append_slash hn) h

/-! ### Whole addresses -/

section

variable {scheme s : String} {u : Url} {rest : List Char}

/-- Behind the scheme, an address that does not end in a blank goes on with what follows instead of
its slashes. -/
theorem scheme?_extended (h : scheme? (cleaned s) = some (scheme, rest))
    (hvisible : EndsVisibly s.toList) :
    ∃ base n, rest = base ++ List.replicate n '/' ∧ ∀ more, IsPlain more →
      scheme? (cleaned (extended s more)) = some (scheme, base ++ '/' :: more) := by
  obtain ⟨name, hname, hscheme⟩ := scheme?_eq_some h
  obtain ⟨n, hcleaned⟩ := cleaned_of_endsVisibly (cleaned_ne_nil h) hvisible
  -- The colon is no slash, so it belongs to what is left of the address.
  obtain ⟨base, hbase, hrest⟩ : ∃ base,
      baseChars s = name ++ ':' :: base ∧ rest = base ++ List.replicate n '/' := by
    have hcolon (k : Nat) : ':' ∉ List.replicate k '/' := by simp [List.mem_replicate]
    rcases List.append_eq_append_iff.mp (hname.symm.trans hcleaned) with
      ⟨back, hback, hcons⟩ | ⟨back, hback, hslashes⟩
    · cases back with
      | nil =>
        exact absurd (by rw [← List.nil_append (List.replicate n '/'), ← hcons]; simp)
          (hcolon n)
      | cons c base =>
        obtain ⟨rfl, hrest⟩ := List.cons.inj hcons
        exact ⟨base, hback, hrest⟩
    · exact absurd (by rw [hslashes]; simp) (hcolon n)
  refine ⟨base, n, hrest, fun more hmore => ?_⟩
  rw [cleaned_extended hmore.visible, hbase, List.append_assoc]
  exact hscheme _

/-- Behind the scheme, an address that ends in a blank goes on with its trail. -/
theorem scheme?_extended_of_blank (h : scheme? (cleaned s) = some (scheme, rest))
    (hblank : ¬EndsVisibly s.toList) :
    ∃ trail, IsTrail trail ∧ ∀ more, IsPlain more →
      scheme? (cleaned (extended s more)) = some (scheme, rest ++ (trail ++ '/' :: more)) := by
  obtain ⟨name, hname, hscheme⟩ := scheme?_eq_some h
  obtain ⟨htrail, hbase⟩ := cleaned_of_not_endsVisibly (cleaned_ne_nil h) hblank
  refine ⟨trailChars s, htrail, fun more hmore => ?_⟩
  rw [cleaned_extended hmore.visible, hbase, hname, List.append_assoc, List.append_assoc]
  exact hscheme _

/-- Without a mark and without a blank at its end, the path of an address is a stem with slashes
behind it, and the path of the address with more behind it is the stem with that. -/
theorem ofText_extended (h : ofText s = .ok u) (hspecial : isSpecial u.scheme)
    (hfile : u.scheme ≠ "file") (hquery : u.query = none) (hfragment : u.fragment = none)
    (hvisible : EndsVisibly s.toList) :
    ∃ stem n, u.path.chars = segmentChars stem ++ List.replicate n '/' ∧
      ∀ more, IsPlain more →
      ofText (extended s more) =
        .ok { u with path := .segments (stem ++ splitAtChar '/' more) } := by
  obtain ⟨rest, read, hscheme, hunmarked, hread, hauthority, hpath⟩ :=
    exists_of_ofText_of_unmarked h hspecial hfile hquery hfragment
  obtain ⟨base, n, rfl, hmore⟩ := scheme?_extended hscheme hvisible
  have hslashes : IsPath (List.replicate n '/') := by
    cases n with
    | zero => exact .inl rfl
    | succ n => exact .inr ⟨'/', _, List.replicate_succ, rfl⟩
  -- The authority does not consist of slashes, so it stands before those that are left out.
  have hbase : authorityText base ≠ [] := by
    intro hnil
    refine Authority.ne_nil_of_ofChars hspecial hread (authorityText_eq_nil_iff.mpr fun c hc => ?_)
    rcases List.mem_append.mp hc with hc | hc
    · exact authorityText_eq_nil_iff.mp hnil c hc
    · rw [List.eq_of_mem_replicate hc]
      rfl
  obtain ⟨hserver, hpaths⟩ := pathText_append hbase hslashes
  obtain ⟨stem, hstem, hend⟩ := exists_stem (isPath_pathText base)
  obtain ⟨m, hm⟩ := hend n
  refine ⟨stem, m, ?_, fun more hplain => ?_⟩
  · rw [hpath, hpaths]
    exact hm
  · obtain ⟨hauthorities, hlonger⟩ :=
      pathText_append hbase (.inr ⟨'/', more, rfl, rfl⟩ : IsPath ('/' :: more))
    have hrest : '?' ∉ base ++ '/' :: more ∧ '#' ∉ base ++ '/' :: more := by
      obtain ⟨hq, hf, -⟩ := hplain.unmarked
      simp only [List.mem_append, List.mem_cons, not_or] at hunmarked ⊢
      exact ⟨⟨hunmarked.1.1, by decide, hq⟩, hunmarked.2.1, by decide, hf⟩
    rw [ofText_of_unmarked (hmore more hplain) hspecial hfile hrest, hauthorities, hlonger,
      hstem more hplain, ← hserver, hread, hquery, hfragment, Except.map, ← hauthority]

/-- Behind a query or a fragment, more does not change the path. -/
theorem ofText_extended_of_marked (h : ofText s = .ok u) (hspecial : isSpecial u.scheme)
    (hfile : u.scheme ≠ "file") (hmarked : ¬(u.query = none ∧ u.fragment = none))
    {more : List Char} (hmore : IsPlain more) :
    ∃ query fragment, ofText (extended s more) = .ok { u with query, fragment } := by
  obtain ⟨rest, read, hscheme, hread, hauthority, hpath, hquery, hfragment⟩ :=
    exists_of_ofText h hspecial hfile
  rw [hquery, hfragment, Option.map_eq_none_iff, Option.map_eq_none_iff, unmarked_iff] at hmarked
  have hmark : '?' ∈ rest ∨ '#' ∈ rest := by
    by_contra hnone
    exact hmarked (not_or.mp hnone)
  -- Whatever the address ends in, what follows stands behind a mark.
  obtain ⟨base, old, new, rfl, hbase, hextended⟩ : ∃ base old new,
      rest = base ++ old ∧ ('?' ∈ base ∨ '#' ∈ base) ∧
      scheme? (cleaned (extended s more)) = some (u.scheme, base ++ new) := by
    by_cases hvisible : EndsVisibly s.toList
    · obtain ⟨base, n, rfl, hlonger⟩ := scheme?_extended hscheme hvisible
      refine ⟨base, _, _, rfl, ?_, hlonger more hmore⟩
      simpa [List.mem_replicate] using hmark
    · obtain ⟨trail, -, hlonger⟩ := scheme?_extended_of_blank hscheme hvisible
      exact ⟨rest, [], _, (List.append_nil _).symm, hmark, hlonger more hmore⟩
  obtain ⟨body, hbody⟩ := bodyOf_append hbase
  rw [hbody] at hread hpath
  rw [ofText_of_scheme hextended hspecial hfile, hbody, hread, Except.map,
    ← hauthority, ← hpath]
  exact ⟨_, _, rfl⟩

/-- Behind a blank, the path gets longer than by what follows. -/
theorem ofText_extended_of_blank (h : ofText s = .ok u) (hspecial : isSpecial u.scheme)
    (hfile : u.scheme ≠ "file") (hquery : u.query = none) (hfragment : u.fragment = none)
    (hblank : ¬EndsVisibly s.toList) {more : List Char} (hmore : IsPlain more) {v : Url}
    (hv : ofText (extended s more) = .ok v) :
    u.path.chars.length + 1 + more.length < v.path.chars.length := by
  obtain ⟨rest, read, hscheme, hunmarked, hread, hauthority, hpath⟩ :=
    exists_of_ofText_of_unmarked h hspecial hfile hquery hfragment
  obtain ⟨trail, htrail, hlonger⟩ := scheme?_extended_of_blank hscheme hblank
  have hrest : '?' ∉ rest ++ (trail ++ '/' :: more) ∧
      '#' ∉ rest ++ (trail ++ '/' :: more) := by
    obtain ⟨hq, hf, -⟩ := hmore.unmarked
    have hqt : '?' ∉ trail := htrail.notMem (by decide)
    have hft : '#' ∉ trail := htrail.notMem (by decide)
    simp only [List.mem_append, List.mem_cons, not_or]
    exact ⟨⟨hunmarked.1, hqt, by decide, hq⟩, hunmarked.2, hft, by decide, hf⟩
  have hne := Authority.ne_nil_of_ofChars hspecial hread
  rw [ofText_of_unmarked (hlonger more hmore) hspecial hfile hrest] at hv
  cases hend : pathText rest with
  | nil =>
    -- The blank is the end of the authority, and there is none such.
    have htaken : (trail ++ '/' :: more).takeWhile (!isSlash true ·) = trail := by
      have hall : ∀ c ∈ trail, (!isSlash true c) = true := by
        intro c hc
        rw [Bool.not_eq_true', ← Bool.not_eq_true]
        intro hslash
        have hcases : c = '/' ∨ c = '\\' := by simpa [isSlash] using hslash
        rcases hcases with rfl | rfl <;> exact htrail.notMem (by decide) hc
      rw [List.takeWhile_append_of_pos hall, List.takeWhile_cons_of_neg (by decide),
        List.append_nil]
    obtain ⟨fault, hfault⟩ :=
      Authority.ofChars_blank hspecial (notMem_authorityText rfl rest) hread htrail true
    rw [(authorityText_append hne hend _).1, htaken, hfault] at hv
    cases hv
  | cons c cs =>
    have hslash : isSlash true c := by
      rcases isPath_pathText rest with hnil | ⟨c', cs', hcons, hc⟩
      · exact absurd (hend.symm.trans hnil) (List.cons_ne_nil c cs)
      · rwa [(List.cons.inj (hend.symm.trans hcons)).1]
    obtain ⟨hauthorities, hlonger⟩ := pathText_append_of_ne_nil hne
      (by rw [hend]; exact List.cons_ne_nil c cs) (trail ++ '/' :: more)
    rw [hauthorities, hlonger, hend, hread] at hv
    rw [hpath, hend, ← Except.ok.inj hv]
    exact length_segmentsOf_blank hslash htrail hmore

/-- With more behind it, an address without query and fragment has neither, even behind a blank. -/
theorem unmarked_of_ofText_extended (h : ofText s = .ok u) (hspecial : isSpecial u.scheme)
    (hfile : u.scheme ≠ "file") (hquery : u.query = none) (hfragment : u.fragment = none)
    {more : List Char} (hmore : IsPlain more) {v : Url} (hv : ofText (extended s more) = .ok v) :
    v.query = none ∧ v.fragment = none := by
  obtain ⟨rest, -, hscheme, hunmarked, -⟩ :=
    exists_of_ofText_of_unmarked h hspecial hfile hquery hfragment
  obtain ⟨hq, hf, -⟩ := hmore.unmarked
  -- There is a mark neither in the address nor in what follows, and none between them.
  obtain ⟨longer, hlonger, hrest⟩ : ∃ longer,
      scheme? (cleaned (extended s more)) = some (u.scheme, longer) ∧
      '?' ∉ longer ∧ '#' ∉ longer := by
    by_cases hvisible : EndsVisibly s.toList
    · obtain ⟨base, n, rfl, hlonger⟩ := scheme?_extended hscheme hvisible
      refine ⟨_, hlonger more hmore, ?_⟩
      simp only [List.mem_append, List.mem_cons, not_or] at hunmarked ⊢
      exact ⟨⟨hunmarked.1.1, by decide, hq⟩, hunmarked.2.1, by decide, hf⟩
    · obtain ⟨trail, htrail, hlonger⟩ := scheme?_extended_of_blank hscheme hvisible
      refine ⟨_, hlonger more hmore, ?_⟩
      simp only [List.mem_append, List.mem_cons, not_or]
      exact ⟨⟨hunmarked.1, htrail.notMem (by decide), by decide, hq⟩, hunmarked.2,
        htrail.notMem (by decide), by decide, hf⟩
  rw [ofText_of_unmarked hlonger hspecial hfile hrest] at hv
  cases hread : Authority.ofChars u.scheme true (authorityText longer) with
  | error fault =>
    rw [hread] at hv
    cases hv
  | ok read =>
    rw [hread] at hv
    obtain rfl := Except.ok.inj hv
    exact ⟨rfl, rfl⟩

end

end NewsReader.Url
