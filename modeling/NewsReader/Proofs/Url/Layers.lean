import NewsReader.Proofs.Url.Authority

/-!
# The layers of an address

The text of a URL is read in layers. The scheme is taken off its front, the fragment and the query
off its end, and what is left is divided into an authority and a path at the first slash. Each layer
has a lemma for what it makes of a text with more behind it: `scheme?_eq_some`, `bodyOf_append`, and
`pathText_append` and `authorityText_append`.

* `ofText_of_scheme` — what the layers of a text with a special scheme are read as.
* `exists_of_ofText` — the layers of the text of a URL.
-/

namespace NewsReader.Url

variable {scheme : String}

/-! ### Authority and path -/

/-- The text of an authority, behind the slashes after a scheme. -/
def authorityText (cs : List Char) : List Char :=
  (cs.dropWhile (isSlash true)).takeWhile (!isSlash true ·)

/-- The text of a path, behind the authority. -/
def pathText (cs : List Char) : List Char :=
  (cs.dropWhile (isSlash true)).dropWhile (!isSlash true ·)

/-- No slash is written in an authority. -/
theorem notMem_authorityText {c : Char} (hc : isSlash true c) (cs : List Char) :
    c ∉ authorityText cs := by
  intro hmem
  have hnot : (!isSlash true c) = true := List.mem_takeWhile_imp (p := (!isSlash true ·)) hmem
  rw [hc] at hnot
  cases hnot

/-- The text of a path is empty or starts with a slash. -/
theorem isPath_pathText (cs : List Char) : IsPath (pathText cs) := by
  have hhead := List.head?_dropWhile_not (!isSlash true ·) (cs.dropWhile (isSlash true))
  cases hpath : pathText cs with
  | nil => exact .inl rfl
  | cons c rest =>
    rw [pathText] at hpath
    rw [hpath] at hhead
    exact .inr ⟨c, rest, rfl, by simpa using hhead⟩

/-- Slashes in front are passed over before anything that follows an authority. -/
theorem dropWhile_isSlash_append {cs : List Char} (hcs : authorityText cs ≠ [])
    (more : List Char) :
    (cs ++ more).dropWhile (isSlash true) = cs.dropWhile (isSlash true) ++ more := by
  have hne : cs.dropWhile (isSlash true) ≠ [] := by
    intro hnil
    exact hcs (by rw [authorityText, hnil]; rfl)
  rw [List.dropWhile_append, if_neg (by simpa using hne)]

/-- Once there is a path, everything goes to it. -/
theorem pathText_append_of_ne_nil {cs : List Char} (hcs : authorityText cs ≠ [])
    (hpath : pathText cs ≠ []) (more : List Char) :
    authorityText (cs ++ more) = authorityText cs ∧
      pathText (cs ++ more) = pathText cs ++ more := by
  unfold pathText at hpath ⊢
  unfold authorityText
  rw [dropWhile_isSlash_append hcs, List.dropWhile_append, if_neg (by simpa using hpath),
    List.takeWhile_append, if_neg]
  · exact ⟨rfl, rfl⟩
  · intro hlength
    have hall := (List.takeWhile_prefix _).eq_of_length hlength
    exact hpath (List.dropWhile_eq_nil_iff.mpr (List.takeWhile_eq_self_iff.mp hall))

/-- As long as there is no path, what follows is divided as it would be behind any authority. -/
theorem authorityText_append {cs : List Char} (hcs : authorityText cs ≠ [])
    (hpath : pathText cs = []) (more : List Char) :
    authorityText (cs ++ more) = authorityText cs ++ more.takeWhile (!isSlash true ·) ∧
      pathText (cs ++ more) = more.dropWhile (!isSlash true ·) := by
  unfold pathText at hpath ⊢
  have hall := List.dropWhile_eq_nil_iff.mp hpath
  unfold authorityText
  rw [dropWhile_isSlash_append hcs, List.takeWhile_append_of_pos hall,
    List.dropWhile_append_of_pos hall, List.takeWhile_eq_self_iff.mpr hall]
  exact ⟨rfl, rfl⟩

/-- What starts with a slash, or is nothing, goes to the path. -/
theorem pathText_append {cs more : List Char} (hcs : authorityText cs ≠ [])
    (hmore : IsPath more) :
    authorityText (cs ++ more) = authorityText cs ∧
      pathText (cs ++ more) = pathText cs ++ more := by
  by_cases hpath : pathText cs = []
  · obtain ⟨hauthority, hrest⟩ := authorityText_append hcs hpath more
    rw [hauthority, hrest, hpath]
    rcases hmore with rfl | ⟨c, rest, rfl, hc⟩
    · exact ⟨List.append_nil _, rfl⟩
    · simp [hc]
  · exact pathText_append_of_ne_nil hcs hpath more

/-- There is no authority exactly if there are only slashes. -/
theorem authorityText_eq_nil_iff {cs : List Char} :
    authorityText cs = [] ↔ ∀ c ∈ cs, isSlash true c := by
  rw [← List.dropWhile_eq_nil_iff, authorityText]
  constructor
  · intro h
    -- What is left after the slashes does not start with one.
    cases hrest : cs.dropWhile (isSlash true) with
    | nil => rfl
    | cons c rest =>
      have hhead := List.head?_dropWhile_not (isSlash true) cs
      rw [hrest] at h hhead
      rw [List.takeWhile_cons_of_pos (by simpa using hhead)] at h
      cases h
  · intro h
    rw [h]
    rfl

/-- What follows a special scheme other than that of files is read as an authority and a path. -/
theorem ofBody_of_isSpecial (h : isSpecial scheme) (hfile : scheme ≠ "file") (atEnd : Bool)
    (cs : List Char) :
    ofBody scheme atEnd cs =
      (Authority.ofChars scheme true (authorityText cs)).map fun read =>
        (some read.1, .segments (segmentsOf true (pathText cs))) := by
  have hauthority : (cs.dropWhile (isSlash true)).takeWhile (!isSlash true ·) = authorityText cs :=
    rfl
  have hpath : (cs.dropWhile (isSlash true)).dropWhile (!isSlash true ·) = pathText cs := rfl
  unfold ofBody ofAuthority
  rw [if_neg hfile, if_pos h, h]
  simp only [List.span_eq_takeWhile_dropWhile, hauthority, hpath]
  rw [Authority.ofChars_congr h _ true]
  cases hread : Authority.ofChars scheme true (authorityText cs) with
  | error fault => rfl
  | ok read =>
    obtain ⟨a, rest⟩ := read
    obtain rfl := Authority.rest_of_ofChars h (notMem_authorityText rfl cs) hread
    simp [bind, Except.bind, Except.map]

/-! ### Query and fragment -/

/-- A text without the mark is not cut. -/
theorem cutAt_of_notMem {mark : Char} {cs : List Char} (h : mark ∉ cs) :
    cutAt mark cs = (cs, none) := by
  have hall := bne_of_notMem h
  rw [cutAt, List.span_eq_takeWhile_dropWhile, List.takeWhile_eq_self_iff.mpr hall,
    List.dropWhile_eq_nil_iff.mpr hall]

/-- A text is cut at its first mark. -/
theorem cutAt_append_cons {mark : Char} {before : List Char} (h : mark ∉ before)
    (after : List Char) : cutAt mark (before ++ mark :: after) = (before, some after) := by
  have hall := bne_of_notMem h
  rw [cutAt, List.span_eq_takeWhile_dropWhile, List.takeWhile_append_of_pos hall,
    List.dropWhile_append_of_pos hall]
  simp

/-- A text with the mark is cut there, whatever follows. -/
theorem cutAt_append_of_mem {mark : Char} {cs : List Char} (h : mark ∈ cs) :
    ∃ before after, ∀ more, cutAt mark (cs ++ more) = (before, some (after ++ more)) := by
  cases hdrop : cs.dropWhile (· != mark) with
  | nil => exact absurd (List.dropWhile_eq_nil_iff.mp hdrop mark h) (by simp)
  | cons c after =>
    refine ⟨cs.takeWhile (· != mark), after, fun more => ?_⟩
    have hlength : (cs.takeWhile (· != mark)).length ≠ cs.length := by
      intro hlength
      have hall := List.takeWhile_eq_self_iff.mp ((List.takeWhile_prefix _).eq_of_length hlength)
      rw [List.dropWhile_eq_nil_iff.mpr hall] at hdrop
      cases hdrop
    rw [cutAt, List.span_eq_takeWhile_dropWhile, List.takeWhile_append, if_neg hlength,
      List.dropWhile_append, hdrop]
    rfl

/-- What comes before the mark starts with a text that does not have it. -/
theorem cutAt_append_of_notMem {mark : Char} {cs : List Char} (h : mark ∉ cs) (more : List Char) :
    (cutAt mark (cs ++ more)).1 = cs ++ (cutAt mark more).1 := by
  have hfirst (cs : List Char) : (cutAt mark cs).1 = cs.takeWhile (· != mark) := by
    rw [cutAt, List.span_eq_takeWhile_dropWhile]
    cases cs.dropWhile (· != mark) <;> rfl
  rw [hfirst, hfirst, List.takeWhile_append_of_pos (bne_of_notMem h)]

/-- A text is cut exactly if it has the mark. -/
theorem cutAt_eq_none_iff {mark : Char} {cs : List Char} :
    (cutAt mark cs).2 = none ↔ mark ∉ cs := by
  constructor
  · intro hnone hmem
    obtain ⟨before, after, hcut⟩ := cutAt_append_of_mem hmem
    rw [← List.append_nil cs, hcut] at hnone
    cases hnone
  · intro h
    rw [cutAt_of_notMem h]

/-- What is written before the query and the fragment. -/
def bodyOf (cs : List Char) : List Char :=
  (cutAt '?' (cutAt '#' cs).1).1

/-- A text without marks is all before them. -/
theorem bodyOf_of_notMem {cs : List Char} (hquery : '?' ∉ cs) (hfragment : '#' ∉ cs) :
    bodyOf cs = cs := by
  rw [bodyOf, cutAt_of_notMem hfragment, cutAt_of_notMem hquery]

/-- Behind a mark nothing is written before it. -/
theorem bodyOf_append {cs : List Char} (h : '?' ∈ cs ∨ '#' ∈ cs) :
    ∃ body, ∀ more, bodyOf (cs ++ more) = body := by
  by_cases hfragment : '#' ∈ cs
  · obtain ⟨before, after, hcut⟩ := cutAt_append_of_mem hfragment
    exact ⟨(cutAt '?' before).1, fun more => by rw [bodyOf, hcut]⟩
  · obtain ⟨before, after, hcut⟩ := cutAt_append_of_mem (h.resolve_right hfragment)
    exact ⟨before, fun more => by rw [bodyOf, cutAt_append_of_notMem hfragment, hcut]⟩

/-! ### Scheme -/

/-- A scheme is read off the front of a text, whatever follows its colon. -/
theorem scheme?_eq_some {cs rest : List Char} (h : scheme? cs = some (scheme, rest)) :
    ∃ name, cs = name ++ ':' :: rest ∧
      ∀ rest', scheme? (name ++ ':' :: rest') = some (scheme, rest') := by
  rw [scheme?, List.span_eq_takeWhile_dropWhile] at h
  split at h
  · next c name rest' heq =>
    obtain ⟨hname, hrest⟩ := Prod.mk.inj heq
    split at h
    · next halpha =>
      obtain ⟨rfl, rfl⟩ := Prod.mk.inj (Option.some.inj h)
      -- A colon cannot stand in a scheme, so the name ends before it.
      have hall : ∀ d ∈ c :: name, inScheme d :=
        fun d hd => List.mem_takeWhile_imp (hname ▸ hd)
      refine ⟨c :: name, ?_, fun more => ?_⟩
      · rw [← hname, ← hrest, List.takeWhile_append_dropWhile]
      · have hcolon : inScheme ':' = false := by decide
        rw [scheme?, List.span_eq_takeWhile_dropWhile, List.takeWhile_append_of_pos hall,
          List.dropWhile_append_of_pos hall, List.takeWhile_cons_of_neg (by simp [hcolon]),
          List.dropWhile_cons_of_neg (by simp [hcolon])]
        simp [halpha]
    · cases h
  · cases h

/-! ### Whole addresses -/

section

variable {s : String} {u : Url} {rest : List Char}

/-- A text with a special scheme other than that of files is a URL if its authority is one. -/
theorem ofText_of_scheme (hscheme : scheme? (cleaned s) = some (scheme, rest))
    (h : isSpecial scheme) (hfile : scheme ≠ "file") :
    ofText s = (Authority.ofChars scheme true (authorityText (bodyOf rest))).map fun read =>
      { scheme
        authority := some read.1
        path := .segments (segmentsOf true (pathText (bodyOf rest)))
        query := (cutAt '?' (cutAt '#' rest).1).2.map (percentEncode (inQuerySet true))
        fragment := (cutAt '#' rest).2.map (percentEncode inFragmentSet) } := by
  rw [ofText, hscheme]
  simp only [ofBody_of_isSpecial h hfile, h]
  rw [← bodyOf]
  cases Authority.ofChars scheme true (authorityText (bodyOf rest)) <;> rfl

/-- A scheme is read off some text. -/
theorem cleaned_ne_nil (h : scheme? (cleaned s) = some (scheme, rest)) : cleaned s ≠ [] := by
  intro hnil
  rw [hnil] at h
  cases h

/-- The text of the URL of a host is a scheme, an authority, a path, and perhaps a query and a
fragment. -/
theorem exists_of_ofText (h : ofText s = .ok u) (hspecial : isSpecial u.scheme)
    (hfile : u.scheme ≠ "file") :
    ∃ rest read, scheme? (cleaned s) = some (u.scheme, rest) ∧
      Authority.ofChars u.scheme true (authorityText (bodyOf rest)) = .ok read ∧
      u.authority = some read.1 ∧
      u.path = .segments (segmentsOf true (pathText (bodyOf rest))) ∧
      u.query = (cutAt '?' (cutAt '#' rest).1).2.map (percentEncode (inQuerySet true)) ∧
      u.fragment = (cutAt '#' rest).2.map (percentEncode inFragmentSet) := by
  cases hscheme : scheme? (cleaned s) with
  | none =>
    rw [ofText, hscheme] at h
    cases h
  | some found =>
    obtain ⟨scheme, rest⟩ := found
    -- It is only known of the scheme of the URL that it is special, so that is the one that has to
    -- be read.
    have hsame : u.scheme = scheme := by
      rw [ofText, hscheme] at h
      simp only at h
      cases hbody : ofBody scheme ((cutAt '?' (cutAt '#' rest).1).2.isNone &&
        (cutAt '#' rest).2.isNone)
          (cutAt '?' (cutAt '#' rest).1).1 with
      | error fault =>
        rw [hbody] at h
        cases h
      | ok body =>
        rw [hbody] at h
        obtain rfl := Except.ok.inj h
        rfl
    subst hsame
    rw [ofText_of_scheme hscheme hspecial hfile] at h
    cases hread : Authority.ofChars u.scheme true (authorityText (bodyOf rest)) with
    | error fault =>
      rw [hread] at h
      cases h
    | ok read =>
      rw [hread] at h
      have hu := (Except.ok.inj h).symm
      exact ⟨rest, read, rfl, hread, congrArg Url.authority hu, congrArg Url.path hu,
        congrArg Url.query hu, congrArg Url.fragment hu⟩

/-- The URL of a host has one. -/
theorem isSome_host?_of_ofText (h : ofText s = .ok u) (hspecial : isSpecial u.scheme)
    (hfile : u.scheme ≠ "file") : u.host?.isSome := by
  obtain ⟨rest, read, -, hread, hauthority, -⟩ := exists_of_ofText h hspecial hfile
  rw [host?, hauthority, Option.bind_some, if_neg (Authority.host_ne_of_ofChars hspecial hread)]
  rfl

/-- An address has neither query nor fragment if there is no mark in it. -/
theorem unmarked_iff (rest : List Char) :
    (cutAt '?' (cutAt '#' rest).1).2 = none ∧ (cutAt '#' rest).2 = none ↔
      '?' ∉ rest ∧ '#' ∉ rest := by
  rw [cutAt_eq_none_iff, cutAt_eq_none_iff]
  refine and_congr_left fun hfragment => ?_
  rw [cutAt_of_notMem hfragment]

/-- A text without marks behind a special scheme is a URL with neither query nor fragment. -/
theorem ofText_of_unmarked (hscheme : scheme? (cleaned s) = some (scheme, rest))
    (h : isSpecial scheme) (hfile : scheme ≠ "file") (hrest : '?' ∉ rest ∧ '#' ∉ rest) :
    ofText s = (Authority.ofChars scheme true (authorityText rest)).map fun read =>
      { scheme
        authority := some read.1
        path := .segments (segmentsOf true (pathText rest))
        query := none
        fragment := none } := by
  obtain ⟨hquery, hfragment⟩ := (unmarked_iff rest).mpr hrest
  rw [ofText_of_scheme hscheme h hfile, bodyOf_of_notMem hrest.1 hrest.2, hquery, hfragment]
  rfl

/-- The text of the URL of a host without query and fragment has no marks behind the scheme. -/
theorem exists_of_ofText_of_unmarked (h : ofText s = .ok u) (hspecial : isSpecial u.scheme)
    (hfile : u.scheme ≠ "file") (hquery : u.query = none) (hfragment : u.fragment = none) :
    ∃ rest read, scheme? (cleaned s) = some (u.scheme, rest) ∧
      ('?' ∉ rest ∧ '#' ∉ rest) ∧
      Authority.ofChars u.scheme true (authorityText rest) = .ok read ∧
      u.authority = some read.1 ∧ u.path = .segments (segmentsOf true (pathText rest)) := by
  obtain ⟨rest, read, hscheme, hread, hauthority, hpath, hquery', hfragment'⟩ :=
    exists_of_ofText h hspecial hfile
  rw [hquery, eq_comm, Option.map_eq_none_iff] at hquery'
  rw [hfragment, eq_comm, Option.map_eq_none_iff] at hfragment'
  have hunmarked := (unmarked_iff rest).mp ⟨hquery', hfragment'⟩
  rw [bodyOf_of_notMem hunmarked.1 hunmarked.2] at hread hpath
  exact ⟨rest, read, hscheme, hunmarked, hread, hauthority, hpath⟩

end

end NewsReader.Url
