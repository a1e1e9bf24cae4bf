import NewsReader.Proofs.Url.Extended
import NewsReader.Proofs.Url.Hosts

/-!
# Written URLs

An authority that was read in a special scheme is read where it is written, with the same user, host
and port, and so is a URL with such an authority whose path needs nothing done to it. The marks
between the parts of an authority are not left in any part where they would count.

* `Authority.IsRead`, `Authority.isRead_of_ofChars` — the authorities that are read.
* `Authority.IsRead.ofChars_chars` — each of them is read where it is written.
* `ofText_text` — a URL with such an authority is read where it is written.
-/

namespace NewsReader.Url

open Text (isDigit numberOf)

/-! ### Users -/

/-- A character that stands as it is in a user's name and password. -/
def isUserChar (c : Char) : Bool :=
  !inUserSet c && c.toNat < 0x80

/-- What stands as it is stays as it is. -/
theorem percentEncode_of_isUserChar {cs : List Char} (h : ∀ c ∈ cs, isUserChar c) :
    percentEncode inUserSet cs = cs := by
  have hkept : ∀ c ∈ cs,
      (if inUserSet c || 0x80 ≤ c.toNat then percentChar c else [c]) = [c] := by
    intro c hc
    have hchar := h c hc
    simp only [isUserChar, Bool.and_eq_true, Bool.not_eq_true', decide_eq_true_eq] at hchar
    rw [if_neg]
    simp [hchar.1, Nat.not_le_of_lt hchar.2]
  rw [percentEncode, List.flatMap_congr hkept]
  exact List.flatMap_singleton' cs

/-- All that is written of a user stands as it is. -/
theorem isUserChar_of_mem_percentEncode {cs : List Char} {c : Char}
    (h : c ∈ percentEncode inUserSet cs) : isUserChar c := by
  obtain ⟨d, -, hmem⟩ := List.mem_flatMap.mp h
  split at hmem
  · -- What is encoded is written in percent signs and digits, and these are not encoded again.
    have hdigits : ∀ n : Fin 16, isUserChar (Nat.digitChar n).toUpper := by decide
    rcases mem_percentChar hmem with rfl | ⟨n, hn, rfl⟩
    · decide
    · exact hdigits ⟨n, hn⟩
  · next hkept =>
    rw [List.mem_singleton.mp hmem]
    simpa [isUserChar] using hkept

/-- Something is written of every character. -/
theorem percentEncode_cons_ne_nil (c : Char) (cs : List Char) :
    percentEncode inUserSet (c :: cs) ≠ [] := by
  have hbytes : percentChar c ≠ [] := by
    obtain ⟨b, bs, hcons, -⟩ := Text.decodeFirst_encodeChar c
    rw [percentChar, hcons]
    exact List.cons_ne_nil _ _
  rw [percentEncode, List.flatMap_cons]
  split <;> simp [hbytes]

/-- An authority that is read in a special scheme. -/
structure Authority.IsRead (scheme : String) (a : Authority) : Prop where
  /-- The user's name stands as it is. -/
  user : ∀ c ∈ a.user, isUserChar c
  /-- There is no empty password, and a password stands as it is. -/
  password : ∀ p ∈ a.password, p ≠ [] ∧ ∀ c ∈ p, isUserChar c
  /-- The host is one that is read. -/
  host : a.host.IsRead
  /-- The port is a number of two bytes, other than the one that the scheme means. -/
  port : ∀ p ∈ a.port, p ≤ 65535 ∧ some p ≠ defaultPort? scheme

/-- What is read of a user stands as it is. -/
theorem userOf_spec (cs : List Char) :
    (∀ c ∈ (userOf cs).1, isUserChar c) ∧
      ∀ p ∈ (userOf cs).2, p ≠ [] ∧ ∀ c ∈ p, isUserChar c := by
  refine ⟨fun c => isUserChar_of_mem_percentEncode, fun p hp => ?_⟩
  obtain ⟨password, hpassword, rfl⟩ := Option.map_eq_some_iff.mp hp
  obtain ⟨raw, -, hraw⟩ := Option.bind_eq_some_iff.mp hpassword
  refine ⟨?_, fun c => isUserChar_of_mem_percentEncode⟩
  split at hraw
  · cases hraw
  · next hne =>
    obtain rfl := Option.some.inj hraw
    obtain ⟨c, cs, rfl⟩ := List.exists_cons_of_ne_nil (mt List.isEmpty_iff.mpr hne)
    exact percentEncode_cons_ne_nil c cs

/-- A name is read as itself, and so are a name and a password with a colon between them. -/
theorem userOf_of_isUserChar {name : List Char} (hname : ∀ c ∈ name, isUserChar c) :
    userOf name = (name, none) ∧
      ∀ p, p ≠ [] → (∀ c ∈ p, isUserChar c) →
        userOf (name ++ ':' :: p) = (name, some p) := by
  have hcolon : ':' ∉ name := fun hmem => absurd (hname ':' hmem) (by decide)
  constructor
  · simp [userOf, cutAt_of_notMem hcolon, percentEncode_of_isUserChar hname]
  · intro p hne hp
    simp [userOf, cutAt_append_cons hcolon, hne, percentEncode_of_isUserChar hname,
      percentEncode_of_isUserChar hp]

namespace Authority.IsRead

variable {scheme : String} {a : Authority}

/-- A written user is empty, or it is a text that is read as the user, with a mark behind it. -/
theorem userChars_cases (h : a.IsRead scheme) :
    (a.user = [] ∧ a.password = none ∧ a.userChars = []) ∨
      ∃ front, a.userChars = front ++ ['@'] ∧ userOf front = (a.user, a.password) := by
  obtain ⟨user, password, host, port⟩ := a
  obtain ⟨hname, hboth⟩ := userOf_of_isUserChar h.user
  cases password with
  | none =>
    cases user with
    | nil => exact .inl ⟨rfl, rfl, rfl⟩
    | cons c user => exact .inr ⟨c :: user, rfl, hname⟩
  | some password =>
    obtain ⟨hne, hpassword⟩ := h.password password rfl
    refine .inr ⟨user ++ ':' :: password, ?_, hboth password hne hpassword⟩
    cases user <;> rfl

/-- A written user is taken off the front of an authority. -/
theorem cutAtLast_userChars (h : a.IsRead scheme) {rest : List Char} (hrest : '@' ∉ rest) :
    ((cutAtLast '@' (a.userChars ++ rest)).1.map userOf).getD ([], none) = (a.user, a.password) ∧
      (cutAtLast '@' (a.userChars ++ rest)).2 = rest := by
  rw [cutAtLast_append hrest]
  rcases h.userChars_cases with ⟨huser, hpassword, hchars⟩ | ⟨front, hchars, hread⟩
  · rw [hchars, huser, hpassword]
    exact ⟨rfl, rfl⟩
  · have hcut : cutAtLast '@' (front ++ ['@']) = (some front, []) := by simp [cutAtLast]
    rw [hchars, hcut]
    exact ⟨hread, rfl⟩

end Authority.IsRead

/-! ### Hosts and ports -/

/-- Characters other than brackets are passed over, and colons between brackets too. -/
theorem cutPort_append_of_forall {inBrackets : Bool} {cs : List Char}
    (h : ∀ c ∈ cs, c ≠ '[' ∧ c ≠ ']' ∧ (c = ':' → inBrackets)) (more : List Char) :
    cutPort inBrackets (cs ++ more) =
      (cs ++ (cutPort inBrackets more).1, (cutPort inBrackets more).2) := by
  induction cs with
  | nil => rfl
  | cons c cs ih =>
    obtain ⟨⟨hopen, hclose, hcolon⟩, hcs⟩ := List.forall_mem_cons.mp h
    -- A colon does not start a port here, since it stands between brackets.
    have hgo : ¬(c = ':' ∧ !inBrackets) := by
      rintro ⟨rfl, hnot⟩
      rw [hcolon rfl] at hnot
      cases hnot
    rw [List.cons_append, cutPort, if_neg hgo, if_neg hopen, if_neg hclose, ih hcs]
    rfl

/-- A host and a port are taken apart where they were put together. -/
theorem Host.IsRead.cutPort_chars {host : Host} (h : host.IsRead) (port : Option Nat) :
    cutPort false (host.chars ++ portChars port) = (host.chars, port.map decimal) := by
  have hport : cutPort false (portChars port) = ([], port.map decimal) := by cases port <;> rfl
  rcases h.chars_cases with hchars | ⟨inner, hchars, hinner⟩
  · -- Neither a name nor an address of four bytes has a colon in it.
    have hplain : ∀ c ∈ host.chars, c ≠ '[' ∧ c ≠ ']' ∧ (c = ':' → false) :=
      fun c hc => ⟨ne_of_isHostChar (hchars c hc) rfl, ne_of_isHostChar (hchars c hc) rfl,
        fun hcolon => absurd hcolon (ne_of_isHostChar (hchars c hc) rfl)⟩
    rw [cutPort_append_of_forall hplain, hport, List.append_nil]
  · have hplain : ∀ c ∈ inner, c ≠ '[' ∧ c ≠ ']' ∧ (c = ':' → true) := by
      intro c hc
      rcases hinner c hc with hchar | rfl
      · exact ⟨ne_of_isHostChar hchar rfl, ne_of_isHostChar hchar rfl, fun _ => rfl⟩
      · decide
    -- Behind the closing bracket a colon counts again.
    have hclosed : cutPort true (']' :: portChars port) = ([']'], port.map decimal) := by
      rw [cutPort, if_neg (by decide), if_neg (by decide), if_pos rfl, hport]
    rw [hchars, List.append_assoc, List.cons_append, cutPort, if_neg (by decide), if_pos rfl,
      List.singleton_append, cutPort_append_of_forall hplain, hclosed]
    rfl

/-- A port that is read is a number of two bytes, other than the one that the scheme means. -/
theorem portOf_spec {scheme : String} {digits : Option (List Char)} {port : Option Nat}
    (h : portOf scheme digits = .ok port) :
    ∀ p ∈ port, p ≤ 65535 ∧ some p ≠ defaultPort? scheme := by
  unfold portOf at h
  rintro p rfl
  split at h
  · cases h
  · split at h
    · next hlimit =>
      split at h
      · cases h
      · next hother =>
        obtain rfl := Option.some.inj (Except.ok.inj h)
        exact ⟨hlimit.2, fun hmeant => hother (.inr hmeant)⟩
    · cases h

/-- The digits of such a number are read as the port. -/
theorem portOf_decimal {scheme : String} {port : Option Nat}
    (h : ∀ p ∈ port, p ≤ 65535 ∧ some p ≠ defaultPort? scheme) :
    portOf scheme (port.map decimal) = .ok port := by
  cases port with
  | none => rfl
  | some p =>
    obtain ⟨hlimit, hother⟩ := h p rfl
    have hdigits : (decimal p).all isDigit :=
      List.all_eq_true.mpr fun c hc => Text.isDigit_of_mem_toDigits hc
    have hnumber : numberOf (decimal p) = p := Text.numberOf_toDigits p
    have hne : decimal p ≠ [] := Nat.toDigits_ne_nil
    simp [portOf, hdigits, hnumber, hlimit, hother, hne]

/-! ### Authorities -/

/-- What is written of a user: its name, its password, and two marks. -/
theorem mem_userChars {a : Authority} {c : Char} (h : c ∈ a.userChars) :
    c ∈ a.user ∨ (∃ p ∈ a.password, c ∈ p) ∨ c = '@' ∨ c = ':' := by
  obtain ⟨user, password, host, port⟩ := a
  cases password with
  | none =>
    cases user with
    | nil => cases h
    | cons d user =>
      rcases List.mem_append.mp h with huser | hmark
      · exact .inl huser
      · exact .inr (.inr (.inl (List.mem_singleton.mp hmark)))
  | some password =>
    have hchars : (⟨user, some password, host, port⟩ : Authority).userChars =
        user ++ ':' :: password ++ ['@'] := by
      cases user <;> rfl
    rw [hchars] at h
    simp only [List.mem_append, List.mem_cons, List.not_mem_nil, or_false] at h
    rcases h with (huser | rfl | hpassword) | rfl
    · exact .inl huser
    · exact .inr (.inr (.inr rfl))
    · exact .inr (.inl ⟨password, rfl, hpassword⟩)
    · exact .inr (.inr (.inl rfl))

/-- A character that is written in an authority: no blank, and no mark that an authority ends at. -/
def isAuthorityChar (c : Char) : Bool :=
  0x20 < c.toNat && !(['#', '/', '?', '\\'].contains c)

/-- Such a character is visible, and it is neither a mark nor a slash. -/
theorem isAuthorityChar_iff {c : Char} :
    isAuthorityChar c ↔
      0x20 < c.toNat ∧ c ≠ '?' ∧ c ≠ '#' ∧ isSlash true c = false := by
  simp [isAuthorityChar, isSlash]
  tauto

/-- What stands as it is in a user is such a character. -/
theorem isAuthorityChar_of_isUserChar {c : Char} (h : isUserChar c) : isAuthorityChar c := by
  have hall : ∀ n : Fin 128, isUserChar (Char.ofNat n) → isAuthorityChar (Char.ofNat n) := by
    decide +kernel
  have hlt : c.toNat < 0x80 := by
    simp only [isUserChar, Bool.and_eq_true, decide_eq_true_eq] at h
    exact h.2
  have hchar := hall ⟨c.toNat, hlt⟩
  rw [Char.ofNat_toNat] at hchar
  exact hchar h

/-- What stands as it is in a host is such a character, and it is not the mark behind a user. -/
theorem isAuthorityChar_of_isHostChar {c : Char} (h : isHostChar c) :
    isAuthorityChar c ∧ c ≠ '@' := by
  have hall : ∀ n : Fin 128, isHostChar (Char.ofNat n) → isAuthorityChar (Char.ofNat n) := by
    decide +kernel
  have hlt : c.toNat < 0x80 := by
    simp only [isHostChar, Bool.and_eq_true, decide_eq_true_eq] at h
    exact h.1.1.1
  have hchar := hall ⟨c.toNat, hlt⟩
  rw [Char.ofNat_toNat] at hchar
  exact ⟨hchar h, ne_of_isHostChar h rfl⟩

namespace Authority

variable {scheme : String} {a : Authority}

/-- No other authority is read. -/
theorem isRead_of_ofChars (h : isSpecial scheme) {atEnd : Bool} {cs : List Char}
    {r : Authority × List Char} (hread : ofChars scheme atEnd cs = .ok r) : r.1.IsRead scheme := by
  rw [ofChars_of_isSpecial h] at hread
  split at hread
  · cases hread
  · next host hhost =>
    cases hport :
      portOf scheme ((cutPort false (cutAtLast '@' cs).2).2.map (·.takeWhile (· != '\\'))) with
    | error fault => simp [hport, Except.map] at hread
    | ok port =>
      rw [hport] at hread
      obtain rfl := Except.ok.inj hread
      -- Without a user there are no characters of one.
      have huser : (∀ c ∈ (((cutAtLast '@' cs).1.map userOf).getD ([], none)).1,
          isUserChar c) ∧
          ∀ p ∈ (((cutAtLast '@' cs).1.map userOf).getD ([], none)).2, p ≠ [] ∧
            ∀ c ∈ p, isUserChar c := by
        cases (cutAtLast '@' cs).1 with
        | none => simp
        | some user => exact userOf_spec user
      exact ⟨huser.1, huser.2, Host.isRead_of_ofChars hhost, portOf_spec hport⟩

namespace IsRead

/-- The characters behind the user in a written authority. -/
theorem isAuthorityChar_of_mem (h : a.IsRead scheme) {c : Char}
    (hc : c ∈ a.host.chars ++ portChars a.port) : isAuthorityChar c ∧ c ≠ '@' := by
  rcases List.mem_append.mp hc with hhost | hport
  · -- A host is characters of names, or an address with colons in brackets.
    rcases h.host.chars_cases with hchars | ⟨inner, hchars, hinner⟩
    · exact isAuthorityChar_of_isHostChar (hchars c hhost)
    · rw [hchars, List.cons_append, List.mem_cons, List.mem_append, List.mem_singleton] at hhost
      rcases hhost with rfl | hmem | rfl
      · decide
      · rcases hinner c hmem with hchar | rfl
        · exact isAuthorityChar_of_isHostChar hchar
        · decide
      · decide
  · cases hsome : a.port with
    | none =>
      rw [hsome] at hport
      cases hport
    | some p =>
      rw [hsome] at hport
      rcases List.mem_cons.mp hport with rfl | hdigit
      · decide
      · obtain ⟨d, hd, rfl⟩ := mem_decimal hdigit
        exact isAuthorityChar_of_isHostChar (digitChar_spec (by omega)).1

/-- No blank is written in an authority, and no mark that it ends at. -/
theorem isAuthorityChar_chars (h : a.IsRead scheme) : ∀ c ∈ a.chars, isAuthorityChar c := by
  have hmark : isAuthorityChar '@' ∧ isAuthorityChar ':' := by decide
  intro c hc
  rw [chars, List.append_assoc] at hc
  rcases List.mem_append.mp hc with huser | hrest
  · rcases mem_userChars huser with hmem | ⟨p, hp, hmem⟩ | rfl | rfl
    · exact isAuthorityChar_of_isUserChar (h.user c hmem)
    · exact isAuthorityChar_of_isUserChar ((h.password p hp).2 c hmem)
    · exact hmark.1
    · exact hmark.2
  · exact (h.isAuthorityChar_of_mem hrest).1

/-- An authority that is read is read where it is written. -/
theorem ofChars_chars (h : a.IsRead scheme) (hspecial : isSpecial scheme) (atEnd : Bool) :
    ofChars scheme atEnd a.chars = .ok (a, []) := by
  have hrest : ∀ c ∈ a.host.chars ++ portChars a.port, c ≠ '\\' ∧ c ≠ '@' := by
    intro c hc
    obtain ⟨hchar, hmark⟩ := h.isAuthorityChar_of_mem hc
    refine ⟨?_, hmark⟩
    rintro rfl
    cases hchar
  -- The user ends at the last mark, since there is none in the host and none in the port.
  obtain ⟨huser, hafter⟩ := h.cutAtLast_userChars fun hmem => (hrest _ hmem).2 rfl
  have hport : (a.port.map decimal).map (·.takeWhile (· != '\\')) = a.port.map decimal := by
    cases hsome : a.port with
    | none => rfl
    | some p =>
      refine congrArg some (List.takeWhile_eq_self_iff.mpr (bne_of_notMem fun hmem => ?_))
      refine (hrest '\\' ?_).1 rfl
      rw [hsome]
      exact List.mem_append_right _ (List.mem_cons_of_mem _ hmem)
  have hleft : (a.host.chars ++ portChars a.port).dropWhile (· != '\\') = [] :=
    List.dropWhile_eq_nil_iff.mpr (bne_of_notMem fun hmem => (hrest _ hmem).1 rfl)
  rw [ofChars_of_isSpecial hspecial, chars, List.append_assoc, hafter, huser, h.host.cutPort_chars,
    h.host.ofChars_chars]
  simp only [hport, portOf_decimal h.port, hleft]
  rfl

end IsRead

end Authority

/-! ### Whole URLs -/

/-- A text without blanks counts as it is. -/
theorem cleaned_of_visible {s : String} (h : ∀ c ∈ s.toList, 0x20 < c.toNat) :
    cleaned s = s.toList := by
  have hedge {c : Char} (hc : c ∈ s.toList) : isEdge c = false :=
    decide_eq_false (Nat.not_le_of_lt (h c hc))
  have hfront : s.toList.dropWhile isEdge = s.toList := by
    cases hlist : s.toList with
    | nil => rfl
    | cons c cs =>
      exact List.dropWhile_cons_of_neg
        (by simp [hedge (hlist ▸ List.mem_cons_self : c ∈ s.toList)])
  have hback : s.toList.rdropWhile isEdge = s.toList :=
    List.rdropWhile_eq_self_iff.mpr fun hne => by simp [hedge (List.getLast_mem hne)]
  rw [cleaned_eq, hfront, hback]
  exact List.filter_eq_self.mpr fun c hc => isKept_of_lt (h c hc)

/-- The special schemes. -/
theorem mem_of_isSpecial {scheme : String} (h : isSpecial scheme) :
    scheme ∈ ["http", "ws", "https", "wss", "ftp", "file"] := by
  by_contra hnot
  simp only [List.mem_cons, List.not_mem_nil, or_false, not_or] at hnot
  simp [isSpecial, defaultPort?, hnot] at h

/-- A special scheme is taken off the front of a text, and it has no blanks. -/
theorem scheme?_of_isSpecial {scheme : String} (h : isSpecial scheme) (rest : List Char) :
    scheme? (scheme.toList ++ ':' :: rest) = some (scheme, rest) ∧
      ∀ c ∈ scheme.toList, 0x20 < c.toNat := by
  have hall : ∀ scheme ∈ ["http", "ws", "https", "wss", "ftp", "file"],
      scheme? (scheme.toList ++ [':']) = some (scheme, []) ∧
        scheme.toList.all (0x20 < ·.toNat) := by decide +kernel
  -- It is enough to take the scheme off alone, since nothing behind the colon is looked at.
  obtain ⟨halone, hvisible⟩ := hall scheme (mem_of_isSpecial h)
  obtain ⟨name, hname, hmore⟩ := scheme?_eq_some halone
  rw [List.append_cancel_right hname]
  exact ⟨hmore rest, by simpa [← List.append_cancel_right hname] using hvisible⟩

/-- An authority behind two slashes, with a path behind it. -/
theorem authorityText_slashes {cs more : List Char} (hne : cs ≠ [])
    (hcs : ∀ c ∈ cs, isSlash true c = false) (hmore : IsPath more) :
    authorityText ('/' :: '/' :: cs ++ more) = cs ∧
      pathText ('/' :: '/' :: cs ++ more) = more := by
  have hslash : isSlash true '/' = true := rfl
  have hfront : ('/' :: '/' :: cs).dropWhile (isSlash true) = cs := by
    obtain ⟨c, cs, rfl⟩ := List.exists_cons_of_ne_nil hne
    simp [hslash, hcs c List.mem_cons_self]
  have hall : ∀ c ∈ cs, (!isSlash true c) = true := fun c hc => by simp [hcs c hc]
  have hauthority : authorityText ('/' :: '/' :: cs) = cs := by
    rw [authorityText, hfront, List.takeWhile_eq_self_iff.mpr hall]
  have hpath : pathText ('/' :: '/' :: cs) = [] := by
    rw [pathText, hfront, List.dropWhile_eq_nil_iff.mpr hall]
  have hsome : authorityText ('/' :: '/' :: cs) ≠ [] := by rwa [hauthority]
  obtain ⟨hauthorities, hpaths⟩ := pathText_append hsome hmore
  rw [hauthorities, hpaths, hauthority, hpath]
  exact ⟨rfl, List.nil_append more⟩

/-- Behind the scheme there are neither blanks nor marks, in the authority and in the path. -/
theorem visible_of_mem {scheme : String} {a : Authority} {more : List Char}
    (hauthority : a.IsRead scheme) (hmore : IsPlain more) {c : Char}
    (hc : c ∈ '/' :: '/' :: a.chars ++ '/' :: more) :
    0x20 < c.toNat ∧ c ≠ '?' ∧ c ≠ '#' := by
  simp only [List.mem_append, List.mem_cons, List.cons_append] at hc
  rcases hc with rfl | rfl | hc | rfl | hc
  · decide
  · decide
  · obtain ⟨hvisible, hquery, hfragment, -⟩ :=
      isAuthorityChar_iff.mp (hauthority.isAuthorityChar_chars c hc)
    exact ⟨hvisible, hquery, hfragment⟩
  · decide
  · exact ⟨hmore.visible c hc, fun heq => hmore.unmarked.1 (heq ▸ hc),
      fun heq => hmore.unmarked.2.1 (heq ▸ hc)⟩

/-- A URL is read where it is written, if its authority was read and nothing has to be done to its
path. -/
theorem ofText_text {scheme : String} {a : Authority} {more : List Char}
    (hspecial : isSpecial scheme) (hfile : scheme ≠ "file") (hauthority : a.IsRead scheme)
    (hmore : IsPlain more) :
    let u : Url := ⟨scheme, some a, .segments (splitAtChar '/' more), none, none⟩
    ofText u.text = .ok u := by
  intro u
  have hpath : u.path.chars = '/' :: more := flatMap_splitAtChar '/' more
  have htext : u.text.toList = scheme.toList ++ ':' :: ('/' :: '/' :: a.chars ++ '/' :: more) := by
    simp [text, chars, hpath, authorityChars, marked, u]
  obtain ⟨hscheme, hvisible⟩ :=
    scheme?_of_isSpecial hspecial ('/' :: '/' :: a.chars ++ '/' :: more)
  have hbehind {c : Char} (hc : c ∈ '/' :: '/' :: a.chars ++ '/' :: more) :=
    visible_of_mem hauthority hmore hc
  have hcleaned : cleaned u.text = u.text.toList := by
    refine cleaned_of_visible fun c hc => ?_
    rw [htext, List.mem_append, List.mem_cons] at hc
    rcases hc with hc | rfl | hc
    · exact hvisible c hc
    · decide
    · exact (hbehind hc).1
  have hrest : '?' ∉ '/' :: '/' :: a.chars ++ '/' :: more ∧
      '#' ∉ '/' :: '/' :: a.chars ++ '/' :: more :=
    ⟨fun hmem => (hbehind hmem).2.1 rfl, fun hmem => (hbehind hmem).2.2 rfl⟩
  have hread := hauthority.ofChars_chars hspecial true
  have hslash : ∀ c ∈ a.chars, isSlash true c = false := fun c hc =>
    (isAuthorityChar_iff.mp (hauthority.isAuthorityChar_chars c hc)).2.2.2
  obtain ⟨hserver, hsegments⟩ := authorityText_slashes
    (Authority.ne_nil_of_ofChars hspecial hread) hslash
    (.inr ⟨'/', more, rfl, rfl⟩ : IsPath ('/' :: more))
  -- All of the text counts, so the layers are taken off as they were put on.
  rw [← htext, ← hcleaned] at hscheme
  rw [ofText_of_unmarked hscheme hspecial hfile hrest, hserver, hsegments, hread,
    hmore.segmentsOf_cons]
  rfl

end NewsReader.Url
