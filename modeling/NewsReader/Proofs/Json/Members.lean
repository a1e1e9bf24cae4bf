import NewsReader.Proofs.Json.Written

/-!
# Objects with any members

A record says which members it has. Here an object is read as it stands, without knowing the names
of its members: the answer is all of them, each with its name, in the order in which they are
written. So what is read in this way says what an object has and that it has nothing else.

* `Reader.object` — the reader.
* `Reader.members_laterMembers` — the run: all members are read.
* `Reader.reads_object` — a written object is read back.
-/

namespace NewsReader.Json

namespace Reader

variable {α : Type}

/-- Read the value of a member whose key has been read. -/
def keyed (item : Reader α) (s : List Char) : Except Fault (α × List Char) :=
  match readColon s with
  | .error fault => .error fault
  | .ok s => item.run s

theorem length_of_keyed {item : Reader α} {s rest : List Char} {a : α}
    (h : item.keyed s = .ok (a, rest)) : rest.length < s.length := by
  unfold keyed at h
  split at h
  · cases h
  · next s' hcolon =>
    have := length_of_readColon hcolon
    have := item.length_lt h
    omega

/-- Read members up to the end of the object, and not the end itself. -/
def members (item : Reader α) (first : Bool) (s : List Char) :
    Except Fault (List (String × α) × List Char) :=
  match _h : nextKey first s with
  | .error fault => .error fault
  | .ok none => .ok ([], s)
  | .ok (some (key, s')) =>
    match _h' : item.keyed s' with
    | .error fault => .error fault
    | .ok (a, rest) =>
      (item.members false rest).map fun (ms, rest) => ((String.ofList key, a) :: ms, rest)
termination_by s.length
decreasing_by
  have := length_of_nextKey _h
  have := length_of_keyed _h'
  omega

theorem length_of_members {item : Reader α} {first : Bool} {s rest : List Char}
    {ms : List (String × α)} (h : item.members first s = .ok (ms, rest)) :
    rest.length ≤ s.length := by
  fun_induction members item first s generalizing ms rest with
  | case1 => contradiction
  | case2 => simp_all
  | case3 => contradiction
  | case4 first s key s' hkey a r hvalue ih =>
    have := length_of_nextKey hkey
    have := length_of_keyed hvalue
    obtain ⟨later, hlater, heq⟩ := exists_of_map_eq_ok h
    obtain ⟨-, rfl⟩ := Prod.mk.inj heq
    have := ih hlater
    omega

/-- Read an object, with all members that it has. -/
def object (item : Reader α) : Reader (List (String × α)) where
  run s :=
    match skipSpace s with
    | '\x7b' :: s =>
      match item.members true s with
      | .error fault => .error fault
      | .ok (ms, s) => (endObject s).map (ms, ·)
    | s => .error (otherKind "a map" s)
  length_lt {s rest ms} h := by
    have hle := length_skipSpace_le s
    split at h
    · next hs =>
      rw [hs, List.length_cons] at hle
      split at h
      · contradiction
      · next s'' hmembers =>
        have := length_of_members hmembers
        cases hend : endObject s'' with
        | error => simp [hend, Except.map] at h
        | ok r =>
          simp only [hend, Except.map, Except.ok.injEq, Prod.mk.injEq] at h
          have := length_of_endObject hend
          rw [← h.2]
          omega
    · contradiction

/-! ### Written objects -/

section

variable {item : Reader α}

/-- Reading ends where no key is found. -/
theorem members_of_end {first : Bool} {s : List Char} (hend : nextKey first s = .ok none) :
    item.members first s = .ok ([], s) := by
  rw [members]
  split <;> simp_all

/-- Reading goes on after a member. -/
theorem members_of_member {first : Bool} {s s' rest key : List Char} {a : α}
    (hkey : nextKey first s = .ok (some (key, s'))) (hvalue : item.keyed s' = .ok (a, rest)) :
    item.members first s =
      (item.members false rest).map fun (ms, rest) => ((String.ofList key, a) :: ms, rest) := by
  rw [members]
  -- As for the fields of a record, the equations of the matches are in the way of rewriting.
  split
  · simp_all
  · simp_all
  · next key' s'' hkey' =>
    rw [hkey] at hkey'
    obtain ⟨rfl, rfl⟩ := Prod.mk.inj (Option.some.inj (Except.ok.inj hkey'))
    split
    · simp_all
    · next b rest' hvalue' =>
      rw [hvalue] at hvalue'
      obtain ⟨rfl, rfl⟩ := Prod.mk.inj (Except.ok.inj hvalue')
      rfl

variable {l : Layout} {json : α → Value}

/-- A written value is read after its colon. -/
theorem keyed_member {a : α} (h : item.Reads (l.print (json a)) a) {rest : List Char}
    (hrest : Delimited rest) :
    item.keyed (':' :: (l.gap ++ (l.print (json a) ++ rest))) = .ok (a, rest) := by
  have hcolon : readColon (':' :: (l.gap ++ (l.print (json a) ++ rest))) =
      .ok (l.gap ++ (l.print (json a) ++ rest)) := by
    simp only [readColon, skipSpace_cons (c := ':') rfl]
  simp only [keyed, hcolon]
  exact h _ _ l.gap_blank hrest

/-- The members that are left are read. -/
theorem members_laterMembers {ms : List (String × α)}
    (h : ∀ m ∈ ms, item.Reads (l.print (json m.2)) m.2) (rest : List Char) :
    item.members false
      (l.laterMembers (ms.map fun m => (m.1, json m.2)) ++ (l.foot ++ '\x7d' :: rest)) =
      .ok (ms, l.foot ++ '\x7d' :: rest) := by
  induction ms with
  | nil => exact members_of_end (nextKey_close l.foot_blank false rest)
  | cons m ms ih =>
    obtain ⟨name, a⟩ := m
    have hlater := l.delimited_laterMembers (ms.map fun m => (m.1, json m.2)) rest
    -- The text starts with a comma now, and what follows the member delimits it.
    have htext : l.laterMembers (((name, a) :: ms).map fun m => (m.1, json m.2)) ++
        (l.foot ++ '\x7d' :: rest) = ',' :: (l.member (name, json a) ++
          (l.laterMembers (ms.map fun m => (m.1, json m.2)) ++ (l.foot ++ '\x7d' :: rest))) := by
      simp [Layout.laterMembers]
    rw [htext, members_of_member (Fields.nextKey_comma l (name, json a) _)
      (keyed_member (h _ List.mem_cons_self) hlater),
      ih fun m hm => h m (List.mem_cons_of_mem _ hm)]
    simp [Except.map]

/-- A written object is read back, if the values of its members are. -/
theorem reads_object {ms : List (String × α)}
    (h : ∀ m ∈ ms, item.Reads (l.print (json m.2)) m.2) :
    item.object.Reads (l.object (ms.map fun m => (m.1, json m.2))) ms := by
  intro blanks rest hblanks _
  have hopen : skipSpace (blanks ++ (l.object (ms.map fun m => (m.1, json m.2)) ++ rest)) =
      '\x7b' :: (l.members (ms.map fun m => (m.1, json m.2)) ++ (l.foot ++ '\x7d' :: rest)) := by
    rw [skipSpace_append hblanks]
    simp [Layout.object, skipSpace_cons (c := '\x7b') rfl]
  have hmembers : item.members true
      (l.members (ms.map fun m => (m.1, json m.2)) ++ (l.foot ++ '\x7d' :: rest)) =
      .ok (ms, l.foot ++ '\x7d' :: rest) := by
    cases ms with
    | nil => exact members_of_end (nextKey_close l.foot_blank true rest)
    | cons m ms =>
      -- The first member has no comma before it, so it is none of those that `members_laterMembers`
      -- is about.
      obtain ⟨name, a⟩ := m
      have hlater := l.delimited_laterMembers (ms.map fun m => (m.1, json m.2)) rest
      have hkey := nextKey_textChars l.lead_blank name (':' :: (l.gap ++ (l.print (json a) ++
        (l.laterMembers (ms.map fun m => (m.1, json m.2)) ++ (l.foot ++ '\x7d' :: rest)))))
      have htext : l.members (((name, a) :: ms).map fun m => (m.1, json m.2)) ++
          (l.foot ++ '\x7d' :: rest) =
          l.lead ++ (textChars name ++ ':' :: (l.gap ++ (l.print (json a) ++
            (l.laterMembers (ms.map fun m => (m.1, json m.2)) ++
              (l.foot ++ '\x7d' :: rest))))) := by
        simp [Layout.members, Layout.member]
      rw [htext, members_of_member hkey (keyed_member (h _ List.mem_cons_self) hlater),
        members_laterMembers fun m hm => h m (List.mem_cons_of_mem _ hm)]
      simp [Except.map]
  simp only [object, hopen, hmembers, endObject_close l.foot_blank rest, Except.map]

end

end Reader

/-- The members of an object whose values are strings. -/
def textMembers (s : String) : Except Fault (List (String × String)) :=
  (Reader.text "a string").object.decode s

/-- An object of strings that is written without blanks is read back, whatever the names and the
strings are. -/
theorem textMembers_compact (ms : List (String × String)) :
    textMembers (Value.object (ms.map fun m => (m.1, .text m.2))).compact = .ok ms := by
  rw [Value.compact, Layout.compact_object]
  exact Reader.decode_of_reads (Reader.reads_object fun m _ => Layout.reads_text _ m.2)

end NewsReader.Json
