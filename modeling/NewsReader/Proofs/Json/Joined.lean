import NewsReader.Proofs.Json.Compound

/-!
# Lists put together from texts

Texts between brackets, with commas between them, make up the text of a list. If each of the texts
is decoded as a value, the list is decoded as these values: a text that is one tree is one element,
and its blanks are blanks of the list. With one text it is the other way round too. A list with one
element leaves nothing over but the element and blanks, so that the text between the brackets is
decoded as the element.

The second part takes the bracket off again. It rests on `Stands.of_append`: what a text goes on
with can be taken away from behind a phrase that stands there.

* `Reader.ReadsTrees.decode_joined` — lists of many texts.
* `Reader.ReadsTrees.decode_bracketed_iff` — lists of one text.
-/

namespace NewsReader.Json

variable {s s' rest more : List Char}

/-! ### Texts that go on -/

/-- If blanks are passed over in front of what a text goes on with, they are passed over without
it. -/
theorem skipSpace_of_append (h : skipSpace (s ++ more) = s' ++ more) : skipSpace s = s' := by
  rw [skipSpace, List.dropWhile_append, ← skipSpace] at h
  split at h
  · next hnone =>
    -- Nothing but blanks is there, so that no more can be left than what the text goes on with.
    have hlength := congrArg List.length h
    have hle := length_skipSpace_le more
    rw [skipSpace] at hle
    rw [List.length_append] at hlength
    obtain rfl : s' = [] := List.length_eq_zero_iff.mp (by omega)
    exact List.isEmpty_iff.mp hnone
  · exact List.append_cancel_right h

/-- If a character is found behind blanks, it is found without what the text goes on with. -/
theorem skipSpace_of_append_cons {c : Char} (h : skipSpace (s ++ more) = c :: (s' ++ more)) :
    skipSpace s = c :: s' :=
  skipSpace_of_append (h.trans (List.cons_append ..).symm)

/-- What is left after blanks is the end of the text. -/
theorem skipSpace_suffix (s : List Char) : skipSpace s <:+ s :=
  List.dropWhile_suffix isSpace

/-- A text whose end goes on with `more` goes on with it. -/
theorem exists_append_of_suffix (h : rest ++ more <:+ s) : ∃ s', s = s' ++ more := by
  obtain ⟨front, rfl⟩ := h
  exact ⟨front ++ rest, (List.append_assoc ..).symm⟩

/-- The next element or member is in the text. -/
theorem NextAt.suffix {first : Bool} (h : NextAt first s s') : s' <:+ s := by
  cases first with
  | true => exact (show s = s' from h) ▸ List.suffix_rfl
  | false =>
    have hcomma : skipSpace s = ',' :: s' := h
    exact (hcomma ▸ List.suffix_cons ..).trans (skipSpace_suffix s)

/-- The next element or member is at its place without what the text goes on with. -/
theorem NextAt.of_append {first : Bool} (h : NextAt first (s ++ more) (s' ++ more)) :
    NextAt first s s' := by
  cases first with
  | true => exact List.append_cancel_right (show s ++ more = s' ++ more from h)
  | false => exact skipSpace_of_append_cons h

namespace Stands

/-- What is left behind a phrase is the end of the text. -/
theorem suffix {p : Phrase} (h : Stands p s rest) : rest <:+ s := by
  -- A mark stands after blanks, and what is left is behind it.
  have hmark {s s' rest : List Char} {c : Char} (h : skipSpace s = c :: s')
      (hrest : rest <:+ s') : rest <:+ s :=
    hrest.trans ((h ▸ List.suffix_cons c s').trans (skipSpace_suffix s))
  have hquoted {raw s rest : List Char} (hrest : rest <:+ s) : rest <:+ raw ++ '"' :: s :=
    hrest.trans ((List.suffix_cons ..).trans (List.suffix_append ..))
  induction h with
  | word => exact List.suffix_append ..
  | number _ => exact List.suffix_append ..
  | text _ => exact (hquoted List.suffix_rfl).trans (List.suffix_cons ..)
  | list _ ih => exact ih.trans (List.suffix_cons ..)
  | object _ ih => exact ih.trans (List.suffix_cons ..)
  | endElements h => exact hmark h List.suffix_rfl
  | element hnext _ _ ihvalue ihlater =>
    exact (ihlater.trans ihvalue).trans ((skipSpace_suffix _).trans hnext.suffix)
  | endMembers h => exact hmark h List.suffix_rfl
  | member hnext hkey _ hcolon _ _ ihvalue ihlater =>
    have hafter := hmark hcolon ((ihlater.trans ihvalue).trans (skipSpace_suffix _))
    exact (hmark hkey (hquoted hafter)).trans hnext.suffix

/-- What a text goes on with can be taken away from behind a phrase that stands there. -/
theorem of_append {p : Phrase} (h : Stands p (s ++ more) (rest ++ more)) : Stands p s rest := by
  generalize htext : s ++ more = text at h
  generalize hleft : rest ++ more = left at h
  -- What is left after each part has what is left in the end behind it, so that it goes on in the
  -- same way.
  induction h generalizing s rest with
  | @word w rest' =>
    subst hleft
    rw [← List.append_assoc] at htext
    exact List.append_cancel_right htext ▸ .word
  | @number parts text rest' h =>
    subst hleft
    rw [← List.append_assoc] at htext
    exact List.append_cancel_right htext ▸ .number h
  | @text raw rest' h =>
    subst hleft
    have hs : s ++ more = '"' :: (raw ++ '"' :: rest) ++ more := by simpa using htext
    exact List.append_cancel_right hs ▸ .text h
  | @list ts s₁ rest' h ih =>
    subst hleft
    obtain ⟨s₁, rfl⟩ := exists_append_of_suffix h.suffix
    exact List.append_cancel_right (htext.trans (List.cons_append ..).symm) ▸ .list (ih rfl rfl)
  | @object ms s₁ rest' h ih =>
    subst hleft
    obtain ⟨s₁, rfl⟩ := exists_append_of_suffix h.suffix
    exact List.append_cancel_right (htext.trans (List.cons_append ..).symm) ▸ .object (ih rfl rfl)
  | endElements h =>
    subst htext hleft
    exact .endElements (skipSpace_of_append_cons h)
  | @element first t ts _ s₁ mid _ hnext hvalue hlater ihvalue ihlater =>
    subst htext hleft
    obtain ⟨mid, rfl⟩ := exists_append_of_suffix hlater.suffix
    obtain ⟨s₁, rfl⟩ := exists_append_of_suffix (hvalue.suffix.trans (skipSpace_suffix s₁))
    obtain ⟨s₂, hs₂⟩ := exists_append_of_suffix hvalue.suffix
    exact .element hnext.of_append (skipSpace_of_append hs₂ ▸ ihvalue hs₂.symm rfl)
      (ihlater rfl rfl)
  | endMembers h =>
    subst htext hleft
    exact .endMembers (skipSpace_of_append_cons h)
  | @member first raw t ms _ s₁ s₂ s₃ mid _ hnext hkey hraw hcolon hvalue hlater
    ihvalue ihlater =>
    subst htext hleft
    obtain ⟨mid, rfl⟩ := exists_append_of_suffix hlater.suffix
    have hs₃ := hvalue.suffix.trans (skipSpace_suffix s₃)
    obtain ⟨s₃, rfl⟩ := exists_append_of_suffix hs₃
    obtain ⟨s₄, hs₄⟩ := exists_append_of_suffix hvalue.suffix
    obtain ⟨s₂, rfl⟩ :=
      exists_append_of_suffix ((hcolon ▸ List.suffix_cons ..).trans (skipSpace_suffix s₂))
    have hkey' : skipSpace s₁ = '"' :: (raw ++ '"' :: s₂) ++ more := by simpa using hkey
    obtain ⟨s₁, rfl⟩ := exists_append_of_suffix (hkey' ▸ skipSpace_suffix s₁)
    exact .member hnext.of_append (skipSpace_of_append hkey') hraw (skipSpace_of_append_cons hcolon)
      (skipSpace_of_append hs₄ ▸ ihvalue hs₄.symm rfl) (ihlater rfl rfl)

end Stands

/-! ### Elements -/

/-- Texts with commas between them, as characters: each text but the first has a comma before it. -/
theorem intercalate_comma_cons (cs : List Char) (texts : List (List Char)) :
    [','].intercalate (cs :: texts) = cs ++ texts.flatMap (',' :: ·) := by
  induction texts generalizing cs with
  | nil => simp
  | cons cs' texts ih => simp [List.intercalate_cons_cons, ih cs']

namespace Stands

variable {t : Tree} {ts : List Tree}

/-- Blanks before later elements do not count. -/
theorem elements_of_skipSpace (h : Stands (.elements false ts) s rest)
    (hs : skipSpace s' = skipSpace s) : Stands (.elements false ts) s' rest := by
  cases h with
  | endElements h => exact .endElements (hs.trans h)
  | element hnext hvalue hlater => exact .element (hs.trans hnext : NextAt false ..) hvalue hlater

/-- A text that is a tree is an element if other elements follow it. -/
theorem element_of_writes {first : Bool} {text : String} (ht : t.Writes text)
    (hnext : NextAt first s (text.toList ++ s')) (hlater : Stands (.elements false ts) s' rest) :
    Stands (.elements first (t :: ts)) s rest := by
  obtain ⟨blanks, hvalue, hblanks⟩ := ht
  obtain ⟨c, cs, hstart, -⟩ := hvalue.startsWith
  -- The blanks at the end of the text are blanks before what comes next.
  have hskip : skipSpace (blanks ++ s') = skipSpace s' := by
    rw [skipSpace, List.dropWhile_append, ← skipSpace, hblanks]
    rfl
  have hvalue' : Stands (.value t) (skipSpace (text.toList ++ s')) (blanks ++ s') := by
    rw [skipSpace_append_of_cons hstart, ← List.cons_append, ← hstart]
    exact hvalue.append s'
  exact .element hnext hvalue' (hlater.elements_of_skipSpace hskip)

/-- Texts that are trees, each with a comma before it, are the later elements of a list. -/
theorem laterElements_of_writes {texts : List String} (h : List.Forall₂ Tree.Writes ts texts)
    (rest : List Char) :
    Stands (.elements false ts) (texts.flatMap (',' :: ·.toList) ++ ']' :: rest) rest := by
  induction h with
  | nil => exact .endElements rfl
  | @cons t text ts texts ht _ ih =>
    have hnext : NextAt false ((text :: texts).flatMap (',' :: ·.toList) ++ ']' :: rest)
        (text.toList ++ (texts.flatMap (',' :: ·.toList) ++ ']' :: rest)) := by
      simp [NextAt, skipSpace_cons (c := ',') rfl]
    exact element_of_writes ht hnext ih

/-- Texts that are trees, with commas between them, are the elements of a list. -/
theorem elements_of_writes {texts : List String} (h : List.Forall₂ Tree.Writes ts texts)
    (rest : List Char) :
    Stands (.elements true ts) ((",".intercalate texts).toList ++ ']' :: rest) rest := by
  rw [String.toList_intercalate]
  cases h with
  | nil => exact .endElements rfl
  | @cons t text ts texts ht hlater =>
    refine element_of_writes ht ?_ (laterElements_of_writes hlater rest)
    have hcommas : ",".toList.intercalate ((text :: texts).map String.toList) =
        text.toList ++ texts.flatMap (',' :: ·.toList) := by
      simp [intercalate_comma_cons, List.flatMap_map]
    rw [hcommas, List.append_assoc]
    rfl

end Stands

/-! ### Lists -/

/-- The text of a list whose elements have these texts. -/
def listText (texts : List String) : String :=
  "[" ++ ",".intercalate texts ++ "]"

/-- Texts that are trees make up the text of a list. -/
theorem Tree.writes_listText {ts : List Tree} {texts : List String}
    (h : List.Forall₂ Tree.Writes ts texts) : (Tree.list ts).Writes (listText texts) := by
  refine ⟨[], ?_, rfl⟩
  have htext : skipSpace (listText texts).toList =
      '[' :: ((",".intercalate texts).toList ++ [']']) := by
    simp [listText, skipSpace_cons (c := '[') rfl]
  rw [htext]
  exact .list (Stands.elements_of_writes h [])

/-- If a list has one element, the text between its brackets is that element. -/
theorem Tree.writes_of_bracketed {t : Tree} {text : String}
    (h : (Tree.list [t]).Writes (listText [text])) : t.Writes text := by
  obtain ⟨rest, hlist, hrest⟩ := h
  obtain ⟨s, hs, helements⟩ := stands_list.mp hlist
  have htext : skipSpace (listText [text]).toList = '[' :: (text.toList ++ [']']) := by
    simp [listText, skipSpace_cons (c := '[') rfl]
  obtain rfl : text.toList ++ [']'] = s := (List.cons.inj (htext.symm.trans hs)).2
  cases helements with
  | @element _ _ _ _ s' mid _ hnext hvalue hlater =>
    obtain rfl : text.toList ++ [']'] = s' := hnext
    cases hlater with
    | endElements hend =>
      -- The text ends with the bracket, and behind the element there is one, so it is this one.
      have hmid : mid <:+ text.toList ++ [']'] := hvalue.suffix.trans (skipSpace_suffix _)
      obtain ⟨mid, rfl⟩ : ∃ mid', mid = mid' ++ [']'] := by
        rcases List.suffix_concat_iff.mp hmid with rfl | ⟨mid', hmid', -⟩
        · cases hend
        · exact ⟨mid', hmid'⟩
      obtain ⟨s'', hs''⟩ := exists_append_of_suffix hvalue.suffix
      refine ⟨mid, ?_, ?_⟩
      · rw [skipSpace_of_append hs'']
        exact (hs'' ▸ hvalue).of_append
      · cases hblanks : skipSpace mid with
        | nil => rfl
        | cons c mid' =>
          rw [skipSpace_append_of_cons hblanks] at hend
          obtain rfl := (List.cons.inj hend).2
          rw [skipSpace, List.dropWhile_append] at hrest
          split at hrest <;> simp [isSpace] at hrest

namespace Reader

variable {α : Type} {item : Reader α}

/-- Texts that are decoded as values make up a list that is decoded as these values. -/
theorem ReadsTrees.decode_joined (hitem : item.ReadsTrees) {texts : List String} {as : List α}
    (h : List.Forall₂ (fun text a => item.decode text = .ok a) texts as) :
    item.list.decode (listText texts) = .ok as := by
  obtain ⟨ts, hwrites, htakes⟩ : ∃ ts,
      List.Forall₂ Tree.Writes ts texts ∧ List.Forall₂ item.Takes ts as := by
    induction h with
    | nil => exact ⟨[], .nil, .nil⟩
    | cons hdecode _ ih =>
      obtain ⟨t, ht, htakes⟩ := hitem.exists_of_decode hdecode
      obtain ⟨ts, hwrites, hall⟩ := ih
      exact ⟨t :: ts, .cons ht hwrites, .cons htakes hall⟩
  exact (takes_list htakes).decode (Tree.writes_listText hwrites)

/-- A text between brackets is decoded as a list with one element if it is decoded as the element,
and only then. -/
theorem ReadsTrees.decode_bracketed_iff (hitem : item.ReadsTrees) {text : String} {a : α} :
    item.list.decode (listText [text]) = .ok [a] ↔ item.decode text = .ok a := by
  refine ⟨fun h => ?_, fun h => hitem.decode_joined (.cons h .nil)⟩
  obtain ⟨rest, hrun, hrest⟩ := decode_eq_ok.mp h
  obtain ⟨ts, hstands, hall⟩ := hitem.exists_of_list hrun
  cases hall with
  | cons htakes hnil =>
    cases hnil
    exact htakes.decode (Tree.writes_of_bracketed ⟨rest, hstands, hrest⟩)

end Reader

end NewsReader.Json
