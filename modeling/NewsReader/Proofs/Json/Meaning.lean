import Mathlib.Data.List.Forall2
import NewsReader.Proofs.Json.Skipped

/-!
# What readers take trees as

A reader takes a tree as a value if it reads the value wherever the tree is written: after any
blanks, with any blanks inside, and whatever follows (`Reader.Takes`). It reads trees and nothing
else if whatever it reads is such a tree (`Reader.ReadsTrees`). Then a text that it decodes is a
tree, and what it decodes depends on the tree alone.

* `Reader.ReadsTrees.takes` — what is read of a tree is what the tree is taken as.
* `Reader.ReadsTrees.decode_eq_ok_iff` — what is decoded.
* `Reader.readsTrees_text`, `Reader.readsTrees_natural`, `Reader.ReadsTrees.optional`,
  `Reader.ReadsTrees.filterMap` — the readers of values that are neither lists nor records.
-/

namespace NewsReader.Json

variable {α β : Type} {s rest : List Char} {t : Tree}

namespace Reader

/-- The reader takes the tree as this value, wherever it is written. -/
def Takes (item : Reader α) (t : Tree) (a : α) : Prop :=
  ∀ s rest, Stands (.value t) (skipSpace s) rest → t.StopsAt rest → item.run s = .ok (a, rest)

/-- Whatever the reader reads is a tree that it takes as this value. -/
def ReadsTrees (item : Reader α) : Prop :=
  ∀ ⦃s rest a⦄, item.run s = .ok (a, rest) →
    ∃ t, Stands (.value t) (skipSpace s) rest ∧ t.StopsAt rest ∧ item.Takes t a

variable {item : Reader α} {a : α}

/-- What is read of a tree is what the tree is taken as. -/
theorem ReadsTrees.takes (hitem : item.ReadsTrees) {rest' : List Char}
    (hrun : item.run s = .ok (a, rest')) (ht : Stands (.value t) (skipSpace s) rest)
    (hstop : t.StopsAt rest) : rest' = rest ∧ item.Takes t a := by
  -- The tree that was read is the one that stands there, since there is one at most.
  obtain ⟨t', ht', hstop', htakes⟩ := hitem hrun
  obtain ⟨rfl, rfl⟩ := ht.unique ht' hstop hstop'
  exact ⟨rfl, htakes⟩

/-- A tree that is written somewhere is taken as one value only. -/
theorem Takes.unique {a' : α} (h : item.Takes t a) (h' : item.Takes t a')
    (ht : Stands (.value t) s rest) (hstop : t.StopsAt rest) : a = a' := by
  rw [← ht.skipSpace_eq] at ht
  exact (Prod.mk.inj (Except.ok.inj ((h _ _ ht hstop).symm.trans (h' _ _ ht hstop)))).1

end Reader

/-! ### Whole texts -/

/-- The text is the tree, with blanks around it. -/
def Tree.Writes (t : Tree) (text : String) : Prop :=
  ∃ rest, Stands (.value t) (skipSpace text.toList) rest ∧ skipSpace rest = []

/-- A text is one tree only. -/
theorem Tree.Writes.unique {t' : Tree} {text : String} (h : t.Writes text) (h' : t'.Writes text) :
    t = t' := by
  obtain ⟨rest, hstands, hrest⟩ := h
  obtain ⟨rest', hstands', hrest'⟩ := h'
  exact (hstands.unique hstands' (stopsAt_of_skipSpace_nil hrest)
    (stopsAt_of_skipSpace_nil hrest')).1

namespace Reader

variable {item : Reader α} {a : α} {text : String}

/-- A text is decoded if one value is read and only blanks are left. -/
theorem decode_eq_ok {item : Reader α} :
    item.decode text = .ok a ↔
      ∃ rest, item.run text.toList = .ok (a, rest) ∧ skipSpace rest = [] := by
  unfold decode decodeChars
  constructor
  · intro h
    split at h
    · cases h
    · next rest hrun =>
      split at h
      · next hrest =>
        obtain rfl := Except.ok.inj h
        exact ⟨rest, hrun, List.isEmpty_iff.mp hrest⟩
      · cases h
  · rintro ⟨rest, hrun, hrest⟩
    simp only [hrun, hrest, List.isEmpty_nil, ↓reduceIte]

/-- A text that is a tree is decoded as what the tree is taken as. -/
theorem Takes.decode (h : item.Takes t a) (ht : t.Writes text) : item.decode text = .ok a := by
  obtain ⟨rest, hstands, hrest⟩ := ht
  exact decode_eq_ok.mpr ⟨rest, h _ _ hstands (Tree.stopsAt_of_skipSpace_nil hrest), hrest⟩

/-- What a text is decoded as depends on its tree alone. -/
theorem ReadsTrees.decode_eq_ok_iff (hitem : item.ReadsTrees) (ht : t.Writes text) :
    item.decode text = .ok a ↔ item.Takes t a := by
  refine ⟨fun h => ?_, fun h => h.decode ht⟩
  obtain ⟨rest', hrun, -⟩ := decode_eq_ok.mp h
  obtain ⟨rest, hstands, hrest⟩ := ht
  exact (hitem.takes hrun hstands (Tree.stopsAt_of_skipSpace_nil hrest)).2

/-- A text that is decoded is a tree. -/
theorem ReadsTrees.exists_of_decode (hitem : item.ReadsTrees) (h : item.decode text = .ok a) :
    ∃ t : Tree, t.Writes text ∧ item.Takes t a := by
  obtain ⟨rest, hrun, hrest⟩ := decode_eq_ok.mp h
  obtain ⟨t, hstands, -, htakes⟩ := hitem hrun
  exact ⟨t, ⟨rest, hstands, hrest⟩, htakes⟩

end Reader

/-! ### Strings and numbers -/

namespace Reader

/-- A string is taken as the text that it writes. -/
theorem takes_text {raw cs : List Char} (h : WritesText raw cs) (wanted : String) :
    (text wanted).Takes (.text raw) (String.ofList cs) := by
  intro s rest hstands _
  obtain ⟨hs, -⟩ := stands_text.mp hstands
  have hread : readText (raw ++ '"' :: rest) = .ok (cs, rest) :=
    readText_eq_ok_iff.mpr ⟨raw, rfl, h⟩
  simp only [text, hs, hread, Except.map]

/-- What is read as a string is one that writes a text. -/
theorem exists_of_text {wanted text : String} (h : (Reader.text wanted).run s = .ok (text, rest)) :
    ∃ raw cs, Stands (.value (.text raw)) (skipSpace s) rest ∧ WritesText raw cs ∧
      text = String.ofList cs := by
  simp only [Reader.text] at h
  split at h
  · next hs =>
    obtain ⟨⟨cs, _⟩, hread, heq⟩ := exists_of_map_eq_ok h
    obtain ⟨rfl, rfl⟩ := Prod.mk.inj heq
    obtain ⟨raw, rfl, hraw⟩ := readText_eq_ok_iff.mp hread
    exact ⟨raw, cs, hs ▸ .text hraw.isRaw, hraw, rfl⟩
  · cases h

/-- Strings are trees. -/
theorem readsTrees_text (wanted : String) : (text wanted).ReadsTrees := by
  intro s rest a h
  obtain ⟨raw, cs, hstands, hraw, rfl⟩ := exists_of_text h
  exact ⟨.text raw, hstands, by rintro _ ⟨⟩, takes_text hraw wanted⟩

/-- A number is taken as the whole number that its parts write. -/
theorem takes_natural {parts : NumberText} {n : Nat} (h : parts.value = .ok (.natural n)) :
    natural.Takes (.number parts) n := by
  intro s rest hstands hstop
  obtain ⟨c, s', hs, hstart⟩ := hstands.startsWith
  obtain ⟨text, htext, hwrites⟩ := stands_number.mp hstands
  have hread : readNumber (skipSpace s) = .ok (.natural n, rest) := by
    rw [readNumber, readNumberText_eq_ok_iff.mpr ⟨text, htext, hwrites, hstop _ rfl⟩]
    simp only [bind, Except.bind, h]
  replace hstart : c = '-' ∨ Text.isDigit c := hstart
  rw [hs] at hread
  simp only [natural, hs, hstart, hread, ↓reduceIte]

/-- Whole numbers are trees. -/
theorem readsTrees_natural : natural.ReadsTrees := by
  intro s rest n h
  simp only [natural] at h
  split at h
  · cases h
  · next c s' hs =>
    split at h
    · split at h
      · next hread =>
        -- Of all numbers only those that are whole are read; the tree is what was written of them.
        obtain ⟨rfl, rfl⟩ := Prod.mk.inj (Except.ok.inj h)
        simp only [readNumber, bind, Except.bind] at hread
        split at hread
        · cases hread
        · next hparts =>
          split at hread
          · cases hread
          · next hvalue =>
            obtain ⟨rfl, rfl⟩ := Prod.mk.inj (Except.ok.inj hread)
            obtain ⟨text, htext, hwrites, hstop⟩ := readNumberText_eq_ok_iff.mp hparts
            refine ⟨.number _, stands_number.mpr ⟨text, hs.trans htext, hwrites⟩, ?_,
              takes_natural hvalue⟩
            rintro _ ⟨⟩
            exact hstop
      · cases h
      · cases h
      · cases h
    · cases h

/-! ### Values made of others -/

variable {item : Reader α} {a : α}

/-- The word `null` is taken as nothing. -/
theorem takes_null (item : Reader α) : item.optional.Takes (.word .null) none := by
  intro s rest hstands _
  have hs : skipSpace s = 'n' :: 'u' :: 'l' :: 'l' :: rest := stands_word.mp hstands
  have hword : readWord ['u', 'l', 'l'] ('u' :: 'l' :: 'l' :: rest) = .ok rest :=
    readWord_eq_ok_iff.mpr rfl
  simp only [optional, hs, hword, Except.map]

/-- Any other tree is taken as what it is taken as without the option. -/
theorem Takes.optional (h : item.Takes t a) (ht : t.kind ≠ .word .null) :
    item.optional.Takes t (some a) := by
  intro s rest hstands hstop
  have hrun : item.run (skipSpace s) = .ok (a, rest) := h _ _ (by rwa [skipSpace_skipSpace]) hstop
  obtain ⟨c, s', hs, hstart⟩ := hstands.startsWith
  simp only [Reader.optional]
  split
  · next hs' =>
    obtain rfl := (List.cons.inj (hs.symm.trans hs')).1
    exact absurd hstart.kindOf_eq.symm ht
  · rw [hrun]
    rfl

/-- What may be `null` is a tree if what else it may be is. -/
theorem ReadsTrees.optional (hitem : item.ReadsTrees) : item.optional.ReadsTrees := by
  intro s rest o h
  simp only [Reader.optional] at h
  split at h
  · next s' hs =>
    obtain ⟨_, hread, heq⟩ := exists_of_map_eq_ok h
    obtain ⟨rfl, rfl⟩ := Prod.mk.inj heq
    obtain rfl := readWord_eq_ok_iff.mp hread
    exact ⟨.word .null, stands_word.mpr hs, by rintro _ ⟨⟩, takes_null item⟩
  · next hnull =>
    -- The text does not start with the first letter of `null`, so the tree is another one.
    obtain ⟨⟨a, _⟩, hread, heq⟩ := exists_of_map_eq_ok h
    obtain ⟨rfl, rfl⟩ := Prod.mk.inj heq
    obtain ⟨t, hstands, hstop, htakes⟩ := hitem hread
    rw [skipSpace_skipSpace] at hstands
    refine ⟨t, hstands, hstop, htakes.optional fun hkind => ?_⟩
    obtain ⟨c, s', hs, hstart⟩ := hstands.startsWith
    cases t <;> cases hkind
    obtain rfl : c = 'n' := hstart
    exact hnull s' hs

/-- A tree is taken as what its value is turned into. -/
theorem Takes.filterMap {f : α → Except Fault β} {b : β} (h : item.Takes t a)
    (hf : f a = .ok b) : (item.filterMap f).Takes t b := by
  intro s rest hstands hstop
  simp only [Reader.filterMap, h s rest hstands hstop, hf, Except.map]

/-- What a value is turned into is a tree if the value is. -/
theorem ReadsTrees.filterMap (hitem : item.ReadsTrees) (f : α → Except Fault β) :
    (item.filterMap f).ReadsTrees := by
  intro s rest b h
  simp only [Reader.filterMap] at h
  split at h
  · cases h
  · next hrun =>
    obtain ⟨_, hf, heq⟩ := exists_of_map_eq_ok h
    obtain ⟨rfl, rfl⟩ := Prod.mk.inj heq
    obtain ⟨t, hstands, hstop, htakes⟩ := hitem hrun
    exact ⟨t, hstands, hstop, htakes.filterMap hf⟩

end Reader

end NewsReader.Json
