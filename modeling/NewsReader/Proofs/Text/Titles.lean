import Mathlib.Data.List.Forall2
import NewsReader.Proofs.Text.Entities
import NewsReader.Proofs.Text.Tags
import NewsReader.Proofs.Text.Words

/-!
# The text of a title

A title writes its text in pieces, with tags between them. In the pieces the signs that tags and
names start or end with are written by name, so a scan for tags finds the tags only, and what it
leaves is a spelling of the text with a space for each tag. That spelling is written out to the
text, even where the text looks like a name or a tag itself.

* `writeOutOnce_of_spells` — a text in any spelling is written out.
* `exists_spelling_of_writes` — what is left without the tags.
* `plain_eq_iff_of_writes` — the text of a title is recovered.
-/

namespace NewsReader.Text

variable {c : Char} {text : List Char} {parts : List (List Char)}

/-! ### Written text -/

/-- The characters that titles write by name, and how. -/
def spellings : List (Char × String) :=
  [('&', "&amp;"), ('<', "&lt;"), ('>', "&gt;"), ('"', "&quot;"), ('\'', "&#39;"), ('\'', "&apos;")]

/-- A title writes a character: as itself if neither names nor tags start or end with it, or by
name. -/
inductive Spells : Char → List Char → Prop where
  /-- It stands for itself. -/
  | plain {c : Char} (h : c ≠ '&' ∧ c ≠ '<' ∧ c ≠ '>') : Spells c [c]
  /-- It is written by name. -/
  | named {c : Char} {name : String} (h : (c, name) ∈ spellings) : Spells c name.toList

/-- What titles write by name is the written form of a named character. -/
theorem exists_entity_of_mem_spellings {name : String} (h : (c, name) ∈ spellings) :
    ∃ e ∈ Entity.all, name.toList = e.chars ∧ e.char = c := by
  have hall : spellings.all fun p => Entity.all.any fun e =>
      p.2.toList == e.chars && e.char == p.1 := by decide
  obtain ⟨e, hmem, he⟩ := List.any_eq_true.mp (List.all_eq_true.mp hall _ h)
  simp only [Bool.and_eq_true, beq_iff_eq] at he
  exact ⟨e, hmem, he.1, he.2⟩

/-- The named characters of titles have different names. -/
theorem Entity.find?_tail {e : Entity} (h : e ∈ all) :
    (all.find? fun e' => e'.tail = e.tail) = some e := by
  have hall : all.all fun e => (all.find? fun e' => e'.tail = e.tail) == some e := by decide
  exact beq_iff_eq.mp (List.all_eq_true.mp hall e h)

/-- A named character of titles is written out where it is met. -/
theorem writeOutOnce_chars {e : Entity} (h : e ∈ Entity.all) (rest : List Char) :
    writeOutOnce Entity.all (e.chars ++ rest) = e.char :: writeOutOnce Entity.all rest := by
  have hnamed := Entity.areOrdered_all.isNamed
  have hfront : Entity.front? Entity.all (e.chars ++ rest) = some (e.char, rest) := by
    rw [Entity.front?_append hnamed (hnamed e h), Entity.find?_tail h, Option.map_some]
  exact writeOutOnce_of_some hfront

/-- A text is what its spelling is written out to. -/
theorem writeOutOnce_of_spells (h : List.Forall₂ Spells text parts) :
    writeOutOnce Entity.all parts.flatten = text := by
  induction h with
  | nil => exact writeOutOnce.eq_1 _
  | @cons c part text parts hspells _ ih =>
    rw [List.flatten_cons]
    cases hspells with
    | plain hplain =>
      rw [List.cons_append, List.nil_append,
        writeOutOnce_of_none (Entity.front?_of_ne hplain.1), ih]
    | named hname =>
      obtain ⟨e, hmem, hchars, rfl⟩ := exists_entity_of_mem_spellings hname
      rw [hchars, writeOutOnce_chars hmem, ih]

/-- No spelling has a `<` in it. -/
theorem Spells.notMem {part : List Char} (h : Spells c part) : '<' ∉ part := by
  cases h with
  | plain hplain => simpa using Ne.symm hplain.2.1
  | @named name hname =>
    have hall : spellings.all fun p => !p.2.toList.contains '<' := by decide
    simpa using List.all_eq_true.mp hall _ hname

/-- A text in some spelling has no `<` in it. -/
theorem notMem_flatten_of_spells (h : List.Forall₂ Spells text parts) :
    '<' ∉ parts.flatten := by
  induction h with
  | nil => exact List.not_mem_nil
  | cons hspells _ ih =>
    rw [List.flatten_cons, List.mem_append, not_or]
    exact ⟨hspells.notMem, ih⟩

/-! ### Titles -/

/-- A piece of a title: text, or a tag. -/
inductive Piece where
  /-- Some text. -/
  | text (s : String)
  /-- A tag. -/
  | tag (body : String)

namespace Piece

/-- What is to be seen of a piece. -/
def shown : Piece → List Char
  | .text s => s.toList
  | .tag _ => [' ']

/-- A title writes a piece: text in some spelling, a tag in angle brackets. -/
inductive Writes : Piece → List Char → Prop where
  /-- A text, character by character. -/
  | text {s : String} {parts : List (List Char)} (h : List.Forall₂ Spells s.toList parts) :
    Writes (.text s) parts.flatten
  /-- A tag. -/
  | tag {body : String} (h : '>' ∉ body.toList) :
    Writes (.tag body) ('<' :: (body.toList ++ ['>']))

end Piece

/-- Without its tags, a title is a spelling of what is to be seen of its pieces. -/
theorem exists_spelling_of_writes {pieces : List Piece}
    (h : List.Forall₂ Piece.Writes pieces parts) :
    ∃ spelled, List.Forall₂ Spells (pieces.flatMap Piece.shown) spelled ∧
      dropTags false parts.flatten = spelled.flatten := by
  induction h with
  | nil => exact ⟨[], .nil, rfl⟩
  | @cons piece part pieces parts hpiece _ ih =>
    obtain ⟨spelled, hspells, hdrop⟩ := ih
    rw [List.flatMap_cons, List.flatten_cons]
    cases hpiece with
    | @text s textParts htext =>
      refine ⟨textParts ++ spelled, List.rel_append htext hspells, ?_⟩
      rw [dropTags_append_of_notMem (notMem_flatten_of_spells htext), hdrop, List.flatten_append]
    | @tag body hbody =>
      -- The space that is left of a tag stands for itself.
      refine ⟨[' '] :: spelled, .cons (.plain (by decide)) hspells, ?_⟩
      rw [List.cons_append, List.append_assoc, List.cons_append, List.nil_append,
        dropTags_tag hbody, hdrop]
      rfl

/-- The text of a title is recovered. Let a title write some pieces: texts with their ampersands and
angle brackets by name, and quotes as they are or by any name; and tags of any body without a `>`.
Then the plain text is what is to be seen of the pieces, with a space for each tag, and tidied. -/
theorem plain_eq_iff_of_writes {pieces : List Piece} (h : List.Forall₂ Piece.Writes pieces parts)
    (t : String) :
    plain (String.ofList parts.flatten) = t ↔ Tidied (pieces.flatMap Piece.shown) t.toList := by
  obtain ⟨spelled, hspells, hdrop⟩ := exists_spelling_of_writes h
  have hplain : plainChars parts.flatten = collapse (pieces.flatMap Piece.shown) := by
    rw [plainChars, hdrop, writeOutEntities_eq, writeOutOnce_of_spells hspells]
  rw [plain, String.toList_ofList, hplain, ← collapse_eq_iff]
  constructor
  · rintro rfl
    rw [String.toList_ofList]
  · intro ht
    rw [ht, String.ofList_toList]

/-- A text that looks like a tag, a tag, and a text that looks like a name: only the tag is one. -/
theorem plain_eq_iff_of_writes_escaped :
    List.Forall₂ Piece.Writes [.text " <b>", .tag "br /", .text "'&lt;'\t"]
      [" &lt;b&gt;".toList, "<br />".toList, "&#39;&amp;lt;'\t".toList] ∧
      plain " &lt;b&gt;<br />&#39;&amp;lt;'\t" = "<b> '&lt;'" := by
  have hname {c : Char} {name : String} (h : (c, name) ∈ spellings) := Spells.named h
  have hplain {c : Char} (h : c ≠ '&' ∧ c ≠ '<' ∧ c ≠ '>') := Spells.plain h
  have hfirst : List.Forall₂ Spells " <b>".toList
      [[' '], "&lt;".toList, ['b'], "&gt;".toList] := by
    rw [show " <b>".toList = [' ', '<', 'b', '>'] by decide]
    exact .cons (hplain (by decide)) <| .cons (hname (by decide)) <| .cons (hplain (by decide)) <|
      .cons (hname (by decide)) .nil
  have hlast : List.Forall₂ Spells "'&lt;'\t".toList
      ["&#39;".toList, "&amp;".toList, ['l'], ['t'], [';'], ['\''], ['\t']] := by
    rw [show "'&lt;'\t".toList = ['\'', '&', 'l', 't', ';', '\'', '\t'] by decide]
    exact .cons (hname (by decide)) <| .cons (hname (by decide)) <| .cons (hplain (by decide)) <|
      .cons (hplain (by decide)) <| .cons (hplain (by decide)) <| .cons (hplain (by decide)) <|
      .cons (hplain (by decide)) .nil
  have hwrites := List.Forall₂.cons (Piece.Writes.text hfirst) <|
    .cons (Piece.Writes.tag (by decide : '>' ∉ "br /".toList)) <|
      .cons (Piece.Writes.text hlast) .nil
  refine ⟨hwrites, (plain_eq_iff_of_writes hwrites _).mpr (collapse_eq_iff.mp ?_)⟩
  decide

end NewsReader.Text
