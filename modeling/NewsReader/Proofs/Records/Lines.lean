import NewsReader.Proofs.Records.RoundTrip
import NewsReader.Proofs.Text.Excerpt
import NewsReader.Proofs.Text.OpenTags

/-!
# Lines of a listing

A listing has a line for each feed and each news item. Titles are tidied, so no line breaks are left
in them, and dates have none. Ids, authors, and addresses in place of a title go into the line as
they came, line breaks and all, and such an address is not cut either.

* `Text.isOneLine_plain` — the plain text of a title is one line.
* `Feed.isOneLine_line_iff`, `NewsItem.isOneLine_line_iff` — exactly which entries are one line.
* `Feed.length_shownTitle_le_iff` — exactly which titles are short.
* `listed_on_one_line_iff` — all of it together.
-/

namespace NewsReader

open Calendar (Date)
open Json (LawfulWire Wire)

/-! ### Lines -/

namespace Text

variable {s t : String}

/-- There is no line break in a text. -/
def IsOneLine (s : String) : Prop :=
  '\n' ∉ s.toList ∧ '\r' ∉ s.toList

instance (s : String) : Decidable (IsOneLine s) := by
  unfold IsOneLine
  infer_instance

/-- Two texts in a row are one line if both are. -/
theorem isOneLine_append_iff : IsOneLine (s ++ t) ↔ IsOneLine s ∧ IsOneLine t := by
  simp only [IsOneLine, String.toList_append, List.mem_append, not_or]
  exact and_and_and_comm

/-- A text without blanks is one line. -/
theorem isOneLine_of_not_isBlank (h : ∀ c ∈ s.toList, isBlank c = false) : IsOneLine s :=
  ⟨fun hmem => absurd (h _ hmem) (by decide), fun hmem => absurd (h _ hmem) (by decide)⟩

/-- The plain text of a title is one line. -/
theorem isOneLine_plain (title : String) : IsOneLine (plain title) :=
  ⟨fun hmem => absurd ((tidied_plain title).eq_of_isBlank hmem (by decide)) (by decide),
    fun hmem => absurd ((tidied_plain title).eq_of_isBlank hmem (by decide)) (by decide)⟩

/-- An excerpt of one line is one line. -/
theorem isOneLine_excerpt {max : Nat} (h : IsOneLine s) : IsOneLine (excerpt max s) := by
  simp only [IsOneLine, excerpt, String.toList_ofList]
  exact ⟨fun hmem => (mem_or_eq_of_mem_excerptChars hmem).elim h.1 (by decide),
    fun hmem => (mem_or_eq_of_mem_excerptChars hmem).elim h.2 (by decide)⟩

end Text

open Text (IsOneLine isOneLine_append_iff)

/-- What is shown for a date is one line. -/
theorem isOneLine_shown (d : Option Date) : IsOneLine (Date.shown d) := by
  cases d with
  | none => decide
  | some d =>
    refine Text.isOneLine_of_not_isBlank fun c hc => ?_
    rw [Date.shown, Date.text, String.toList_ofList] at hc
    exact Date.isBlank_of_mem_chars hc

/-! ### Entries -/

namespace Feed

/-- A title in a listing is the address if there is no title, and an excerpt of the title
otherwise. -/
theorem shownTitle_eq (f : Feed) :
    f.shownTitle =
      if Text.plain f.title = "" then f.url else Text.excerpt titleLimit (Text.plain f.title) := by
  simp [shownTitle]

/-- The entry of a feed is one line exactly if the id is, and the address where it stands for a
title. -/
theorem isOneLine_line_iff (f : Feed) (subscribed : Bool) :
    IsOneLine (f.line subscribed) ↔
      IsOneLine f.id ∧ (Text.plain f.title = "" → IsOneLine f.url) := by
  have hmark : IsOneLine (if subscribed then "[x] " else "[ ] ") := by cases subscribed <;> decide
  have hspace : IsOneLine "  " := by decide
  have htitle : IsOneLine f.shownTitle ↔ (Text.plain f.title = "" → IsOneLine f.url) := by
    rw [shownTitle_eq]
    split
    · next hnone => simp [hnone]
    · next hsome => simp [hsome, Text.isOneLine_excerpt (Text.isOneLine_plain f.title)]
  simp only [line, isOneLine_append_iff, hmark, hspace, htitle, true_and, and_comm]

/-- A title in a listing has at most 80 characters, but for an address in its place. -/
theorem length_shownTitle_le_iff (f : Feed) :
    f.shownTitle.length ≤ 80 ↔ (Text.plain f.title = "" → f.url.length ≤ 80) := by
  rw [shownTitle_eq]
  split
  · next hnone => simp [hnone]
  · next hsome =>
    have hlength : (Text.excerpt titleLimit (Text.plain f.title)).length ≤ 80 := by
      rw [Text.length_excerpt]
      exact Nat.min_le_right _ _
    simp [hsome, hlength]

/-- A feed with an address has a title in a listing. -/
theorem shownTitle_ne_empty {f : Feed} (h : f.url ≠ "") : f.shownTitle ≠ "" := by
  rw [shownTitle_eq]
  split
  · exact h
  · next hsome =>
    -- An excerpt is empty only if the text is.
    intro hempty
    have hlength := Text.length_excerpt titleLimit (Text.plain f.title)
    rw [hempty] at hlength
    have hpos : 0 < (Text.plain f.title).length :=
      Nat.pos_of_ne_zero fun hzero => hsome (String.length_eq_zero_iff.mp hzero)
    have hzero : min (Text.plain f.title).length titleLimit = 0 := hlength.symm
    rw [titleLimit] at hzero
    omega

end Feed

/-- The entry of a news item is one line exactly if the author is. -/
theorem NewsItem.isOneLine_line_iff (i : NewsItem) : IsOneLine i.line ↔ IsOneLine i.author := by
  have hauthor : IsOneLine (if i.author.isEmpty then "" else " (" ++ i.author ++ ")") ↔
      IsOneLine i.author := by
    split
    · next hempty =>
      rw [String.isEmpty_iff.mp hempty]
    · simp only [isOneLine_append_iff, (by decide : IsOneLine " ("), (by decide : IsOneLine ")"),
        true_and, and_true]
  simp only [NewsItem.line, isOneLine_append_iff, hauthor, Text.isOneLine_plain, isOneLine_shown,
    (by decide : IsOneLine " "), true_and, and_true]

/-- What can be said of the entries of a listing, for each feed and each news item, any of which can
be decoded. The entry of a feed is one line exactly if the id is and, where it stands for a title,
the address; that of a news item exactly if the author is. A title has at most 80 characters, but
for an address in its place, and there is one if there is an address. -/
theorem listed_on_one_line_iff (f : Feed) (i : NewsItem) (subscribed : Bool) :
    (Wire.decode (Wire.json f).compact = .ok f ∧ Wire.decode (Wire.json i).compact = .ok i) ∧
    (IsOneLine (f.line subscribed) ↔
      IsOneLine f.id ∧ (Text.plain f.title = "" → IsOneLine f.url)) ∧
    (IsOneLine i.line ↔ IsOneLine i.author) ∧
    (f.shownTitle.length ≤ 80 ↔ (Text.plain f.title = "" → f.url.length ≤ 80)) ∧
    (f.url ≠ "" → f.shownTitle ≠ "") :=
  ⟨⟨LawfulWire.decode_compact f, LawfulWire.decode_compact i⟩,
    f.isOneLine_line_iff subscribed, i.isOneLine_line_iff,
    f.length_shownTitle_le_iff, Feed.shownTitle_ne_empty⟩

/-- A feed with markup and a line break in its title, and a news item like it, are each listed on
one line, under a short title. -/
theorem listed_on_one_line_iff_of_markup :
    let f : Feed := ⟨"f1", "https://news.test/feed", "<b>Latest</b>\nnews", "a", none⟩
    let i : NewsItem := ⟨none, "<b>Latest</b>\nnews", "Jane Doe", "u", none, "f1"⟩
    f.url ≠ "" ∧ (IsOneLine f.id ∧ IsOneLine f.url) ∧ IsOneLine i.author ∧
      IsOneLine (f.line true) ∧ IsOneLine i.line ∧ f.shownTitle.length ≤ 80 ∧
      f.shownTitle ≠ "" := by
  intro f i
  have hurl : f.url ≠ "" := by decide
  have hlines : IsOneLine f.id ∧ IsOneLine f.url := by decide
  have hauthor : IsOneLine i.author := by decide
  obtain ⟨-, hfeed, hitem, hshort, htitle⟩ := listed_on_one_line_iff f i true
  exact ⟨hurl, hlines, hauthor, hfeed.mpr ⟨hlines.1, fun _ => hlines.2⟩, hitem.mpr hauthor,
    hshort.mpr fun _ => by decide, htitle hurl⟩

/-- A feed without a title, with a long address and a line break in its id, is decoded and listed on
two lines, under more than 80 characters; and a news item with a line break in the name of its
author is listed on two lines. -/
theorem listed_on_two_lines :
    let f : Feed := ⟨"f\n1",
      "https://feeds.news.test/archive/2024/february/the-latest-articles-of-every-editor/full.xml",
      "", "a", none⟩
    let i : NewsItem := ⟨none, "t", "Jane\nDoe", "u", none, "f1"⟩
    Wire.decode (Wire.json f).compact = .ok f ∧ ¬IsOneLine (f.line true) ∧
      ¬f.shownTitle.length ≤ 80 ∧
      Wire.decode (Wire.json i).compact = .ok i ∧ ¬IsOneLine i.line := by
  intro f i
  have hnone : Text.plain f.title = "" := by
    rw [Text.plain, Text.plainChars, Text.writeOutEntities_eq,
      Text.writeOutOnce_of_notMem (by decide)]
    decide
  refine ⟨LawfulWire.decode_compact f, ?_, ?_, LawfulWire.decode_compact i, ?_⟩
  · rw [Feed.isOneLine_line_iff]
    exact fun h => absurd h.1 (by decide)
  · rw [Feed.length_shownTitle_le_iff]
    exact fun h => absurd (h hnone) (by decide)
  · rw [NewsItem.isOneLine_line_iff]
    decide

end NewsReader
