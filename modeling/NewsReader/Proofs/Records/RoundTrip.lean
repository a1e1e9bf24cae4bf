import NewsReader.Proofs.Api.Login
import NewsReader.Proofs.Calendar.DateText
import NewsReader.Proofs.Config.File
import NewsReader.Proofs.Json.Lists
import NewsReader.Records.Account
import NewsReader.Records.Feed
import NewsReader.Records.NewsItem

/-!
# Records are read back

Whatever the strings in them and whatever the date, the records that the program sends, receives and
saves are read back from their text. Each record is a matter of its fields: strings and dates are
read back, and a missing id is left out and taken as missing.

* `PublishDate.reads_json` — a date that may be missing is read back.
* The instances of `LawfulWire` — records are read back by their fields.
* `round_trips` — records, lists of them, and the configuration file.
-/

namespace NewsReader

open Calendar (Date)
open Json (Fields Layout LawfulWire Reader RecordShape Value Wire)

/-! ### Dates -/

namespace PublishDate

/-- A written date is taken as the date. -/
theorem ofText_text (d : Date) : ofText d.text = .ok (some d) := by
  have hchars : Text.trimChars d.text.toList = d.chars := by
    rw [Date.text, String.toList_ofList, d.trimChars_chars]
  have hne : d.chars.isEmpty = false := by simp [Date.chars]
  simp only [ofText, hchars, hne, d.ofChars?_chars, Bool.false_eq_true, ↓reduceIte]

/-- A date that may be missing is read back. -/
theorem reads_json (l : Layout) (d : Option Date) : reader.Reads (l.print (json d)) d := by
  intro blanks rest hblanks hrest
  have htext : (Reader.text "a string").optional.run (blanks ++ (l.print (json d) ++ rest)) =
      .ok (d.map Date.text, rest) := Layout.reads_text? _ _ blanks rest hblanks hrest
  have hdate : ofText? (d.map Date.text) = .ok d := by
    cases d with
    | none => rfl
    | some d => exact ofText_text d
  simp only [reader, Reader.filterMap, htext, hdate, Except.map]

end PublishDate

/-! ### Records -/

/-- The members of a feed are read back as its fields. -/
theorem Feed.writes_members (l : Layout) (f : Feed) :
    shape.fields.Writes l (f.id, f.url, f.title, f.author, f.published, ())
      [("id", .text f.id), ("url", .text f.url), ("title", .text f.title),
        ("author", .text f.author), ("publish_date", PublishDate.json f.published)] :=
  .member (Layout.reads_text _ _) <| .member (Layout.reads_text _ _) <|
    .member (Layout.reads_text _ _) <|
    .member (Layout.reads_text _ _) <| .member (PublishDate.reads_json l _) .nil

instance : LawfulWire Feed :=
  RecordShape.lawfulWire rfl (fun _ => rfl) (by simp) Feed.writes_members (by decide) fun _ => rfl

/-- The members of a news item are read back as its fields. An id that is missing is none of the
members. -/
theorem NewsItem.writes_members (l : Layout) (i : NewsItem) :
    shape.fields.Writes l (i.id, i.title, i.author, i.url, i.published, i.feed, ())
      (i.id.toList.map (("id", .text ·)) ++
        [("title", .text i.title), ("author", .text i.author), ("url", .text i.url),
          ("publish_date", PublishDate.json i.published), ("feed_id", .text i.feed)]) := by
  obtain ⟨id, title, author, url, published, feed⟩ := i
  cases id with
  | none =>
    exact .omitted rfl <| .member (Layout.reads_text _ _) <| .member (Layout.reads_text _ _) <|
      .member (Layout.reads_text _ _) <| .member (PublishDate.reads_json l _) <|
      .member (Layout.reads_text _ _) .nil
  | some id =>
    exact .member (Layout.reads_text? _ (some id)) <| .member (Layout.reads_text _ _) <|
      .member (Layout.reads_text _ _) <| .member (Layout.reads_text _ _) <|
      .member (PublishDate.reads_json l _) <| .member (Layout.reads_text _ _) .nil

instance : LawfulWire NewsItem :=
  RecordShape.lawfulWire rfl (fun _ => rfl) (by simp) NewsItem.writes_members (by decide)
    fun _ => rfl

/-- The members of a user are read back as its fields. -/
theorem User.writes_members (l : Layout) (u : User) :
    shape.fields.Writes l (u.id, u.name, ()) [("id", .text u.id), ("name", .text u.name)] :=
  .member (Layout.reads_text _ _) <| .member (Layout.reads_text _ _) .nil

instance : LawfulWire User :=
  RecordShape.lawfulWire rfl (fun _ => rfl) (by simp) User.writes_members (by decide) fun _ => rfl

instance : LawfulWire LoginReply :=
  RecordShape.lawfulWire rfl (fun _ => rfl) (by simp) LoginReply.writes_members (by decide)
    fun _ => rfl

/-- The members of a subscription are read back as its fields. -/
theorem Subscription.writes_members (l : Layout) (s : Subscription) :
    shape.fields.Writes l (s.user, s.feed, ())
      [("user_id", .text s.user), ("feed_id", .text s.feed)] :=
  .member (Layout.reads_text _ _) <| .member (Layout.reads_text _ _) .nil

instance : LawfulWire Subscription :=
  RecordShape.lawfulWire rfl (fun _ => rfl) (by simp) Subscription.writes_members
    (by decide) fun _ => rfl

/-! ### Whole texts and files -/

/-- Every value of the type is read back from its text, in either layout. -/
def RoundTrips (α : Type) [Wire α] : Prop :=
  ∀ a : α, Wire.decode (Wire.json a).compact = .ok a ∧
    Wire.decode (Wire.json a).indented = .ok a

/-- Values that are read back wherever they stand are read back from their text. -/
theorem roundTrips (α : Type) [Wire α] [LawfulWire α] : RoundTrips α :=
  fun a => ⟨LawfulWire.decode_compact a, LawfulWire.decode_indented a⟩

/-- A number of 64 bits fits in 64 bits. -/
theorem Json.toNat_lt_wordLimit {o : Option UInt64} {n : Nat} (h : n ∈ o.map UInt64.toNat) :
    n < wordLimit := by
  obtain ⟨k, -, rfl⟩ := Option.map_eq_some_iff.mp h
  exact k.toNat_lt

/-- All that the program writes it reads back. Feeds, news items with and without id, users, answers
to logins, subscriptions and lists of these, with any strings and dates, are read back from their
text in both layouts. A configuration with any strings, any numbers of 64 bits and any kind of vault
is saved wherever a file can be written, and loaded again from there. -/
theorem round_trips :
    (RoundTrips Feed ∧ RoundTrips NewsItem ∧ RoundTrips User ∧ RoundTrips LoginReply ∧
        RoundTrips Subscription) ∧
      (RoundTrips (List Feed) ∧ RoundTrips (List NewsItem) ∧ RoundTrips (List User) ∧
        RoundTrips (List LoginReply) ∧ RoundTrips (List Subscription)) ∧
      ∀ (server live : Option String) (store : StoreKind) (heartbeat timeout : Option UInt64)
        (logDirectory lastUser : Option String) (path : String) (node : Files.Node),
        let c : Config :=
          ⟨server, live, store, heartbeat.map UInt64.toNat, timeout.map UInt64.toNat,
            logDirectory, lastUser⟩
        (∀ saved, c.save node = .ok saved → Config.load path saved = .ok c) ∧
          (node ≠ .directory → node ≠ .blocked → ∃ saved, c.save node = .ok saved) := by
  refine ⟨⟨roundTrips _, roundTrips _, roundTrips _, roundTrips _, roundTrips _⟩,
    ⟨roundTrips _, roundTrips _, roundTrips _, roundTrips _, roundTrips _⟩, ?_⟩
  intro server live store heartbeat timeout logDirectory lastUser path node c
  have hfits : c.Fits := ⟨fun _ => Json.toNat_lt_wordLimit, fun _ => Json.toNat_lt_wordLimit⟩
  refine ⟨fun saved hsave => Config.load_save hfits hsave path, fun hdirectory hblocked => ?_⟩
  cases node with
  | absent => exact ⟨_, rfl⟩
  | file bytes => exact ⟨_, rfl⟩
  | directory => exact absurd rfl hdirectory
  | blocked => exact absurd rfl hblocked

end NewsReader
