import NewsReader.Proofs.Config.Trees
import NewsReader.Proofs.Json.Variation
import NewsReader.Proofs.Records.RoundTrip
import NewsReader.Proofs.Text.Blank

/-!
# Records depend on their fields only

What a record is decoded as depends on the members that are named after its fields. The others can
be anything, the order of all of them makes no difference, and neither do blanks. A date that is
missing can be spelled in several ways.

* `Json.Varies` — the changes to the members of an object that make no difference.
* `PublishDate.SpellsNone.takes_iff` — the spellings of a missing date are taken as one.
* `RecordShape.dependsOnFields` — records depend on their fields if their values are trees.
* `decoding_depends_on_fields` — feeds, news items, users, answers to logins, subscriptions and
  configurations.
-/

namespace NewsReader

open Calendar (Date)
open Json (Reader RecordShape Stands Tree Wire WritesText)

/-! ### Missing dates -/

namespace PublishDate

/-- The values that give no date: `null`, and strings that are empty or blank. -/
inductive SpellsNone : Tree → Prop where
  | null : SpellsNone (.word .null)
  | blank {raw cs : List Char} (hraw : WritesText raw cs) (hblank : ∀ c ∈ cs, Text.isBlank c) :
    SpellsNone (.text raw)

/-- Dates that may be missing are trees. -/
theorem readsTrees : reader.ReadsTrees :=
  (Reader.readsTrees_text _).optional.filterMap _

/-- A blank text gives no date. -/
theorem ofText_of_isBlank {cs : List Char} (h : ∀ c ∈ cs, Text.isBlank c) :
    ofText (String.ofList cs) = .ok none := by
  have htrim : Text.trimChars (cs ++ [] ++ []) = [] :=
    Text.trimChars_append (by simpa using h) (by simp) (by simp)
  rw [List.append_nil, List.append_nil] at htrim
  simp [ofText, htrim]

/-- What spells a missing date is taken as one, and as nothing else. -/
theorem SpellsNone.takes_iff {t : Tree} {d : Option Date} (h : SpellsNone t) :
    reader.Takes t d ↔ d = none := by
  have htakes : reader.Takes t none := by
    cases h with
    | null => exact (Reader.takes_null _).filterMap rfl
    | blank hraw hblank =>
      exact ((Reader.takes_text hraw _).optional (by simp [Tree.kind])).filterMap
        (ofText_of_isBlank hblank)
  obtain ⟨s, hstands⟩ : ∃ s, Stands (.value t) s [] := by
    cases h with
    | null => exact ⟨_, .word⟩
    | blank hraw _ => exact ⟨_, .text hraw.isRaw⟩
  exact ⟨fun h' => h'.unique htakes hstands (Tree.stopsAt_of_skipSpace_nil rfl),
    fun h => h ▸ htakes⟩

end PublishDate

/-! ### Changes that make no difference -/

/-- The members of one object vary those of another, for a record with fields of these names, one of
which may be a date: they are put in another order, a member with another name is added, a date that
is missing is spelled out, or any of this is undone. -/
inductive Json.Varies (names : List String) (date : Option String) :
    List (List Char × Tree) → List (List Char × Tree) → Prop where
  | order {ms ms' : List (List Char × Tree)} (h : ms.Perm ms') : Varies names date ms ms'
  | other {ms : List (List Char × Tree)} {raw name : List Char} {t : Tree}
    (hraw : WritesText raw name)
    (hname : String.ofList name ∉ names) : Varies names date ms ((raw, t) :: ms)
  | noDate {ms : List (List Char × Tree)} {raw name : List Char} {t : Tree}
    (hraw : WritesText raw name)
    (hname : String.ofList name ∈ date) (ht : PublishDate.SpellsNone t)
      (hms : ∀ m ∈ ms, ¬WritesText m.1 name) :
    Varies names date ms ((raw, t) :: ms)
  | symm {ms ms' : List (List Char × Tree)} (h : Varies names date ms ms') :
    Varies names date ms' ms
  | trans {ms ms' ms'' : List (List Char × Tree)} (h : Varies names date ms ms')
    (h' : Varies names date ms' ms'') : Varies names date ms ms''

/-- Values of the type depend on their fields only. A text that is decoded is one tree; if the tree
is an object, any text whose tree is an object with varied members is decoded as the same value; and
so are lists of such objects, element by element. -/
structure Json.DependsOnFields (α : Type) [Wire α] (names : List String) (date : Option String) :
    Prop where
  /-- What is decoded is one tree. -/
  existsUnique_tree (text : String) (a : α) : Wire.decode text = .ok a →
    ∃! t : Tree, t.Writes text
  /-- Objects can be varied. -/
  object (ms ms' : List (List Char × Tree)) (text text' : String) : Varies names date ms ms' →
    (Tree.object ms).Writes text → (Tree.object ms').Writes text' → ∀ a : α,
      Wire.decode text = .ok a ↔ Wire.decode text' = .ok a
  /-- So can the elements of lists. -/
  list (mss mss' : List (List (List Char × Tree))) (text text' : String) :
    List.Forall₂ (Varies names date) mss mss' →
    (Tree.list (mss.map .object)).Writes text → (Tree.list (mss'.map .object)).Writes text' →
    ∀ as : List α, Wire.decode text = .ok as ↔ Wire.decode text' = .ok as

namespace Json.RecordShape

variable {R : Type} {shape : RecordShape R} {r : R} {ms ms' : List (List Char × Tree)}
  {date : Option String}

/-- A date of this name may be missing from the record. -/
def SparesDate (shape : RecordShape R) (date : Option String) : Prop :=
  ∀ name ∈ date, ∀ t, PublishDate.SpellsNone t → shape.fields.Spares name.toList t

/-- Varied members make up the same record. -/
theorem holds_iff_of_varies (hdate : shape.SparesDate date)
    (h : Varies shape.fields.names date ms ms') : shape.Holds ms r ↔ shape.Holds ms' r := by
  induction h with
  | order h => exact holds_perm h
  | other hraw hname => exact (holds_cons_of_not_mem hraw hname).symm
  | noDate hraw hname ht hms =>
    have hspares := hdate _ hname _ ht
    rw [String.toList_ofList] at hspares
    exact (holds_cons_of_spares hraw hspares hms).symm
  | symm _ ih => exact ih.symm
  | trans _ _ ih ih' => exact ih.trans ih'

/-- Varied objects are taken as the same records, element by element. -/
theorem takes_of_varies (hfields : shape.fields.ReadTrees) (hdate : shape.SparesDate date)
    {mss mss' : List (List (List Char × Tree))} {rs : List R}
    (h : List.Forall₂ (Varies shape.fields.names date) mss mss')
    (hstands : ∀ t ∈ mss.map Tree.object, ∃ s rest, Stands (.value t) s rest)
    (htakes : List.Forall₂ shape.reader.Takes (mss.map .object) rs) :
    List.Forall₂ shape.reader.Takes (mss'.map .object) rs := by
  induction h generalizing rs with
  | nil => exact htakes
  | cons hvaries _ ih =>
    obtain _ | ⟨hfirst, hlater⟩ := htakes
    obtain ⟨⟨s, rest, hfirst'⟩, hstands⟩ := List.forall_mem_cons.mp hstands
    have hholds := (takes_object_iff hfields hfirst').mp hfirst
    exact .cons ((holds_iff_of_varies hdate hvaries).mp hholds).takes (ih hstands hlater)

/-- A list of varied objects is decoded as the same records. -/
theorem decode_list_of_varies (hfields : shape.fields.ReadTrees) (hdate : shape.SparesDate date)
    {mss mss' : List (List (List Char × Tree))} {text text' : String} {rs : List R}
    (h : List.Forall₂ (Varies shape.fields.names date) mss mss')
    (ht : (Tree.list (mss.map .object)).Writes text)
    (ht' : (Tree.list (mss'.map .object)).Writes text')
    (hdecode : shape.reader.list.decode text = .ok rs) :
    shape.reader.list.decode text' = .ok rs := by
  have hitem := readsTrees hfields
  have htakes := (hitem.list.decode_eq_ok_iff ht).mp hdecode
  obtain ⟨rest, hstands, -⟩ := ht
  obtain ⟨s, -, helements⟩ := stands_list.mp hstands
  have hall := takes_of_varies hfields hdate h (fun _ => helements.exists_of_mem)
    ((hitem.takes_list_iff hstands).mp htakes)
  exact (Reader.takes_list hall).decode ht'

/-- Records depend on their fields only. -/
theorem dependsOnFields [Wire R] (hreader : Wire.reader = shape.reader)
    (hfields : shape.fields.ReadTrees) (hdate : shape.SparesDate date) :
    DependsOnFields R shape.fields.names date where
  existsUnique_tree text r h := by
    rw [Wire.decode, hreader] at h
    obtain ⟨t, ht, -⟩ := (readsTrees hfields).exists_of_decode h
    exact ⟨t, ht, fun t' ht' => ht'.unique ht⟩
  object ms ms' text text' hvaries ht ht' r := by
    obtain ⟨rest, hstands, -⟩ := id ht
    obtain ⟨rest', hstands', -⟩ := id ht'
    simp only [Wire.decode, hreader]
    rw [(readsTrees hfields).decode_eq_ok_iff ht, (readsTrees hfields).decode_eq_ok_iff ht',
      takes_object_iff hfields hstands, takes_object_iff hfields hstands',
        holds_iff_of_varies hdate hvaries]
  list mss mss' text text' hvaries ht ht' rs := by
    have hlist : (Wire.reader : Reader (List R)) = shape.reader.list := congrArg Reader.list hreader
    simp only [Wire.decode, hlist]
    -- Both directions are the same statement, since the variation can be undone.
    have hvaries' : List.Forall₂ (Varies shape.fields.names date) mss' mss :=
      hvaries.flip.imp fun _ _ => .symm
    exact ⟨decode_list_of_varies hfields hdate hvaries ht ht',
      decode_list_of_varies hfields hdate hvaries' ht' ht⟩

/-- A record without a date has no date to be missing. -/
theorem sparesDate_none : shape.SparesDate none :=
  fun _ hname => absurd hname (Option.not_mem_none _)

end Json.RecordShape

/-! ### The records -/

/-- The field for the date takes what spells a missing date as much as no member. -/
theorem PublishDate.spares_field {ts : List Type} {fields : Json.Fields ts} {t : Tree}
    (h : SpellsNone t) : (Json.Fields.cons field fields).Spares "publish_date".toList t :=
  (Json.Fields.spares_cons_pos rfl).mpr ⟨none, rfl, fun _ => h.takes_iff⟩

open Json.Fields (spares_cons_neg)

/-- A feed may have no date. -/
theorem Feed.sparesDate : shape.SparesDate (some "publish_date") := by
  rintro _ ⟨⟩ t ht
  exact (spares_cons_neg (by decide)).mpr <| (spares_cons_neg (by decide)).mpr <|
    (spares_cons_neg (by decide)).mpr <|
    (spares_cons_neg (by decide)).mpr <| PublishDate.spares_field ht

/-- A news item may have no date. -/
theorem NewsItem.sparesDate : shape.SparesDate (some "publish_date") := by
  rintro _ ⟨⟩ t ht
  exact (spares_cons_neg (by decide)).mpr <| (spares_cons_neg (by decide)).mpr <|
    (spares_cons_neg (by decide)).mpr <|
    (spares_cons_neg (by decide)).mpr <| PublishDate.spares_field ht

/-- What is decoded depends on the known fields only, for feeds, news items, users, answers to
logins, subscriptions and configurations, and for lists of them. Their members can be put in any
order, have any blanks between them, and stand among any others with other names; and a date that is
missing can be left out or be spelled as `null` or as a blank string. -/
theorem decoding_depends_on_fields :
    Json.DependsOnFields Feed ["id", "url", "title", "author", "publish_date"]
      (some "publish_date") ∧
      Json.DependsOnFields NewsItem ["id", "title", "author", "url", "publish_date", "feed_id"]
        (some "publish_date") ∧
      Json.DependsOnFields User ["id", "name"] none ∧
      Json.DependsOnFields LoginReply ["token"] none ∧
      Json.DependsOnFields Subscription ["user_id", "feed_id"] none ∧
      Json.DependsOnFields Config ["server_url", "live_url", "token_store", "heartbeat_interval_ms",
        "request_timeout_secs", "log_dir", "last_username"] none := by
  have htext := Reader.readsTrees_text "a string"
  exact ⟨Feed.shape.dependsOnFields rfl ⟨htext, htext, htext, htext, PublishDate.readsTrees,
    trivial⟩ Feed.sparesDate,
    NewsItem.shape.dependsOnFields rfl
      ⟨htext.optional, htext, htext, htext, PublishDate.readsTrees, htext, trivial⟩
      NewsItem.sparesDate,
    User.shape.dependsOnFields rfl ⟨htext, htext, trivial⟩ RecordShape.sparesDate_none,
    LoginReply.shape.dependsOnFields rfl ⟨htext, trivial⟩ RecordShape.sparesDate_none,
    Subscription.shape.dependsOnFields rfl ⟨htext, htext, trivial⟩ RecordShape.sparesDate_none,
    Config.shape.dependsOnFields rfl Config.readTrees RecordShape.sparesDate_none⟩

/-- A feed is decoded as the same, with its date left open by a blank string instead of `null`, two
members in the other order and another member before them all. -/
theorem decoding_depends_on_fields_respelled :
    (Wire.decode
      "\x7b\"id\":\"1\",\"url\":\"u\",\"title\":\"t\",\"author\":\"a\",\"publish_date\":null\x7d" :
      Except Json.Fault Feed) = .ok ⟨"1", "u", "t", "a", none⟩ ∧
    (Wire.decode (" \x7b \"x\" : [ \x7b \x7d , null ] , \"publish_date\" : \" \" ,\n" ++
      "\"url\":\"u\",\"id\":\"1\",\"title\":\"t\",\"author\":\"a\" \x7d ") :
        Except Json.Fault Feed) =
      .ok ⟨"1", "u", "t", "a", none⟩ := by
  have hplain (text : String) (h : text.toList.all Json.isPlain) := WritesText.of_plain h
  have hdate := hplain "publish_date" (by decide)
  have hid := (hplain "id" (by decide)).isRaw
  have hurl := (hplain "url" (by decide)).isRaw
  have htitle := (hplain "title" (by decide)).isRaw
  have hauthor := (hplain "author" (by decide)).isRaw
  have h1 := (hplain "1" (by decide)).isRaw
  have hu := (hplain "u" (by decide)).isRaw
  have ht := (hplain "t" (by decide)).isRaw
  have ha := (hplain "a" (by decide)).isRaw
  have hlacks : ∀ m ∈ [("id".toList, Tree.text "1".toList), ("url".toList, .text "u".toList),
      ("title".toList, .text "t".toList), ("author".toList, .text "a".toList)],
      ¬WritesText m.1 "publish_date".toList := by
    have hne (name : String) (h : name.toList.all Json.isPlain)
        (hname : name.toList ≠ "publish_date".toList) :
        ¬WritesText name.toList "publish_date".toList :=
      fun hwrites => hname ((hplain name h).unique hwrites)
    simp only [List.forall_mem_cons]
    exact ⟨hne "id" (by decide) (by decide), hne "url" (by decide) (by decide),
      hne "title" (by decide) (by decide),
      hne "author" (by decide) (by decide), List.forall_mem_nil _⟩
  have hblank := hplain " " (by decide)
  have hnone : PublishDate.SpellsNone (.text " ".toList) :=
    .blank hblank (List.all_eq_true.mp (by decide))
  have hother := hplain "x" (by decide)
  -- The date is taken out and spelled anew, the other member is put before it, and two members
  -- change places.
  have hvaries : Json.Varies ["id", "url", "title", "author", "publish_date"] (some "publish_date")
      [("id".toList, .text "1".toList), ("url".toList, .text "u".toList),
        ("title".toList, .text "t".toList), ("author".toList, .text "a".toList),
        ("publish_date".toList, .word .null)]
      [("x".toList, .list [.object [], .word .null]), ("publish_date".toList, .text " ".toList),
        ("url".toList, .text "u".toList), ("id".toList, .text "1".toList),
        ("title".toList, .text "t".toList), ("author".toList, .text "a".toList)] :=
    .trans (.order (List.perm_append_singleton _ [_, _, _, _])) <|
      .trans (.symm (.noDate hdate rfl .null hlacks)) <|
      .trans (.noDate hdate rfl hnone hlacks) <| .trans (.other hother (by decide)) <|
      .order (.cons _ (.cons _ (.swap _ _ _)))
  have htext : (Wire.json (⟨"1", "u", "t", "a", none⟩ : Feed)).compact =
      "\x7b\"id\":\"1\",\"url\":\"u\",\"title\":\"t\",\"author\":\"a\",\"publish_date\":null\x7d" :=
    by decide +kernel
  have hdecode := Json.LawfulWire.decode_compact (⟨"1", "u", "t", "a", none⟩ : Feed)
  rw [htext] at hdecode
  simp only [String.reduceToList] at hid hurl htitle hauthor hdate hother h1 hu ht ha hblank
  refine ⟨hdecode,
    (decoding_depends_on_fields.1.object _ _ _ _ hvaries ⟨[], ?_, rfl⟩ ⟨[' '], ?_, rfl⟩
      _).mp hdecode⟩
  · simp only [String.reduceToList]
    exact .object <| .member rfl rfl hid rfl (.text h1) <| .member rfl rfl hurl rfl (.text hu) <|
      .member rfl rfl htitle rfl (.text ht) <| .member rfl rfl hauthor rfl (.text ha) <|
      .member rfl rfl hdate.isRaw rfl .word <| .endMembers rfl
  · simp only [String.reduceAppend, String.reduceToList]
    exact .object <| .member rfl rfl hother.isRaw rfl
        (.list <| .element rfl (.object (.endMembers rfl)) <| .element rfl .word <|
          .endElements rfl) <|
      .member rfl rfl hdate.isRaw rfl (.text hblank.isRaw) <|
      .member rfl rfl hurl rfl (.text hu) <| .member rfl rfl hid rfl (.text h1) <|
      .member rfl rfl htitle rfl (.text ht) <| .member rfl rfl hauthor rfl (.text ha) <|
        .endMembers rfl

end NewsReader
