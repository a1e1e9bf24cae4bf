import NewsReader.Proofs.Api.Classification
import NewsReader.Proofs.Json.Variation

/-!
# The reason for a refused login

A refused login is told for a reason. It is the text of the member `message` in the body of the
reply, however this text is spelled and whatever stands around it. Where the body does not give one
text under this name, there is a fixed reason instead, so that there always is one.

* `Api.GivesReason` — the objects that give a reason.
* `Api.LacksReason` — the ways in which an object gives none.
* `Api.text_ofRefusedLogin` — the reason for any body.
-/

namespace NewsReader

/-! ### Single members -/

namespace Json

variable {s rest raw : List Char} {t : Tree} {ms : List (List Char × Tree)}

/-- The value of a member stands somewhere. -/
theorem Stands.exists_of_mem_members {first : Bool} (h : Stands (.members first ms) s rest)
    (hm : (raw, t) ∈ ms) : ∃ s rest, Stands (.value t) s rest ∧ t.StopsAt rest := by
  induction ms generalizing first s with
  | nil => cases hm
  | cons m ms ih =>
    cases h with
    | member _ _ _ _ hvalue hlater =>
      rcases List.mem_cons.mp hm with heq | hm
      · obtain ⟨-, rfl⟩ := Prod.mk.inj heq
        exact ⟨_, _, hvalue, hlater.stopsAt_of_members⟩
      · exact ih hlater hm

/-- What is taken as a text is a string that writes it. Nothing else but `null` is taken where a
text may be missing. -/
theorem Reader.of_takes_optional_text {wanted : String} {o : Option String}
    (h : (text wanted).optional.Takes t o) (ht : Stands (.value t) s rest)
    (hstop : t.StopsAt rest) :
    o = none ∨ ∃ raw cs,
      t = .text raw ∧ WritesText raw cs ∧ o = some (String.ofList cs) := by
  have hrun := h s rest (ht.skipSpace_eq.symm ▸ ht) hstop
  simp only [Reader.optional] at hrun
  split at hrun
  · obtain ⟨_, -, heq⟩ := exists_of_map_eq_ok hrun
    exact .inl (Prod.mk.inj heq).1.symm
  · obtain ⟨⟨text, _⟩, htext, heq⟩ := exists_of_map_eq_ok hrun
    obtain ⟨rfl, rfl⟩ := Prod.mk.inj heq
    obtain ⟨raw, cs, hstands, hraw, rfl⟩ := exists_of_text htext
    rw [skipSpace_skipSpace, ht.skipSpace_eq] at hstands
    -- The string that was read is the tree that stands there.
    obtain ⟨rfl, -⟩ := ht.unique hstands hstop (by rintro _ ⟨⟩)
    exact .inr ⟨raw, cs, rfl, hraw, rfl⟩

namespace Fields

variable {ts : List Type} {fields : Fields ts} {slots slots' : Slots ts}

/-- Members whose names are those of no field leave the slots as they are. -/
theorem fills_of_others
    (h : ∀ m ∈ ms, ∃ name, WritesText m.1 name ∧ String.ofList name ∉ fields.names) :
    fields.Fills slots ms slots := by
  induction ms with
  | nil => exact .nil
  | cons m ms ih =>
    obtain ⟨⟨name, hraw, hname⟩, hms⟩ := List.forall_mem_cons.mp h
    exact .cons hraw ((sets_iff_of_not_mem hname).mpr rfl) (ih hms)

/-- A slot that is filled stays as it is, and no later member has the name of its field. -/
theorem Fills.of_filled {α : Type} {field : Field α} {a : α} {slots slots' : Slots (α :: ts)}
    (h : (Fields.cons field fields).Fills slots ms slots') (hfilled : slots.1 = some a) :
    slots'.1 = some a ∧ ∀ m ∈ ms, ¬WritesText m.1 field.name.toList := by
  induction h with
  | nil => exact ⟨hfilled, by simp⟩
  | @cons slots slots' _ _ key _ _ hraw hsets _ ih =>
    obtain ⟨slot, slots⟩ := slots
    obtain ⟨slot', slots'⟩ := slots'
    obtain rfl : slot = some a := hfilled
    -- A second member with the name would fill a slot that is not empty.
    by_cases hkey : key = field.name.toList
    · obtain ⟨hnone, -⟩ := (sets_cons_pos hkey).mp hsets
      cases hnone
    · obtain ⟨rfl, -⟩ := (sets_cons_neg hkey).mp hsets
      obtain ⟨hslot, hms⟩ := ih rfl
      exact ⟨hslot, List.forall_mem_cons.mpr ⟨fun hname => hkey (hraw.unique hname), hms⟩⟩

/-- The member with the name of a field fills its slot, and no later member has the name. -/
theorem Fills.of_cons {α : Type} {field : Field α} {slots slots' : Slots (α :: ts)}
    (h : (Fields.cons field fields).Fills slots ((raw, t) :: ms) slots')
    (hraw : WritesText raw field.name.toList) :
    ∃ a, slots'.1 = some a ∧ field.value.Takes t a ∧
      ∀ m ∈ ms, ¬WritesText m.1 field.name.toList := by
  obtain _ | @⟨_, mid, _, _, key, _, _, hraw', hsets, hfills⟩ := h
  obtain ⟨slot, slots⟩ := slots
  obtain ⟨slot', mid⟩ := mid
  obtain rfl := hraw.unique hraw'
  obtain ⟨-, -, a, rfl, htakes⟩ := (sets_cons_pos rfl).mp hsets
  obtain ⟨hslot, hms⟩ := hfills.of_filled rfl
  exact ⟨a, hslot, htakes, hms⟩

end Fields

end Json

/-! ### Objects with a reason, and without -/

namespace Api

open Json (Stands Tree WritesText)

/-- The name of the member with the reason. -/
def reasonName : List Char :=
  "message".toList

/-- The name, written out. -/
theorem reasonName_eq : reasonName = "message".toList := by
  delta reasonName
  rfl

/-- An object gives a reason: one member has the name for it, and its value is a string that writes
the reason. The others are named by texts, and may have any values. -/
def GivesReason (ms : List (List Char × Tree)) (reason : String) : Prop :=
  reason ≠ "" ∧ ∃ front raw value back,
    ms = front ++ (raw, .text value) :: back ∧ WritesText raw reasonName ∧
    WritesText value reason.toList ∧
    ∀ m ∈ front ++ back, ∃ name, WritesText m.1 name ∧ name ≠ reasonName

/-- An object gives no reason. -/
inductive LacksReason : List (List Char × Tree) → Prop where
  /-- No member has the name for it. -/
  | missing {ms : List (List Char × Tree)} (h : ∀ m ∈ ms, ¬WritesText m.1 reasonName) :
    LacksReason ms
  /-- Two members have the name for it. -/
  | repeated {front middle back : List (List Char × Tree)} {raw raw' : List Char} {t t' : Tree}
    (hraw : WritesText raw reasonName) (hraw' : WritesText raw' reasonName) :
    LacksReason (front ++ (raw, t) :: (middle ++ (raw', t') :: back))
  /-- The value is `null`, or another one that is no string, or a string that writes no text. -/
  | notText {ms : List (List Char × Tree)} {raw : List Char} {t : Tree} (hm : (raw, t) ∈ ms)
    (hraw : WritesText raw reasonName)
      (ht : ∀ value cs, t = .text value → ¬WritesText value cs) : LacksReason ms
  /-- The value is the empty string. -/
  | empty {ms : List (List Char × Tree)} {raw : List Char} (hm : (raw, .text []) ∈ ms)
    (hraw : WritesText raw reasonName) : LacksReason ms

variable {ms : List (List Char × Tree)} {s rest : List Char} {body reason : String}
  {told : Option String}

/-- The reason in the body of a refused login is a tree. -/
theorem readTrees_refusalShape : refusalShape.fields.ReadTrees :=
  ⟨(Json.Reader.readsTrees_text _).optional, trivial⟩

/-- What the members tell is what they put into the one slot. -/
theorem holds_refusalShape_iff : refusalShape.Holds ms told ↔
    ∃ slot, refusalShape.fields.Fills (none, ()) ms (slot, ()) ∧ told = slot.getD none := by
  constructor
  · rintro ⟨⟨slot, ⟨⟩⟩, ⟨message, ⟨⟩⟩, hfills, hcomplete, rfl⟩
    refine ⟨slot, hfills, ?_⟩
    cases slot <;> exact (Prod.mk.inj (Except.ok.inj hcomplete)).1.symm
  · rintro ⟨slot, hfills, rfl⟩
    refine ⟨(slot, ()), (slot.getD none, ()), hfills, ?_, rfl⟩
    cases slot <;> rfl

/-- An object that gives a reason tells it. -/
theorem GivesReason.holds (h : GivesReason ms reason) : refusalShape.Holds ms (some reason) := by
  obtain ⟨-, front, raw, value, back, rfl, hraw, hvalue, hothers⟩ := h
  have htakes := (Json.Reader.takes_text hvalue "a string").optional (by simp [Tree.kind])
  rw [String.ofList_toList] at htakes
  -- The order makes no difference, so let the member come first and the others after it.
  rw [Json.RecordShape.holds_perm List.perm_middle, holds_refusalShape_iff]
  refine ⟨some (some reason),
    .cons hraw ((Json.Fields.sets_cons_pos rfl).mpr ⟨rfl, rfl, _, rfl, htakes⟩) ?_, rfl⟩
  refine Json.Fields.fills_of_others fun m hm => ?_
  obtain ⟨name, hname, hne⟩ := hothers m hm
  refine ⟨name, hname, fun hmem => hne ?_⟩
  have hmessage : String.ofList name = "message" := List.mem_singleton.mp hmem
  rw [reasonName_eq, ← hmessage, String.toList_ofList]

/-- What a member with the name of the reason tells is what its value is taken as. No other member
has the name. -/
theorem exists_takes_of_holds {front back : List (List Char × Tree)} {raw : List Char} {t : Tree}
    (h : refusalShape.Holds (front ++ (raw, t) :: back) told) (hraw : WritesText raw reasonName) :
    (Json.Reader.text "a string").optional.Takes t told ∧
      ∀ m ∈ front ++ back, ¬WritesText m.1 reasonName := by
  rw [Json.RecordShape.holds_perm List.perm_middle, holds_refusalShape_iff] at h
  obtain ⟨slot, hfills, rfl⟩ := h
  obtain ⟨message, rfl, htakes, hothers⟩ := hfills.of_cons hraw
  exact ⟨htakes, hothers⟩

/-- An object that gives no reason tells none, or an empty one. -/
theorem LacksReason.eq_of_holds (h : LacksReason ms) (hms : Stands (.members true ms) s rest)
    (hholds : refusalShape.Holds ms told) : told = none ∨ told = some "" := by
  -- A member with the name of the reason tells what its value is taken as, and that is a text only
  -- if it is a string.
  have htaken {raw : List Char} {t : Tree} (hm : (raw, t) ∈ ms)
      (hraw : WritesText raw reasonName) :
      told = none ∨ ∃ value cs,
        t = .text value ∧ WritesText value cs ∧ told = some (String.ofList cs) := by
    obtain ⟨_, _, hstands, hstop⟩ := hms.exists_of_mem_members hm
    obtain ⟨front, back, rfl⟩ := List.append_of_mem hm
    exact Json.Reader.of_takes_optional_text (exists_takes_of_holds hholds hraw).1 hstands hstop
  cases h with
  | missing h =>
    obtain ⟨slot, hfills, rfl⟩ := holds_refusalShape_iff.mp hholds
    have hlacks := (refusalShape.fields.lacks_empty reasonName).of_fills hfills h
    obtain rfl : slot = none := hlacks
    exact .inl rfl
  | @repeated _ _ _ _ raw' _ t' hraw hraw' =>
    exact absurd hraw' ((exists_takes_of_holds hholds hraw).2 (raw', t') (by simp))
  | notText hm hraw ht =>
    rcases htaken hm hraw with hnone | ⟨value, cs, heq, hvalue, -⟩
    · exact .inl hnone
    · exact absurd hvalue (ht value cs heq)
  | empty hm hraw =>
    rcases htaken hm hraw with hnone | ⟨value, cs, heq, hvalue, rfl⟩
    · exact .inl hnone
    · obtain rfl : [] = value := Tree.text.inj heq
      obtain rfl := hvalue.unique .nil
      exact .inr rfl

/-! ### The reason for a body -/

/-- The reason is the one that the body tells, if there is one that is not empty. -/
theorem refusalReason_eq_of_decode (h : refusalShape.reader.decode body = .ok (some reason))
    (hne : reason ≠ "") : refusalReason body = reason := by
  simp [refusalReason, h, hne]

/-- The reason is the fixed one if the body tells no other. -/
theorem refusalReason_eq_fallback
    (h : ∀ told, refusalShape.reader.decode body = .ok told → told = none ∨ told = some "") :
    refusalReason body = fallbackReason := by
  unfold refusalReason
  split
  · next message hdecode =>
    rcases h _ hdecode with hnone | hempty
    · cases hnone
    · obtain rfl := Option.some.inj hempty
      rfl
  · rfl

/-- There always is a reason. -/
theorem refusalReason_ne_empty (body : String) : refusalReason body ≠ "" := by
  unfold refusalReason
  split
  · split
    · decide
    · next hne => simpa using hne
  · decide

/-- What a refused login is told. If the body of the reply is an object that gives a reason, it is
exactly this reason; if the body is no JSON text, or an object that gives none, it is the fixed one.
It is never empty, and it is what both the log and the terminal show. Every login that is sent and
refused with this body fails in this way. -/
theorem text_ofRefusedLogin (body : String) :
    (∀ ms reason, (Tree.object ms).Writes body → GivesReason ms reason →
      (Failure.ofRefusedLogin body).text = reason) ∧
    ((∀ t : Tree, ¬t.Writes body) →
      (Failure.ofRefusedLogin body).text = "invalid username or password") ∧
    (∀ ms, (Tree.object ms).Writes body → LacksReason ms →
      (Failure.ofRefusedLogin body).text = "invalid username or password") ∧
    (Failure.ofRefusedLogin body).text ≠ "" ∧
    (∀ server, (Failure.ofRefusedLogin body).userMessage server =
      (Failure.ofRefusedLogin body).text) ∧
    ∀ (server name password : String) (s : Session) (request :
      Http.Request) (status : Http.Status)
        (bytes : List UInt8),
      ((Call.login name password).dispatch server s.token).1 = .sent request →
      ¬(200 ≤ status.code ∧ status.code ≤ 299) → Call.textOf bytes = body →
      ((Call.login name password).perform server (.head status (.complete bytes)) s).result =
        .error (Failure.ofRefusedLogin body) := by
  refine ⟨fun ms reason hbody hgives => ?_, fun hbody => ?_, fun ms hbody hlacks => ?_,
    refusalReason_ne_empty body, fun _ => rfl, ?_⟩
  · exact refusalReason_eq_of_decode (hgives.holds.takes.decode hbody) hgives.1
  · refine refusalReason_eq_fallback fun told hdecode => ?_
    obtain ⟨t, ht, -⟩ :=
      (Json.RecordShape.readsTrees readTrees_refusalShape).exists_of_decode hdecode
    exact absurd ht (hbody t)
  · refine refusalReason_eq_fallback fun told hdecode => ?_
    have htakes :=
      ((Json.RecordShape.readsTrees readTrees_refusalShape).decode_eq_ok_iff hbody).mp hdecode
    obtain ⟨rest, hstands, -⟩ := hbody
    have hholds := (Json.RecordShape.takes_object_iff readTrees_refusalShape hstands).mp htakes
    obtain ⟨s, -, hms⟩ := Json.stands_object.mp hstands
    exact hlacks.eq_of_holds hms hholds
  · rintro server name password s request status bytes hsent hstatus rfl
    exact ((Call.perform_classified hsent status (.complete bytes)).1 _).mpr
      (.loginRefused rfl hstatus)

/-- A login is told the reason that the body gives, with escapes in the name and in the reason,
behind a member whose value has a member of this name too. A body that is no JSON text, and one
whose reason is `null`, have the fixed reason. -/
theorem text_ofRefusedLogin_escaped :
    let body := "\x7b\"a\":[\x7b\"message\":null\x7d],\"m\\u0065ssage\":\"\\\"no\\\"\"\x7d"
    let o := (Call.login "alice" "secret").perform "http://news.test" (.head ⟨400, by decide⟩
      (.complete (Text.encode body.toList))) (.new (.memory none))
    (∃ ms, (Tree.object ms).Writes body ∧ GivesReason ms "\"no\"") ∧
      o.result = .error (.ofRefusedLogin body) ∧ (Failure.ofRefusedLogin body).text = "\"no\"" ∧
      (∀ t : Tree, ¬t.Writes "Bad Request") ∧
      (Failure.ofRefusedLogin "Bad Request").text = "invalid username or password" ∧
      (∃ ms, (Tree.object ms).Writes "\x7b\"message\":null\x7d" ∧ LacksReason ms) ∧
      (Failure.ofRefusedLogin "\x7b\"message\":null\x7d").text =
        "invalid username or password" := by
  intro body o
  have hname : WritesText reasonName reasonName := .of_plain (by decide)
  have ha : WritesText ['a'] ['a'] := .of_plain (by decide)
  -- The name has its second letter by number, and the reason has a quote at each end.
  have hhex : Json.IsHex ['0', '0', '6', '5'] 0x65 := ⟨0, 0, 6, 5, by decide, by decide⟩
  have hescaped :
      WritesText ('m' :: '\\' :: 'u' :: '0' :: '0' :: '6' :: '5' :: "ssage".toList) reasonName :=
    .plain (by decide) (by decide) (by decide)
      (.escape (.number hhex (by decide) (by decide)) (.of_plain (by decide)))
  have hreason : WritesText ['\\', '"', 'n', 'o', '\\', '"'] ['"', 'n', 'o', '"'] :=
    .escape (.letter rfl) (.plain (by decide) (by decide) (by decide)
      (.plain (by decide) (by decide) (by decide) (.escape (.letter rfl) .nil)))
  have hbody : (Tree.object [(['a'], .list [.object [(reasonName, .word .null)]]),
      ('m' :: '\\' :: 'u' :: '0' :: '0' :: '6' :: '5' :: "ssage".toList,
        .text ['\\', '"', 'n', 'o', '\\', '"'])]).Writes body := by
    refine ⟨[], ?_, rfl⟩
    simp only [reasonName_eq, String.reduceToList, body] at hname hescaped ⊢
    exact .object <| .member rfl rfl ha.isRaw rfl
      (.list <| .element rfl (.object <| .member rfl rfl hname.isRaw rfl .word <|
        .endMembers rfl) <| .endElements rfl) <|
      .member rfl rfl hescaped.isRaw rfl (.text hreason.isRaw) <| .endMembers rfl
  have hgives : GivesReason [(['a'], .list [.object [(reasonName, .word .null)]]),
      ('m' :: '\\' :: 'u' :: '0' :: '0' :: '6' :: '5' :: "ssage".toList,
        .text ['\\', '"', 'n', 'o', '\\', '"'])]
      "\"no\"" :=
    ⟨by decide, [_], _, _, [], rfl, hescaped, hreason, by simpa using ⟨_, ha, by decide⟩⟩
  have hmalformed (t : Tree) : ¬t.Writes "Bad Request" := by
    rintro ⟨rest, hstands, -⟩
    obtain ⟨c, _, hc, hstart⟩ := hstands.startsWith
    obtain rfl : 'B' = c := (List.cons.inj hc).1
    -- Only a number starts with none of the other marks, and it starts with a digit or a minus
    -- sign.
    have hkind : Tree.Kind.number = t.kind := hstart.kindOf_eq
    cases t <;> cases hkind
    replace hstart : 'B' = '-' ∨ Text.isDigit 'B' := hstart
    exact absurd hstart (by decide)
  have hnull : (Tree.object [(reasonName, .word .null)]).Writes "\x7b\"message\":null\x7d" := by
    refine ⟨[], ?_, rfl⟩
    simp only [reasonName_eq, String.reduceToList] at hname ⊢
    exact .object <| .member rfl rfl hname.isRaw rfl .word <| .endMembers rfl
  have hlacks : LacksReason [(reasonName, .word .null)] :=
    .notText List.mem_cons_self hname (by rintro _ _ ⟨⟩)
  have hsent := Call.dispatch_of_canBeSent Call.isUsable_login (by decide : Session.CanBeSent "")
  obtain ⟨htold, -, -, -, -, hrefused⟩ := text_ofRefusedLogin body
  exact ⟨⟨_, hbody, hgives⟩, hrefused _ _ _ _ _ _ _ hsent (by decide) (by simp [Call.textOf]),
    htold _ _ hbody hgives,
    hmalformed, (text_ofRefusedLogin "Bad Request").2.1 hmalformed, ⟨_, hnull, hlacks⟩,
    (text_ofRefusedLogin _).2.2.1 _ hnull hlacks⟩

end Api

end NewsReader
