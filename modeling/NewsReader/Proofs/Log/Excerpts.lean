import NewsReader.Api.Exchange
import NewsReader.Live.Payload
import NewsReader.Proofs.Json.Faults
import NewsReader.Proofs.Json.Grammar
import NewsReader.Proofs.Json.Place
import NewsReader.Proofs.Text.Excerpt
import NewsReader.Proofs.Text.Utf8

/-!
# How much of a reply is logged

Of a reply or a payload an excerpt is logged. When it cannot be decoded, the message of the fault is
logged as well, with the place at which it is met, and that is not cut. Most messages are short
whatever the reply holds: they name a kind, a field or a number, and a number is written with few
digits however many it was given with. Two of them quote a text as it stands there, one in place of
something else and one that is no date. So it is exactly the length of the quoted text and of the
place that decides (`Fault.IsBrief`). The results hold for every place, so for the one that is met.

The faults of the readers are gone through once (`Reader.FailsWith`). The events of a call are
gathered step by step: nothing of a reply is logged before the request is out, and then both its
status and its body lead only to events that `Call.Logs` allows.

* `Call.gauged_decode` — the faults of the answers to all calls.
* `Call.logs_receive` — the events of a reply.
* `logged_in_brief_iff` — the main result.
-/

namespace NewsReader

open Http (Body Reply Request Status)
open Json (Fault Found Number Place Reader RecordShape Wire)

/-! ### The length of a message -/

namespace Json.Fault

/-- What the message quotes is short enough for an excerpt that holds all of the message and the
place at which the fault is met. A text that is no date can end in a place, which is shown then. -/
def IsBrief (met : Place) : Fault → Prop
  | wrongKind (.text s) wanted =>
    (Text.quoted s).length + wanted.length + met.text.length ≤ 468
  | notDate text =>
    match Place.split? (' ' :: text.toList) with
    | none => text.length + met.text.length ≤ 486
    | some (front, own) => front.length + (own.or met).text.length ≤ 487
  | _ => True

/-- The message is short with the place exactly if what it quotes is. -/
def IsGauged (met : Place) (fault : Fault) : Prop :=
  (met.shown fault.message).length ≤ 500 ↔ fault.IsBrief met

variable {met : Place} {fault : Fault} {wanted name : String}

/-- A message that quotes nothing and leaves room for a place. -/
theorem isGauged_of_length_le (hlength : fault.message.length ≤ 443)
    (hbrief : fault.IsBrief met) : fault.IsGauged met :=
  iff_of_true (Nat.le_trans (met.length_shown_le _) (Nat.add_le_add_right hlength 57)) hbrief

/-- That a text is malformed or breaks off is told without a quote. -/
theorem isGauged_of_isBroken (h : fault.IsBroken) : fault.IsGauged met := by
  cases fault with
  | ended part => cases part <;> exact isGauged_of_length_le (by decide) trivial
  | wrongKind | belowZero | tooFew | missing | repeated | unknownName | notDate =>
    exact absurd rfl h
  | _ => exact isGauged_of_length_le (by decide) trivial

/-- What stands in place of something wanted is named. -/
theorem length_message_wrongKind (found : Found) (wanted : String) :
    (wrongKind found wanted).message.length = found.described.length + wanted.length + 25 := by
  have hframe : "invalid type: ".length = 14 ∧ ", expected ".length = 11 := by decide
  show ("invalid type: " ++ found.described ++ ", expected " ++ wanted).length = _
  simp only [String.length_append]
  omega

/-- A text in place of something wanted is quoted, and the place stands behind it. -/
theorem length_shown_wrongKind_text (hcloses : Place.closes wanted) (s : String) :
    (met.shown (wrongKind (.text s) wanted).message).length =
      (Text.quoted s).length + wanted.length + met.text.length + 32 := by
  have hshown : met.shown (wrongKind (.text s) wanted).message =
      (wrongKind (.text s) wanted).message ++ met.text :=
    Place.shown_of_closes (Place.closes_append hcloses _) met
  have hdescribed : (Found.text s).described.length = 7 + (Text.quoted s).length := by
    rw [Found.described, String.length_append]
    rfl
  rw [hshown, String.length_append, length_message_wrongKind, hdescribed]
  omega

/-- What stands in place of something wanted leads to a long message only if it is a text. -/
theorem isGauged_wrongKind {found : Found} (hfits : found.Fits) (hwanted : wanted.length ≤ 100)
    (hcloses : Place.closes wanted) : (wrongKind found wanted).IsGauged met := by
  have hshort (h : found.described.length ≤ 100) :
      (wrongKind found wanted).message.length ≤ 443 := by
    rw [length_message_wrongKind]
    omega
  cases found with
  | null | list | object => exact isGauged_of_length_le (hshort (by decide)) trivial
  | bool b => exact isGauged_of_length_le (hshort (by cases b <;> decide)) trivial
  | number n => exact isGauged_of_length_le (hshort (Number.length_described_le hfits)) trivial
  | text s =>
    rw [IsGauged, length_shown_wrongKind_text hcloses, IsBrief]
    omega

/-- A number below zero is written with few digits. -/
theorem isGauged_belowZero {n : Nat} (hfits : (Number.negative n).Fits)
    (hwanted : wanted.length ≤ 100) : (belowZero n wanted).IsGauged met := by
  have hframe : "invalid value: ".length = 15 ∧ ", expected ".length = 11 := by decide
  have hdescribed := Number.length_described_le hfits
  refine isGauged_of_length_le ?_ trivial
  show ("invalid value: " ++ (Number.negative n).described ++
    ", expected " ++ wanted).length ≤ 443
  simp only [String.length_append]
  omega

/-- The number of the elements that are there is written with few digits. -/
theorem isGauged_tooFew {count : Nat} (hcount : count < 10) (hwanted : wanted.length ≤ 100) :
    (tooFew count wanted).IsGauged met := by
  have hframe : "invalid length ".length = 15 ∧ ", expected ".length = 11 := by decide
  have hdigits : (Nat.toDigits 10 count).length ≤ 1 :=
    (Nat.length_toDigits_le_iff (by decide) (by decide)).mpr hcount
  refine isGauged_of_length_le ?_ trivial
  show ("invalid length " ++ String.ofList (Nat.toDigits 10 count) ++ ", expected " ++
    wanted).length ≤ 443
  simp only [String.length_append, String.length_ofList]
  omega

/-- A field that is missing is named. -/
theorem isGauged_missing (hname : name.length ≤ 100) : (missing name).IsGauged met := by
  have hframe : "missing field ".length = 14 ∧ "`".length = 1 := by decide
  refine isGauged_of_length_le ?_ trivial
  show ("missing field " ++ ("`" ++ name ++ "`")).length ≤ 443
  simp only [String.length_append]
  omega

/-- A field that is given twice is named. -/
theorem isGauged_repeated (hname : name.length ≤ 100) : (repeated name).IsGauged met := by
  have hframe : "duplicate field ".length = 16 ∧ "`".length = 1 := by decide
  refine isGauged_of_length_le ?_ trivial
  show ("duplicate field " ++ ("`" ++ name ++ "`")).length ≤ 443
  simp only [String.length_append]
  omega

/-- A text that is no date is quoted. -/
theorem isGauged_notDate (text : String) : (notDate text).IsGauged met := by
  have hframe : "invalid date:".toList.length = 13 ∧ "invalid date: ".length = 14 := by decide
  -- A place can start with the blank before the text, and with nothing before that.
  have hsplit : Place.split? ("invalid date: " ++ text).toList =
      (Place.split? (' ' :: text.toList)).map fun found =>
        ("invalid date:".toList ++ found.1, found.2) := by
    have hfront : ("invalid date: " ++ text).toList =
        "invalid".toList ++ (' ' :: ("date:".toList ++ (' ' :: text.toList))) := by
      rw [String.toList_append]
      rfl
    rw [hfront, Place.split?_append (by decide), Place.split?_cons rfl,
      Place.split?_append (by decide), Option.map_map, Option.map_map]
    rfl
  show (met.shown ("invalid date: " ++ text)).length ≤ 500 ↔ _
  rw [Place.shown, hsplit, IsBrief]
  cases Place.split? (' ' :: text.toList) with
  | none =>
    show ("invalid date: " ++ text ++ met.text).length ≤ 500 ↔
      text.length + met.text.length ≤ 486
    simp only [String.length_append]
    omega
  | some found =>
    show (String.ofList ("invalid date:".toList ++ found.1) ++ (found.2.or met).text).length ≤
      500 ↔ found.1.length + (found.2.or met).text.length ≤ 487
    simp only [String.length_append, String.length_ofList, List.length_append]
    omega

end Json.Fault

/-! ### The faults of the answers -/

open Json.Fault

section Readers

variable {met : Place}

namespace Json

/-- The faults of a reader of texts. -/
theorem Reader.gauged_text : (Reader.text "a string").FailsWith (Fault.IsGauged met) :=
  failsWith_text (fun _ => isGauged_of_isBroken)
    fun _ hfits => isGauged_wrongKind hfits (by decide) (by decide)

/-- The faults of a reader of whole numbers. -/
theorem Reader.gauged_natural : Reader.natural.FailsWith (Fault.IsGauged met) :=
  failsWith_natural (fun _ => isGauged_of_isBroken)
    (fun _ hfits => isGauged_wrongKind hfits (by decide) (by decide))
    fun _ hfits => isGauged_belowZero hfits (by decide)

/-- The faults of a reader of lists. -/
theorem Reader.FailsWith.gauged_list {α : Type} {item : Reader α}
    (h : item.FailsWith (Fault.IsGauged met)) : item.list.FailsWith (Fault.IsGauged met) :=
  h.list (fun _ => isGauged_of_isBroken)
    fun _ hfits => isGauged_wrongKind hfits (by decide) (by decide)

/-- A field whose values have such faults, and whose name is short. -/
theorem Fields.FailsWith.gauged_cons {α : Type} {ts : List Type} {field : Field α}
    {fields : Fields ts} (hvalue : field.value.FailsWith (Fault.IsGauged met))
    (hname : field.name.length ≤ 100) (h : fields.FailsWith (Fault.IsGauged met)) :
    (Fields.cons field fields).FailsWith (Fault.IsGauged met) :=
  ⟨hvalue, isGauged_missing hname, isGauged_repeated hname, h⟩

/-- The faults of a record with few fields and short names. -/
theorem RecordShape.gauged_reader {R : Type} {shape : RecordShape R}
    (h : shape.fields.FailsWith (Fault.IsGauged met)) (hcount : shape.fields.count ≤ 10)
    (hname : shape.name.length ≤ 60) (hcloses : Place.closes shape.name) :
    shape.reader.FailsWith (Fault.IsGauged met) := by
  have hframe : "struct ".length = 7 ∧ " with ".length = 6 := by decide
  have hunit : (if shape.fields.count = 1 then " element" else " elements").length ≤ 9 := by
    split <;> decide
  have hdigits : (Nat.toDigits 10 shape.fields.count).length ≤ 2 :=
    (Nat.length_toDigits_le_iff (by decide) (by decide)).mpr
      (Nat.lt_of_le_of_lt hcount (by decide))
  have hwanted : shape.wanted.length ≤ 67 := by
    rw [wanted, String.length_append]
    omega
  refine failsWith_reader h (fun _ => isGauged_of_isBroken)
    (fun _ hfits => isGauged_wrongKind hfits (by omega) (Place.closes_append hcloses "struct ")) ?_
  intro count hlt
  refine isGauged_tooFew (by omega) ?_
  simp only [wantedLength, String.length_append, String.length_ofList]
  omega

end Json

/-- The faults of a reader of dates. -/
theorem PublishDate.gauged_reader : reader.FailsWith (Fault.IsGauged met) := by
  refine (Reader.gauged_text.optional fun _ => isGauged_of_isBroken).filterMap fun text => ?_
  cases text with
  | none => exact .ok _
  | some text =>
    unfold ofText? ofText
    dsimp only
    split
    · exact .ok _
    · split
      · exact .ok _
      · exact .error (isGauged_notDate _)

/-- The faults of users. -/
theorem User.gauged_reader : shape.reader.FailsWith (Fault.IsGauged met) :=
  RecordShape.gauged_reader (.gauged_cons Reader.gauged_text (by decide) <|
    .gauged_cons Reader.gauged_text (by decide) trivial) (by decide) (by decide) (by decide)

/-- The faults of answers to a login. -/
theorem LoginReply.gauged_reader : shape.reader.FailsWith (Fault.IsGauged met) :=
  RecordShape.gauged_reader (.gauged_cons Reader.gauged_text (by decide) trivial) (by decide)
    (by decide) (by decide)

/-- The faults of feeds. -/
theorem Feed.gauged_reader : shape.reader.FailsWith (Fault.IsGauged met) :=
  RecordShape.gauged_reader (.gauged_cons Reader.gauged_text (by decide) <|
    .gauged_cons Reader.gauged_text (by decide) <| .gauged_cons Reader.gauged_text (by decide) <|
    .gauged_cons Reader.gauged_text (by decide) <|
    .gauged_cons PublishDate.gauged_reader (by decide) trivial)
    (by decide) (by decide) (by decide)

/-- The faults of subscriptions. -/
theorem Subscription.gauged_reader : shape.reader.FailsWith (Fault.IsGauged met) :=
  RecordShape.gauged_reader (.gauged_cons Reader.gauged_text (by decide) <|
    .gauged_cons Reader.gauged_text (by decide) trivial) (by decide) (by decide) (by decide)

/-- The faults of news items. -/
theorem NewsItem.gauged_reader : shape.reader.FailsWith (Fault.IsGauged met) :=
  RecordShape.gauged_reader
    (.gauged_cons (Reader.gauged_text.optional fun _ => isGauged_of_isBroken) (by decide) <|
    .gauged_cons Reader.gauged_text (by decide) <| .gauged_cons Reader.gauged_text (by decide) <|
    .gauged_cons Reader.gauged_text (by decide) <|
    .gauged_cons PublishDate.gauged_reader (by decide) <|
    .gauged_cons Reader.gauged_text (by decide) trivial) (by decide) (by decide) (by decide)

/-- The faults of the answers to all calls. -/
theorem Call.gauged_decode {α : Type} (call : Call α) (body : String) :
    Json.FailsWith (Fault.IsGauged met) (call.decode body) := by
  have hwhole {β : Type} {item : Reader β} (h : item.FailsWith (Fault.IsGauged met)) :
      Json.FailsWith (Fault.IsGauged met) (item.decode body) :=
    h.decode (fun _ => isGauged_of_isBroken) body
  cases call with
  | login => exact hwhole LoginReply.gauged_reader
  | logout => exact .ok _
  | me => exact hwhole User.gauged_reader
  | feeds => exact hwhole Feed.gauged_reader.gauged_list
  | news => exact hwhole NewsItem.gauged_reader.gauged_list
  | subscriptions => exact hwhole Subscription.gauged_reader.gauged_list
  | subscribe => exact hwhole Subscription.gauged_reader
  | unsubscribe => exact hwhole Reader.gauged_natural

/-- The faults of pushed payloads. -/
theorem Live.gauged_decode (payload : String) :
    Json.FailsWith (Fault.IsGauged met) (Wire.decode payload : Except Fault NewsItem) :=
  NewsItem.gauged_reader.decode (fun _ => isGauged_of_isBroken) payload

end Readers

/-! ### The events of a call -/

/-- The names of the fields that can hold something of a reply or of a payload. -/
def Event.contentNames : List String :=
  ["body", "payload", "error"]

/-- The logged fields of the event that can hold something of a reply or of a payload. -/
def Event.contents (event : Event) (met : Place) : List (String × String) :=
  (event.fieldsAt met).filter (contentNames.contains ·.1)

/-- Excerpts are all that a logged field has of a reply or a payload, but for the fault in it. -/
theorem Event.length_le_of_mem_contents (event : Event) (met : Place) :
    ∀ field ∈ event.contents met, field.1 ≠ "error" → field.2.length ≤ 500 := by
  have hexcerpt (limit : Nat) (hlimit : limit ≤ 500) (text : String) :
      (Text.excerpt limit text).length ≤ 500 := by
    rw [Text.length_excerpt]
    omega
  intro field hfield hname
  cases event with
  | requestFailed method url status body =>
    obtain rfl := List.mem_singleton.mp hfield
    exact hexcerpt bodyLimit (by decide) body
  | payloadDropped error payload =>
    rcases List.mem_cons.mp hfield with rfl | hfield
    · exact absurd rfl hname
    · obtain rfl := List.mem_singleton.mp hfield
      exact hexcerpt payloadLimit (by decide) payload
  | unexpectedBody | channelRefused | removalFailed | keepingFailed | loadingFailed
  | loginLineFailed | pingFailed | closeFailed | channelBroken =>
    obtain rfl := List.mem_singleton.mp hfield
    exact absurd rfl hname
  | _ => cases hfield

/-- The event is about the vault of the session. -/
def Event.isOfVault : Event → Bool
  | removalFailed _ | keepingFailed _ => true
  | _ => false

/-- The text that a reply gives for an answer: its status is a success, and its body comes in
whole. -/
def Http.Reply.answer? : Reply → Option String
  | .head status body => if status.isSuccess then body.text? else Option.none
  | _ => Option.none

/-- What a call logs once its request is out, when this reply comes back and this is the session
before it. -/
inductive Call.Logs {α : Type} (call : Call α) (reply : Reply) (s : Session) :
    Event → Prop where
  /-- Nothing of the reply. -/
  | plain {event : Event} (hof : event.isOfVault = false) (h : ∀ met, event.contents met = []) :
    call.Logs reply s event
  /-- That the call was refused, with a text. -/
  | refused {method : Http.Method} {url : String} {status : Status} {body : String} :
    call.Logs reply s (.requestFailed method url status body)
  /-- That the answer is not what is wanted, with the fault of its text. -/
  | unexpected {url body : String} {fault : Fault} (hanswer : reply.answer? = some body)
    (hdecode : call.decode body = .error fault) :
    call.Logs reply s (.unexpectedBody url fault.message)
  /-- That the kept token cannot be removed, which the vault of the session is the reason for. -/
  | removal {fault : Vault.Fault} (h : s.vault.clear.1 = .error fault) :
    call.Logs reply s (.removalFailed fault.message)
  /-- That no token can be kept, which the vault of the session is the reason for. -/
  | keeping {fault : Vault.Fault} (h : ∀ token, (s.vault.save token).1 = .error fault) :
    call.Logs reply s (.keepingFailed fault.message)

/-- A vault that cannot keep a token can keep no token, for the same reason. -/
theorem Vault.save_eq_error {v : Vault} {token : String} {fault : Vault.Fault}
    (h : (v.save token).1 = .error fault) (token' : String) : (v.save token').1 = .error fault := by
  cases v with
  | memory => cases h
  | unreliable _ refused =>
    unfold save at h ⊢
    dsimp only at h ⊢
    split at h
    · next hrefused => rw [if_pos hrefused, ← h]
    · cases h
  | directory d =>
    obtain ⟨path, place⟩ := d
    cases place with
    | absent => cases h
    | file => exact h
    | directory mode node =>
      -- Whether the file can be written depends on what stands there, and not on the text.
      cases node with
      | absent | file => cases h
      | directory | blocked => exact h
  | keychain slot k =>
    unfold save Keychain.save at h ⊢
    dsimp only at h ⊢
    split at h
    · exact h
    · cases h

namespace Session

variable {s : Session} {event : Event}

/-- What is logged when the token is dropped. -/
theorem removalFailed_of_mem_drop (h : event ∈ s.drop.2) :
    ∃ fault : Vault.Fault, s.vault.clear.1 = .error fault ∧
      event = .removalFailed fault.message := by
  unfold drop clear at h
  dsimp only at h
  split at h
  · cases h
  · next hclear =>
    obtain ⟨hfault, -⟩ := Prod.mk.inj hclear
    exact ⟨_, hfault, List.mem_singleton.mp h⟩

/-- What is logged when a token is taken. -/
theorem keepingFailed_of_mem_take {token : String} (h : event ∈ (s.take token).2) :
    ∃ fault : Vault.Fault, (s.vault.save token).1 = .error fault ∧
      event = .keepingFailed fault.message := by
  unfold take setToken at h
  dsimp only at h
  split at h
  · cases h
  · next hsave =>
    obtain ⟨hfault, -⟩ := Prod.mk.inj hsave
    exact ⟨_, hfault, List.mem_singleton.mp h⟩

end Session

namespace Call

variable {α : Type} {call : Call α} {server : String} {reply : Reply} {s : Session}
  {event : Event}

/-- Dropping the token. -/
theorem logs_of_mem_drop (h : event ∈ s.drop.2) : call.Logs reply s event := by
  obtain ⟨fault, hclear, rfl⟩ := Session.removalFailed_of_mem_drop h
  exact .removal hclear

/-- Taking a token. -/
theorem logs_of_mem_take {token : String} (h : event ∈ (s.take token).2) :
    call.Logs reply s event := by
  obtain ⟨fault, hsave, rfl⟩ := Session.keepingFailed_of_mem_take h
  exact .keeping (Vault.save_eq_error hsave)

/-- The success of a call. -/
theorem logs_of_mem_successEvents (h : event ∈ call.successEvents) : call.Logs reply s event := by
  cases call with
  | login | logout =>
    obtain rfl := List.mem_singleton.mp h
    exact .plain rfl fun _ => rfl
  | _ => cases h

/-- Taking the status. -/
theorem logs_receiveHead {request : Request} {status : Status}
    (h : event ∈ (call.receiveHead request status s).2.2) : call.Logs reply s event := by
  unfold receiveHead at h
  split at h
  · split at h
    · rcases List.mem_append.mp h with h | h
      · exact logs_of_mem_drop h
      · exact logs_of_mem_successEvents h
    · cases h
  · split at h
    · rcases List.mem_cons.mp h with rfl | h
      · exact .plain rfl fun _ => rfl
      · exact logs_of_mem_drop h
    · cases h

/-- A successful status that does not end the call leaves the session. -/
theorem session_receiveHead_of_isSuccess {request : Request} {status : Status}
    (hsuccess : status.isSuccess)
    (h : ∀ result, (call.receiveHead request status s).1 ≠ .done result) :
    (call.receiveHead request status s).2.1 = s := by
  unfold receiveHead at h ⊢
  rw [if_pos hsuccess] at h ⊢
  cases hend : call.endsAtHead with
  | none => rfl
  | some answer =>
    rw [hend] at h
    exact absurd rfl (h _)

/-- Taking the body. The session matters only if the call was successful, and then it is still the
one before. -/
theorem logs_receiveBody {request : Request} {status : Status} {body : Body} {s' : Session}
    (hs : status.isSuccess → s' = s)
    (h : event ∈ (call.receiveBody request status body s').2.2) :
    call.Logs (.head status body) s event := by
  unfold receiveBody at h
  split at h
  · cases h
  · next text htext =>
    split at h
    · next hsuccess =>
      obtain rfl := hs hsuccess
      split at h
      · next fault hdecode =>
        obtain rfl := List.mem_singleton.mp h
        exact .unexpected ((if_pos hsuccess).trans htext) hdecode
      · split at h
        · exact logs_of_mem_successEvents h
        · rcases List.mem_append.mp h with h | h
          · exact logs_of_mem_take h
          · exact logs_of_mem_successEvents h
    · rcases List.mem_cons.mp h with rfl | h
      · exact .refused
      · cases call with
        | login =>
          obtain rfl := List.mem_singleton.mp h
          exact .plain rfl fun _ => rfl
        | _ => cases h

/-- Taking the reply. -/
theorem logs_receive {request : Request} (h : event ∈ (call.receive request reply s).2.2) :
    call.Logs reply s event := by
  cases reply with
  | head status body =>
    have hhead (h : event ∈ (call.receiveHead request status s).2.2) :
        call.Logs (.head status body) s event :=
      logs_receiveHead h
    have hkept : status.isSuccess →
        (∀ result, (call.receiveHead request status s).1 ≠ .done result) →
        (call.receiveHead request status s).2.1 = s :=
      session_receiveHead_of_isSuccess
    unfold receive at h
    dsimp only at h
    generalize call.receiveHead request status s = headed at h hhead hkept
    obtain ⟨stage, s', events⟩ := headed
    -- The body is taken only if the status did not end the call.
    have hbody (hstage : ∀ result, stage ≠ .done result)
        (h : event ∈ events ++ (call.receiveBody request status body s').2.2) :
        call.Logs (.head status body) s event := by
      rcases List.mem_append.mp h with h | h
      · exact hhead h
      · exact logs_receiveBody (fun hsuccess => hkept hsuccess hstage) h
    cases stage with
    | done result => exact hhead h
    | sent | headed => exact hbody (by rintro _ ⟨⟩) h
  | _ => cases h

/-- An answer that is not what is wanted is logged with the fault of its text. -/
theorem unexpectedBody_mem_receive {body : String} {fault : Fault}
    (hanswer : reply.answer? = some body) (hdecode : call.decode body = .error fault)
    (request : Request) (s : Session) :
    .unexpectedBody request.url.text fault.message ∈ (call.receive request reply s).2.2 := by
  -- A logout would be over before its body is read, but its decoding does not fail.
  have hend : call.endsAtHead = none := by
    cases call with
    | logout => cases hdecode
    | _ => rfl
  cases reply with
  | head status content =>
    by_cases hsuccess : status.isSuccess
    · have htext : content.text? = some body := (if_pos hsuccess).symm.trans hanswer
      simp [receive, receiveHead, receiveBody, hsuccess, hend, htext, hdecode]
    · cases (if_neg hsuccess).symm.trans hanswer
  | _ => cases hanswer

/-- Nothing of a reply is logged before its request is out. -/
theorem contents_of_mem_dispatch {token : String} (h : event ∈ (call.dispatch server token).2) :
    event.isOfVault = false ∧ ∀ met, event.contents met = [] := by
  have hannouncement (h : event ∈ call.announcement) :
      event.isOfVault = false ∧ ∀ met, event.contents met = [] := by
    cases call with
    | subscribe | unsubscribe =>
      obtain rfl := List.mem_singleton.mp h
      exact ⟨rfl, fun _ => rfl⟩
    | _ => cases h
  unfold dispatch at h
  split at h
  · exact hannouncement h
  · next request _ =>
    have hsending (h : event ∈ call.announcement ++ [.sending request.method request.url.text]) :
        event.isOfVault = false ∧ ∀ met, event.contents met = [] := by
      rcases List.mem_append.mp h with h | h
      · exact hannouncement h
      · obtain rfl := List.mem_singleton.mp h
        exact ⟨rfl, fun _ => rfl⟩
    dsimp only at h
    split at h <;> exact hsending h

/-- A whole call logs what it logs to send its request, and once that is out what the reply leads
to. -/
theorem mem_events_perform_iff : event ∈ (call.perform server reply s).events ↔
    event ∈ (call.dispatch server s.token).2 ∨
      ∃ request, (call.dispatch server s.token).1 = .sent request ∧
        event ∈ (call.receive request reply s).2.2 := by
  unfold perform
  rcases call.dispatch server s.token with ⟨stage, events⟩
  cases stage with
  | sent request => simp
  | headed | done => simp

end Call

namespace Live

variable {payload : String}

/-- Nothing is logged of a news item. -/
theorem payloadEvents_of_ok {item : NewsItem} (h : Wire.decode payload = .ok item) :
    payloadEvents payload = [] := by
  rw [payloadEvents, readPayload, h]

/-- The fault and the payload are logged if there is no news item in it. -/
theorem payloadEvents_of_error {fault : Fault}
    (h : (Wire.decode payload : Except Fault NewsItem) = .error fault) :
    payloadEvents payload = [.payloadDropped fault.message payload] := by
  rw [payloadEvents, readPayload, h]

end Live

/-! ### What is logged -/

/-- What a call logs of its reply has at most 500 characters in each field, and so has what is
logged of a payload, exactly if no text is quoted that is too long for this: by the fault of the
answer that the reply gives to a request that is out, or by the fault of the payload, with the
place at which it is met. All fields but that of the error are short in any case. What is logged of
the vault has nothing of the reply, since the session before the call alone decides on it. -/
theorem logged_in_brief_iff {α : Type} (server : String) (call : Call α) (reply : Reply)
    (s : Session) (payload : String) (met : Place) :
    let events := (call.perform server reply s).events
    (∀ event ∈ events ++ Live.payloadEvents payload, ∀ field ∈ event.contents met,
      field.1 ≠ "error" → field.2.length ≤ 500) ∧
    ((∀ event ∈ events, ¬event.isOfVault → ∀ field ∈ event.contents met,
      field.2.length ≤ 500) ↔
      ∀ request body fault, (call.dispatch server s.token).1 = .sent request →
        reply.answer? = some body → call.decode body = .error fault → fault.IsBrief met) ∧
    (∀ event ∈ events, event.isOfVault → ∃ fault : Vault.Fault,
      event.contents met = [("error", fault.message)] ∧
      (s.vault.clear.1 = .error fault ∨ ∀ token, (s.vault.save token).1 = .error fault)) ∧
    ((∀ event ∈ Live.payloadEvents payload, ∀ field ∈ event.contents met,
      field.2.length ≤ 500) ↔
      ∀ fault, (Wire.decode payload : Except Fault NewsItem) = .error fault →
        fault.IsBrief met) := by
  refine ⟨fun event _ => event.length_le_of_mem_contents met,
    ⟨fun hbrief request body fault hsent hanswer hdecode => ?_,
      fun hbrief event hevent hof field hfield => ?_⟩,
    fun event hevent hof => ?_,
    ⟨fun hbrief fault hdecode => ?_, fun hbrief event hevent field hfield => ?_⟩⟩
  · -- The fault is logged, so its message is short.
    have hlogged : .unexpectedBody request.url.text fault.message ∈
        (call.perform server reply s).events :=
      Call.mem_events_perform_iff.mpr
        (.inr ⟨request, hsent, call.unexpectedBody_mem_receive hanswer hdecode request s⟩)
    exact (call.gauged_decode body fault hdecode).mp
      (hbrief _ hlogged Bool.false_ne_true ("error", met.shown fault.message) List.mem_cons_self)
  · rcases Call.mem_events_perform_iff.mp hevent with hevent | ⟨request, hsent, hevent⟩
    · rw [(Call.contents_of_mem_dispatch hevent).2] at hfield
      cases hfield
    · cases Call.logs_receive hevent with
      | plain _ hnone =>
        rw [hnone] at hfield
        cases hfield
      | refused =>
        have hname : "body" ≠ "error" := by decide
        exact Event.length_le_of_mem_contents _ met field hfield
          (List.mem_singleton.mp hfield ▸ hname)
      | unexpected hanswer hdecode =>
        obtain rfl := List.mem_singleton.mp hfield
        exact (call.gauged_decode _ _ hdecode).mpr (hbrief request _ _ hsent hanswer hdecode)
      | removal | keeping => exact absurd rfl hof
  · rcases Call.mem_events_perform_iff.mp hevent with hevent | ⟨request, hsent, hevent⟩
    · rw [(Call.contents_of_mem_dispatch hevent).1] at hof
      cases hof
    · cases Call.logs_receive hevent with
      | plain hnot =>
        rw [hnot] at hof
        cases hof
      | refused | unexpected => cases hof
      | removal hclear => exact ⟨_, rfl, .inl hclear⟩
      | keeping hsave => exact ⟨_, rfl, .inr hsave⟩
  · have hlogged := List.mem_singleton_self (Event.payloadDropped fault.message payload)
    rw [← Live.payloadEvents_of_error hdecode] at hlogged
    exact (Live.gauged_decode payload fault hdecode).mp
      (hbrief _ hlogged ("error", met.shown fault.message) List.mem_cons_self)
  · cases hdecode : (Wire.decode payload : Except Fault NewsItem) with
    | ok item =>
      rw [Live.payloadEvents_of_ok hdecode] at hevent
      cases hevent
    | error fault =>
      rw [Live.payloadEvents_of_error hdecode] at hevent
      obtain rfl := List.mem_singleton.mp hevent
      rcases List.mem_cons.mp hfield with rfl | hrest
      · exact (Live.gauged_decode payload fault hdecode).mpr (hbrief fault hdecode)
      · have hname : "payload" ≠ "error" := by decide
        exact Event.length_le_of_mem_contents _ met field hfield
          (List.mem_singleton.mp hrest ▸ hname)

/-- An answer and a payload that are `null` are logged in brief, with the place behind them: their
faults quote nothing. -/
theorem logged_in_brief_iff_of_null :
    let reply : Reply := .head .ok (.complete (Text.encode "null".toList))
    let events := (Call.me.perform "http://news.test" reply (.new (.memory none))).events
    let met : Place := ⟨1, 4, by decide, by decide⟩
    (∀ event ∈ events, ¬event.isOfVault → ∀ field ∈ event.contents met,
      field.2.length ≤ 500) ∧
      ∀ event ∈ Live.payloadEvents "null", ∀ field ∈ event.contents met,
        field.2.length ≤ 500 := by
  intro reply events met
  obtain ⟨-, hreply, -, hpayload⟩ :=
    logged_in_brief_iff "http://news.test" Call.me reply (.new (.memory none)) "null" met
  have hanswer : reply.answer? = some "null" := by
    show some (String.ofList (Text.decodeLenient (Text.encode "null".toList))) = some "null"
    rw [Text.decodeLenient_encode, String.ofList_toList]
  have huser : Call.me.decode "null" = .error (.wrongKind .null "struct User") := rfl
  have hitem : (Wire.decode "null" : Except Fault NewsItem) =
      .error (.wrongKind .null "struct NewsItem") :=
    rfl
  refine ⟨hreply.mpr fun request body fault _ hbody hdecode => ?_,
    hpayload.mpr fun fault hdecode => ?_⟩
  · obtain rfl := Option.some.inj (hanswer.symm.trans hbody)
    obtain rfl := Except.error.inj (huser.symm.trans hdecode)
    trivial
  · obtain rfl := Except.error.inj (hitem.symm.trans hdecode)
    trivial

/-- A record is not read from a text: what the text says is quoted, however long it is. -/
theorem Json.RecordShape.decode_text {R : Type} (shape : RecordShape R) {raw cs : List Char}
    (h : WritesText raw cs) (rest : List Char) :
    shape.reader.decode (String.ofList ('"' :: (raw ++ '"' :: rest))) =
      .error (.wrongKind (.text (String.ofList cs)) shape.wanted) := by
  have hread : readText (raw ++ '"' :: rest) = .ok (cs, rest) :=
    readText_eq_ok_iff.mpr ⟨raw, rfl, h⟩
  have hother : otherKind shape.wanted ('"' :: (raw ++ '"' :: rest)) =
      .wrongKind (.text (String.ofList cs)) shape.wanted := by
    simp [otherKind, hread, Text.isDigit]
  have hrun : shape.reader.run ('"' :: (raw ++ '"' :: rest)) =
      .error (otherKind shape.wanted ('"' :: (raw ++ '"' :: rest))) := rfl
  rw [Reader.decode, String.toList_ofList, Reader.decodeChars, hrun, hother]

/-- A quoted text has all its characters, and the quotes. -/
theorem Text.length_add_two_le_length_quoted (s : String) : s.length + 2 ≤ (quoted s).length := by
  have hchar (c : Char) : 1 ≤ (quoteChar c).length := by
    unfold quoteChar
    repeat' split
    all_goals simp
  have hchars (cs : List Char) : cs.length ≤ (cs.flatMap quoteChar).length := by
    induction cs with
    | nil => exact Nat.le_refl 0
    | cons c cs ih =>
      have hc := hchar c
      rw [List.flatMap_cons, List.length_append, List.length_cons]
      omega
  have hs := hchars s.toList
  rw [quoted, String.length_ofList, List.length_append, List.length_cons]
  rw [String.length_toList] at hs
  simp only [List.length_singleton]
  omega

/-- There is no bound for what is logged of a payload: a string of letters is quoted with all of
them, and the place stands behind it. -/
theorem logged_error_of_letters (n : Nat) :
    ∃ event ∈ Live.payloadEvents (String.ofList ('"' :: (List.replicate n 'a' ++ ['"']))),
      ∀ met, ∃ field ∈ event.contents met,
        field.1 = "error" ∧ n + 49 + met.text.length ≤ field.2.length := by
  have hplain : (List.replicate n 'a').all Json.isPlain := by
    simp [Json.isPlain, Json.isControl]
  have hevents := Live.payloadEvents_of_error (NewsItem.shape.decode_text (.of_plain hplain) [])
  have hquoted := Text.length_add_two_le_length_quoted (String.ofList (List.replicate n 'a'))
  rw [String.length_ofList, List.length_replicate] at hquoted
  have hwanted : NewsItem.shape.wanted.length = 15 ∧ Place.closes NewsItem.shape.wanted := by
    decide
  rw [hevents]
  refine ⟨_, List.mem_singleton_self _, fun met =>
    ⟨("error", met.shown (Fault.message _)), List.mem_cons_self, rfl, ?_⟩⟩
  rw [length_shown_wrongKind_text hwanted.2]
  omega

/-- A payload of 600 letters is logged with all of them, wherever its fault is met. -/
theorem letters_logged_in_full :
    ∃ event ∈ Live.payloadEvents (String.ofList ('"' :: (List.replicate 600 'a' ++ ['"']))),
      ∀ met, ∃ field ∈ event.contents met, field.1 = "error" ∧
        ¬field.2.length ≤ 500 := by
  obtain ⟨event, hevent, hfields⟩ := logged_error_of_letters 600
  refine ⟨event, hevent, fun met => ?_⟩
  obtain ⟨field, hfield, hname, hlength⟩ := hfields met
  exact ⟨field, hfield, hname, by omega⟩

end NewsReader
