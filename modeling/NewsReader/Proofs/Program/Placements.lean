import Mathlib.Data.List.Nodup
import Mathlib.Data.List.TakeDrop
import Mathlib.Data.List.TakeWhile
import NewsReader.Program.Arguments

/-!
# Options mean the same wherever they stand

The arguments are read on two levels, before the word for the command and after it, and an option
that waits for its value leaves it to what follows whether the value counts. None of this can be
seen from outside. The options for the whole program may be spread over the two levels, they may
stand anywhere among what belongs to the command, and a value may stand in a word of its own or
behind an equals sign: the invocation is the same.

What is written is a list of parts (`Part.WrittenAll`), and a permutation of the parts says where
each of them stands.

* `Given.Reads` — the invariant: what has been read so far, but for the last value, which may
  still be waited with.
* `Given.exists_walk_of_written` — the step lemma: a part that is read, in whichever way it is
  written.
* `Given.exists_walk_of_writtenAll` — the run lemma: parts that are read one after the other.
* `Invocation.ofArguments_of_writtenAll` — the invocation of any arguments in which given parts
  are placed.
-/

namespace NewsReader.Program

/-! ### What is placed -/

/-- A part of the arguments, wherever it stands and however it is written. -/
inductive Part where
  /-- JSON is asked for. -/
  | json
  /-- An option has a value. -/
  | valued (option : Valued) (value : String)
  /-- The id of a feed. -/
  | feed (id : String)
  deriving DecidableEq

namespace Part

/-- The options for the whole program. -/
def IsGlobal : Part → Prop
  | json | valued .server _ | valued .live _ => True
  | _ => False

/-- A text that does not look like an option. It may be empty, or the word for a command. -/
def IsValue (s : String) : Prop :=
  s.toList.head? ≠ some '-'

instance : DecidablePred IsValue := fun s =>
  inferInstanceAs (Decidable (s.toList.head? ≠ some '-'))

/-- The ways to write a part. -/
inductive Written : Part → List String → Prop where
  /-- The option for JSON has no value. -/
  | json : Written .json ["--json"]
  /-- The value stands in a word of its own. -/
  | apart (o : Valued) {v : String} (hvalue : IsValue v) :
    Written (.valued o v) ["--" ++ o.name', v]
  /-- The value stands behind an equals sign. -/
  | joined (o : Valued) (v : String) : Written (.valued o v) ["--" ++ o.name' ++ "=" ++ v]
  /-- The id of a feed stands as it is. -/
  | feed {id : String} (hvalue : IsValue id) : Written (.feed id) [id]

/-- The ways to write parts one after the other. -/
inductive WrittenAll : List Part → List String → Prop where
  | nil : WrittenAll [] []
  | cons {part : Part} {parts : List Part} {words args : List String} (hpart : part.Written words)
    (hparts : WrittenAll parts args) : WrittenAll (part :: parts) (words ++ args)

/-- The value of a part, with what it is for. -/
def assigned? : Part → Option (Target × String)
  | json => none
  | valued o v => some (.option o, v)
  | feed id => some (.feed, id)

/-- What a part is for. Nothing may be given two parts. -/
def slot (part : Part) : Option Target :=
  part.assigned?.map Prod.fst

end Part

/-- The name of a command. -/
def Command.name : Command → CommandName
  | login _ _ => .login
  | logout => .logout
  | me => .me
  | status => .status
  | feeds => .feeds
  | news => .news
  | subscriptions => .subscriptions
  | subscribe _ => .subscribe
  | unsubscribe _ => .unsubscribe
  | watch => .watch

/-- What belongs to a command. -/
def Command.parts : Command → List Part
  | login name password =>
    name.toList.map (.valued .name) ++ password.toList.map (.valued .password)
  | subscribe feed | unsubscribe feed => [.feed feed]
  | _ => []

/-- The command with a password from elsewhere, where it needs one and none was given. -/
def Command.withPassword (password : Option String) : Command → Command
  | login name given => login name (given.or password)
  | command => command

/-- All that is written for an invocation, beside the word for the command. -/
def Invocation.parts (i : Invocation) : List Part :=
  i.server.toList.map (.valued .server) ++ i.live.toList.map (.valued .live) ++
    (if i.json then [.json] else []) ++ i.command.parts

/-! ### Values -/

/-- If no key comes twice, the entries are what is looked up. -/
theorem lookup_eq_some_iff_mem {α β : Type} [DecidableEq α] {entries : List (α × β)}
    (h : (entries.map Prod.fst).Nodup) {a : α} {b : β} :
    entries.lookup a = some b ↔ (a, b) ∈ entries := by
  induction entries with
  | nil => simp
  | cons entry entries ih =>
    obtain ⟨k, v⟩ := entry
    obtain ⟨hnew, hrest⟩ := List.nodup_cons.mp h
    by_cases hk : a = k
    · subst hk
      have hother : (a, b) ∉ entries :=
        fun hmem => hnew (List.mem_map.mpr ⟨(a, b), hmem, rfl⟩)
      simp [hother, eq_comm]
    · have hne : (a == k) = false := by simpa using hk
      simp [List.lookup_cons, hne, ih hrest, hk]

namespace Given

/-- All that has been read, once it counts. -/
def ofParts (parts : List Part) : Given :=
  ⟨parts.filterMap Part.assigned?, decide (.json ∈ parts), none, false⟩

variable {parts : List Part} {part : Part} {g : Given} {place : Place} {o : Valued} {v : String}

/-- What has no part has no value. -/
theorem lookup_eq_none {t : Target} (h : some t ∉ parts.map Part.slot) :
    (parts.filterMap Part.assigned?).lookup t = none := by
  rw [List.lookup_eq_none_iff]
  intro entry hentry
  obtain ⟨part, hpart, hvalue⟩ := List.mem_filterMap.mp hentry
  have hne : t ≠ entry.1 := by
    rintro rfl
    refine h (List.mem_map.mpr ⟨part, hpart, ?_⟩)
    rw [Part.slot, hvalue, Option.map_some]
  simpa using hne

/-- One more value. -/
theorem ofParts_append_of_assigned {entry : Target × String} (h : part.assigned? = some entry) :
    ofParts (parts ++ [part]) =
      { ofParts parts with values := (ofParts parts).values ++ [entry] } := by
  have hjson : part ≠ .json := by
    rintro rfl
    cases h
  simp [ofParts, h, hjson.symm]

/-! ### What is read -/

/-- The invariant of reading: all parts so far count, or all but the last one, of which the value is
there but does not count yet. -/
inductive Reads : List Part → Given → Prop where
  /-- All parts count. -/
  | settled (parts : List Part) : Reads parts (ofParts parts)
  /-- The last part does not count yet. -/
  | pending {parts : List Part} {part : Part} {t : Target} {v : String}
    (hpart : part.assigned? = some (t, v)) (hnew : some t ∉ parts.map Part.slot) :
    Reads (parts ++ [part]) { ofParts parts with pending := some (t, some v) }

namespace Reads

/-- Arguments are not plain ones unless that is asked for. -/
theorem plain_eq (h : Reads parts g) : g.plain = false := by
  cases h <;> rfl

/-- Nothing waits for a value. -/
theorem isWaiting_eq (h : Reads parts g) : g.isWaiting = false := by
  cases h <;> rfl

/-- Once the wait is over, all parts count. -/
theorem settle_eq (h : Reads parts g) : g.settle = .ok (ofParts parts) := by
  cases h with
  | settled => rfl
  | @pending parts part t v hpart hnew =>
    -- Nothing was given for the same before, so that the value can count.
    have hnone := lookup_eq_none hnew
    rw [ofParts_append_of_assigned hpart]
    unfold settle
    cases t <;> simp [value?, ofParts, hnone]

/-- The id of a feed is not there unless it was a part. -/
theorem hasFeed_eq (h : Reads parts g) (hfeed : some .feed ∉ parts.map Part.slot) :
    g.hasFeed = false := by
  cases h with
  | settled => simp [hasFeed, value?, ofParts, lookup_eq_none hfeed]
  | @pending parts part t v hpart hnew =>
    rw [List.map_append, List.mem_append, not_or] at hfeed
    have hnone := lookup_eq_none hfeed.1
    have ht : t ≠ .feed := by
      rintro rfl
      exact hfeed.2 (by simp [Part.slot, hpart])
    simp [hasFeed, value?, ofParts, hnone, ht]

end Reads

/-! ### One argument -/

/-- An argument that does not look like an option is a value if one is waited for, or else it stands
on its own. -/
theorem add_of_isValue (hplain : g.plain = false) (hvalue : Part.IsValue v) :
    g.add place v = if g.isWaiting then .ok (g.fill v) else g.addPlain place v := by
  unfold add
  rw [if_neg (by simp [hplain])]
  unfold Part.IsValue at hvalue
  split
  · next h => simp [h] at hvalue
  · next h => simp [h] at hvalue
  · next h => simp [h] at hvalue
  · rfl

/-- An argument that starts with two hyphens and goes on is an option. -/
theorem add_of_long {cs : List Char} (hplain : g.plain = false) {arg : String}
    (harg : arg.toList = '-' :: '-' :: cs) (hcs : cs ≠ []) :
    g.add place arg = g.addLong place cs := by
  unfold add
  rw [if_neg (by simp [hplain]), harg]
  cases cs with
  | nil => exact absurd rfl hcs
  | cons c cs => rfl

/-- The name of an option that stands without its value. -/
theorem splitOption_of_not_mem {cs : List Char} (h : '=' ∉ cs) :
    splitOption cs = (String.ofList cs, none) := by
  have hname : ∀ c ∈ cs, (c != '=') = true :=
    fun c hc => bne_iff_ne.mpr (ne_of_mem_of_not_mem hc h)
  have hspan : cs.span (· != '=') = (cs, []) := by
    rw [List.span_eq_takeWhile_dropWhile, List.takeWhile_eq_self_iff.mpr hname,
      List.dropWhile_eq_nil_iff.mpr hname]
  rw [splitOption, hspan]

/-- The name of an option and the value behind the first equals sign. -/
theorem splitOption_append {cs value : List Char} (h : '=' ∉ cs) :
    splitOption (cs ++ '=' :: value) = (String.ofList cs, some (String.ofList value)) := by
  have hname : ∀ c ∈ cs, (c != '=') = true :=
    fun c hc => bne_iff_ne.mpr (ne_of_mem_of_not_mem hc h)
  have hspan : (cs ++ '=' :: value).span (· != '=') = (cs, '=' :: value) := by
    rw [List.span_eq_takeWhile_dropWhile, List.takeWhile_append_of_pos hname,
      List.dropWhile_append_of_pos hname]
    simp
  rw [splitOption, hspan]

/-- There is no equals sign in the name of an option, and there are no options without a name. -/
theorem name_spec (o : Valued) : '=' ∉ o.name'.toList ∧ o.name'.toList ≠ [] := by
  cases o <;> decide

/-- An option is found by its name. -/
theorem find?_options (h : o ∈ place.options) :
    place.options.find? (·.name' = o.name') = some o := by
  have hplace : place.options = [.server, .live] ∨
      place.options = [.server, .live, .name, .password] := by
    cases place with
    | before => exact .inl rfl
    | after command => cases command <;> simp [Place.options]
  rcases hplace with hplace | hplace <;> rw [hplace] at h ⊢ <;> revert o <;> decide

/-- An option that stands without its value waits for it. -/
theorem add_apart (hplain : g.plain = false) (ho : o ∈ place.options) :
    g.add place ("--" ++ o.name') = g.await o := by
  obtain ⟨hequals, hname⟩ := name_spec o
  have harg : ("--" ++ o.name').toList = '-' :: '-' :: o.name'.toList := by simp
  rw [add_of_long hplain harg hname, addLong, splitOption_of_not_mem hequals]
  simp only [String.ofList_toList, find?_options ho]

/-- An option that stands with its value. -/
theorem add_joined (hplain : g.plain = false) (ho : o ∈ place.options) (v : String) :
    g.add place ("--" ++ o.name' ++ "=" ++ v) = g.assign o v := by
  obtain ⟨hequals, -⟩ := name_spec o
  have harg : ("--" ++ o.name' ++ "=" ++ v).toList =
      '-' :: '-' :: (o.name'.toList ++ '=' :: v.toList) := by simp
  rw [add_of_long hplain harg (by simp), addLong, splitOption_append hequals]
  simp only [String.ofList_toList, find?_options ho]

/-- The option for JSON. -/
theorem add_json (hplain : g.plain = false) : g.add place "--json" = g.askJson := by
  have hnone : place.options.find? (·.name' = "json") = none := by
    rw [List.find?_eq_none]
    intro o _
    cases o <;> decide
  have hsplit : splitOption ['j', 's', 'o', 'n'] = ("json", none) := by decide
  have harg : "--json".toList = '-' :: '-' :: ['j', 's', 'o', 'n'] := by decide
  rw [add_of_long hplain harg (by simp), addLong, hsplit]
  simp only [hnone]
  rfl

/-! ### Many arguments -/

/-- Arguments are read one after the other. None of those before the command is taken for a command:
it is an option, or the value that an option waits for. -/
inductive Walk (place : Place) : Given → List String → Given → Prop where
  /-- Nothing is read. -/
  | nil (g : Given) : Walk place g [] g
  /-- One more argument is read at first. -/
  | cons {g g' g'' : Given} {arg : String} {args : List String}
    (hword : place = .before → ¬Part.IsValue arg ∨ g.isWaiting)
      (hadd : g.add place arg = .ok g')
    (hrest : Walk place g' args g'') : Walk place g (arg :: args) g''

namespace Walk

variable {g' g'' : Given} {args args' : List String}

/-- What is read in two parts is read as a whole. -/
theorem append (h : Walk place g args g') (h' : Walk place g' args' g'') :
    Walk place g (args ++ args') g'' := by
  induction h with
  | nil => exact h'
  | cons hword hadd _ ih => exact .cons hword hadd (ih h')

/-- After the command, arguments are read like this. -/
theorem foldlM_eq (h : Walk place g args g') :
    args.foldlM (fun g arg => g.add place arg) g = .ok g' := by
  induction h with
  | nil => rfl
  | cons _ hadd _ ih =>
    rw [List.foldlM_cons, hadd]
    exact ih

/-- An option is neither a command nor the word for help. -/
theorem ofWord?_eq_none {arg : String} (h : ¬Part.IsValue arg) :
    CommandName.ofWord? arg = none ∧ arg ≠ helpWord := by
  constructor
  · rw [CommandName.ofWord?, List.find?_eq_none]
    intro command _ hword
    refine h ?_
    obtain rfl : command.word = arg := by simpa using hword
    cases command <;> decide
  · rintro rfl
    exact h (by decide)

/-- And so they are before the command. -/
theorem readBefore_append (h : Walk .before g args g') (rest : List String) :
    readBefore g (args ++ rest) = readBefore g' rest := by
  induction h with
  | nil => rfl
  | @cons g g' g'' arg args hword hadd _ ih =>
    -- No argument of the walk is taken for a command: it is an option, or the value of one.
    have hskip : (if g.plain ∨ g.isWaiting then none else CommandName.ofWord? arg) = none ∧
        ¬(!g.plain ∧ !g.isWaiting ∧ arg = helpWord) := by
      rcases hword rfl with hoption | hwaiting
      · obtain ⟨hnone, hhelp⟩ := ofWord?_eq_none hoption
        simp [hnone, hhelp]
      · simp [hwaiting]
    rw [List.cons_append, readBefore, if_neg hskip.2, hskip.1, hadd]
    exact ih

end Walk

end Given

namespace Part

/-- The part can stand at a place. -/
def StandsAt (place : Place) : Part → Prop
  | json => True
  | valued o _ => o ∈ place.options
  | feed _ => ∃ command : CommandName, place = .after command ∧ command.needsFeed

end Part

namespace Given

variable {parts more : List Part} {part : Part} {g : Given} {place : Place}
  {words args : List String}

/-- The step lemma: a part is read, in whichever way it is written. It may be the last one, which
does not count yet. -/
theorem exists_walk_of_written (h : Reads parts g) (hwritten : part.Written words)
    (hplace : part.StandsAt place) (hnew : part.slot ∉ parts.map Part.slot) :
    ∃ g', Walk place g words g' ∧ Reads (parts ++ [part]) g' := by
  have hplain := h.plain_eq
  -- Whatever is next, the part before it counts now.
  have hsettle := h.settle_eq
  cases hwritten with
  | json =>
    have hjson : (ofParts parts).json = false := by
      refine decide_eq_false fun hmem => hnew ?_
      exact List.mem_map_of_mem hmem
    have hadd : g.add place "--json" = .ok (ofParts (parts ++ [.json])) := by
      rw [add_json hplain, askJson, hsettle]
      simp only [hjson]
      simp [ofParts, Part.assigned?]
    have hoption : ¬Part.IsValue "--json" := by decide
    exact ⟨_, .cons (fun _ => .inl hoption) hadd (.nil _), .settled _⟩
  | @apart o v hvalue =>
    let waiting : Given := { ofParts parts with pending := some (.option o, none) }
    have hawait : g.add place ("--" ++ o.name') = .ok waiting := by
      rw [add_apart hplain hplace, await, hsettle]
      rfl
    have hfill : waiting.add place v =
        .ok { ofParts parts with pending := some (.option o, some v) } := by
      rw [add_of_isValue rfl hvalue]
      rfl
    have hoption : ¬Part.IsValue ("--" ++ o.name') := by simp [Part.IsValue]
    exact ⟨_, .cons (fun _ => .inl hoption) hawait (.cons (fun _ => .inr rfl) hfill (.nil _)),
      .pending rfl hnew⟩
  | joined o v =>
    have hadd : g.add place ("--" ++ o.name' ++ "=" ++ v) =
        .ok (ofParts (parts ++ [.valued o v])) := by
      rw [add_joined hplain hplace, assign, hsettle]
      have hpending : Reads (parts ++ [.valued o v])
          { ofParts parts with pending := some (.option o, some v) } :=
        .pending rfl hnew
      exact hpending.settle_eq
    have hoption : ¬Part.IsValue ("--" ++ o.name' ++ "=" ++ v) := by simp [Part.IsValue]
    exact ⟨_, .cons (fun _ => .inl hoption) hadd (.nil _), .settled _⟩
  | @feed id hvalue =>
    obtain ⟨command, rfl, hneeds⟩ := hplace
    have hadd : g.add (.after command) id =
        .ok { ofParts parts with pending := some (.feed, some id) } := by
      rw [add_of_isValue hplain hvalue, h.isWaiting_eq]
      simp only [addPlain, hneeds, h.hasFeed_eq hnew, hsettle]
      rfl
    exact ⟨_, .cons (fun hbefore => by cases hbefore) hadd (.nil _), .pending rfl hnew⟩

/-- The run lemma: parts are read one after the other. -/
theorem exists_walk_of_writtenAll (h : Reads parts g) (hwritten : Part.WrittenAll more args)
    (hplace : ∀ part ∈ more, part.StandsAt place)
    (hslots : ((parts ++ more).map Part.slot).Nodup) :
    ∃ g', Walk place g args g' ∧ Reads (parts ++ more) g' := by
  induction hwritten generalizing parts g with
  | nil => exact ⟨g, .nil g, by rwa [List.append_nil]⟩
  | @cons part more words args hpart _ ih =>
    -- No slot is given twice, so the part finds its own one free.
    have hnew : part.slot ∉ parts.map Part.slot := by
      rw [List.map_append, List.map_cons] at hslots
      exact fun hmem => (List.nodup_append.mp hslots).2.2 _ hmem _ List.mem_cons_self rfl
    obtain ⟨g', hwalk, hreads⟩ :=
      exists_walk_of_written h hpart (hplace part List.mem_cons_self) hnew
    rw [List.append_cons] at hslots ⊢
    obtain ⟨g'', hwalk', hreads'⟩ :=
      ih hreads (fun part hmem => hplace part (List.mem_cons_of_mem _ hmem)) hslots
    exact ⟨g'', hwalk.append hwalk', hreads'⟩

end Given

/-! ### The parts of an invocation -/

/-- What is looked up does not depend on the order. -/
theorem lookup_entries_perm {parts parts' : List Part} (h : parts.Perm parts')
    (hslots : (parts.map Part.slot).Nodup) (t : Target) :
    (parts.filterMap Part.assigned?).lookup t = (parts'.filterMap Part.assigned?).lookup t := by
  have hkeys {parts : List Part} (hslots : (parts.map Part.slot).Nodup) :
      ((parts.filterMap Part.assigned?).map Prod.fst).Nodup := by
    have hmap : (parts.filterMap Part.assigned?).map Prod.fst =
        (parts.map Part.slot).filterMap id := by
      rw [List.map_filterMap, List.filterMap_map]
      rfl
    rw [hmap]
    refine List.Nodup.filterMap ?_ hslots
    intro a a' b hb hb'
    rw [show a = some b from hb, show a' = some b from hb']
  refine Option.ext fun v => ?_
  have hslots' := (h.map Part.slot).nodup_iff.mp hslots
  rw [lookup_eq_some_iff_mem (hkeys hslots), lookup_eq_some_iff_mem (hkeys hslots')]
  exact (h.filterMap Part.assigned?).mem_iff

/-- An option that may be given is found if it is looked up, and nothing else is. -/
theorem lookup_valued (given : Option String) (o : Valued) (t : Target) :
    ((given.toList.map (Part.valued o)).filterMap Part.assigned?).lookup t =
      if t = .option o then given else none := by
  cases given with
  | none => simp
  | some v =>
    by_cases ht : t = .option o
    · simp [Part.assigned?, ht]
    · have hne : (t == Target.option o) = false := by simpa using ht
      simp [Part.assigned?, ht, List.lookup_cons, hne]

/-- What belongs to a command, by what it is for. -/
def Command.value? : Command → Target → Option String
  | login name _, .option .name => name
  | login _ password, .option .password => password
  | subscribe feed, .feed | unsubscribe feed, .feed => some feed
  | _, _ => none

/-- What belongs to a command is found if it is looked up. -/
theorem Command.lookup_parts (c : Command) (t : Target) :
    (c.parts.filterMap Part.assigned?).lookup t = c.value? t := by
  have hfeed (feed : String) : ([(Target.feed, feed)] : List (Target × String)).lookup t =
      if t = .feed then some feed else none := by
    by_cases ht : t = .feed
    · simp [ht]
    · have hne : (t == Target.feed) = false := by simpa using ht
      simp [List.lookup_cons, hne, ht]
  cases c with
  | login name password =>
    rw [parts, List.filterMap_append, List.lookup_append, lookup_valued, lookup_valued]
    rcases t with (_ | _ | _ | _) | _ <;> simp [value?]
  | subscribe feed | unsubscribe feed =>
    rw [show (Command.parts _).filterMap Part.assigned? = [(Target.feed, feed)] from rfl, hfeed]
    rcases t with (_ | _ | _ | _) | _ <;> rfl
  | _ => rfl

/-- What belongs to a command is all that the command is made from. -/
theorem commandOf_eq {c : Command} {g : Given} (password : Option String)
    (h : ∀ t, t ≠ .option .server → t ≠ .option .live → g.value? t = c.value? t) :
    commandOf password c.name g = c.withPassword password := by
  have hname := h (.option .name) (by decide) (by decide)
  have hpassword := h (.option .password) (by decide) (by decide)
  have hfeed := h .feed (by decide) (by decide)
  cases c with
  | login name given =>
    show Command.login (g.value? (.option .name)) ((g.value? (.option .password)).or password) = _
    rw [hname, hpassword]
    rfl
  | subscribe feed =>
    show Command.subscribe ((g.value? .feed).getD "") = _
    rw [hfeed]
    rfl
  | unsubscribe feed =>
    show Command.unsubscribe ((g.value? .feed).getD "") = _
    rw [hfeed]
    rfl
  | _ => rfl

namespace Invocation

variable (i : Invocation)

/-- What an invocation gives is found if it is looked up. -/
theorem lookup_parts (t : Target) :
    (i.parts.filterMap Part.assigned?).lookup t =
      match t with
      | .option .server => i.server
      | .option .live => i.live
      | t => i.command.value? t := by
  have hjson : ((if i.json then [Part.json] else []).filterMap Part.assigned?).lookup t = none := by
    cases i.json <;> rfl
  have hown : i.command.value? (.option .server) = none ∧
      i.command.value? (.option .live) = none := by
    cases i.command <;> exact ⟨rfl, rfl⟩
  simp only [parts, List.filterMap_append, List.lookup_append, lookup_valued, hjson,
    Command.lookup_parts]
  rcases t with (_ | _ | _ | _) | _ <;> simp [hown]

/-- JSON is asked for by its part. -/
theorem json_mem_parts_iff : .json ∈ i.parts ↔ i.json := by
  have hown : .json ∉ i.command.parts := by cases i.command <;> simp [Command.parts]
  simp [parts, hown]

/-- Nothing is given twice. -/
theorem nodup_slots : (i.parts.map Part.slot).Nodup := by
  obtain ⟨server, live, json, command⟩ := i
  have hown : (command.parts.map Part.slot).Nodup ∧ none ∉ command.parts.map Part.slot ∧
      some (.option .server) ∉ command.parts.map Part.slot ∧
      some (.option .live) ∉ command.parts.map Part.slot := by
    cases command with
    | login name password =>
      cases name <;> cases password <;> simp [Command.parts, Part.slot, Part.assigned?]
    | _ => simp [Command.parts, Part.slot, Part.assigned?]
  obtain ⟨hnodup, hjson, hserver, hlive⟩ := hown
  cases server <;> cases live <;> cases json <;> simp_all [parts, Part.slot, Part.assigned?]

/-- Everything can stand after the word for the command. -/
theorem standsAt_after : ∀ part ∈ i.parts, part.StandsAt (.after i.command.name) := by
  have hglobal : .server ∈ (Place.after i.command.name).options ∧
      .live ∈ (Place.after i.command.name).options := by
    cases i.command <;> simp [Command.name, Place.options]
  -- A part of the command stands only behind the word for its own command.
  have hown : ∀ part ∈ i.command.parts, part.StandsAt (.after i.command.name) := by
    intro part hpart
    cases hcommand : i.command with
    | login name password =>
      rw [hcommand] at hpart
      simp only [Command.parts, List.mem_append, List.mem_map] at hpart
      rcases hpart with
        ⟨v, -, rfl⟩ | ⟨v, -, rfl⟩ <;> simp [Part.StandsAt, Command.name, Place.options]
    | subscribe feed | unsubscribe feed =>
      rw [hcommand] at hpart
      obtain rfl := List.mem_singleton.mp hpart
      exact ⟨_, rfl, rfl⟩
    | _ =>
      rw [hcommand] at hpart
      cases hpart
  intro part hpart
  simp only [parts, List.mem_append, List.mem_map] at hpart
  rcases hpart with ((⟨v, -, rfl⟩ | ⟨v, -, rfl⟩) | hjson) | hpart
  · exact hglobal.1
  · exact hglobal.2
  · split at hjson
    · obtain rfl := List.mem_singleton.mp hjson
      trivial
    · cases hjson
  · exact hown part hpart

end Invocation

/-- The options for the whole program can stand before the command, and nothing that belongs to it
is one of them. -/
theorem Part.standsAt_before {part : Part} (h : part.IsGlobal) :
    part.StandsAt .before ∧
      ∀ t, t ≠ .option .server → t ≠ .option .live → part.slot ≠ some t := by
  cases part with
  | json => exact ⟨trivial, by simp [Part.slot, Part.assigned?]⟩
  | feed id => cases h
  | valued o v =>
    cases o with
    | server =>
      exact ⟨by simp [Part.StandsAt, Place.options],
        by simp +contextual [Part.slot, Part.assigned?, eq_comm]⟩
    | live =>
      exact ⟨by simp [Part.StandsAt, Place.options],
        by simp +contextual [Part.slot, Part.assigned?, eq_comm]⟩
    | name | password => cases h

/-! ### Main result -/

/-- The arguments after the command, once their last value counts. -/
theorem readAfter_of_walk {command : CommandName} {args : List String} {g g' : Given}
    (hwalk : Given.Walk (.after command) .nothing args g) (hsettle : g.settle = .ok g')
    (hfeed : command.needsFeed → g'.hasFeed) : readAfter command args = .ok g' := by
  have hcomplete : ¬(command.needsFeed ∧ !g'.hasFeed) := by simpa using hfeed
  rw [readAfter, hwalk.foldlM_eq]
  simp only [hsettle, if_neg hcomplete]

/-- The word for a command ends the arguments before it. -/
theorem readBefore_word {command : CommandName} {args : List String} {g g' after : Given}
    (hplain : g.plain = false) (hwaiting : g.isWaiting = false) (hsettle : g.settle = .ok g')
    (hafter : readAfter command args = .ok after) :
    readBefore g (command.word :: args) = .ok (g', some (command, after)) := by
  have hword : CommandName.ofWord? command.word = some command ∧ command.word ≠ helpWord := by
    cases command <;> decide
  rw [readBefore, if_neg (by simp [hword.2]), if_neg (by simp [hplain, hwaiting]), hword.1]
  simp only [hafter, hsettle]
  rfl

namespace Invocation

/-- Options mean the same wherever they stand. Let the parts of an invocation be written in any
order, with the word for the command anywhere among them such that only options for the whole
program stand before it. Then these arguments are read as the invocation, and if it is a login
without a password, the password is the one from the environment. -/
theorem ofArguments_of_writtenAll {i : Invocation} {before after : List Part}
    {args args' : List String} (hparts : (before ++ after).Perm i.parts)
    (hglobal : ∀ part ∈ before, part.IsGlobal) (hbefore : Part.WrittenAll before args)
    (hafter : Part.WrittenAll after args') (password : Option String) :
    ofArguments password (args ++ i.command.name.word :: args') =
      .ok { i with command := i.command.withPassword password } := by
  have hslots : ((before ++ after).map Part.slot).Nodup :=
    (hparts.map Part.slot).nodup_iff.mpr i.nodup_slots
  obtain ⟨hslotsBefore, hslotsAfter, -⟩ := List.nodup_append.mp (List.map_append ▸ hslots)
  have hnothing : Given.Reads [] Given.nothing := .settled []
  -- Both levels are read to their ends.
  obtain ⟨g, hwalk, hreads⟩ := Given.exists_walk_of_writtenAll hnothing hbefore
    (fun part hpart => (Part.standsAt_before (hglobal part hpart)).1) hslotsBefore
  obtain ⟨g', hwalk', hreads'⟩ := Given.exists_walk_of_writtenAll hnothing hafter
    (fun part hpart =>
      i.standsAt_after part (hparts.subset (List.mem_append_right _ hpart))) hslotsAfter
  rw [List.nil_append] at hreads hreads'
  -- What was read on the two levels is what the invocation gives.
  have hvalue (t : Target) : ((Given.ofParts after).value? t).or ((Given.ofParts before).value? t) =
      (i.parts.filterMap Part.assigned?).lookup t := by
    have hperm : (after ++ before).Perm i.parts := List.perm_append_comm.trans hparts
    rw [← lookup_entries_perm hperm ((hperm.map Part.slot).nodup_iff.mpr i.nodup_slots),
      List.filterMap_append, List.lookup_append]
    rfl
  have hown (t : Target) (hserver : t ≠ .option .server) (hlive : t ≠ .option .live) :
      (Given.ofParts after).value? t = i.command.value? t := by
    have hnone : (Given.ofParts before).value? t = none := by
      refine Given.lookup_eq_none fun hmem => ?_
      obtain ⟨part, hpart, hslot⟩ := List.mem_map.mp hmem
      exact (Part.standsAt_before (hglobal part hpart)).2 t hserver hlive hslot
    have hlookup := hvalue t
    rw [hnone, Option.or_none, lookup_parts] at hlookup
    rw [hlookup]
    split
    · exact absurd rfl hserver
    · exact absurd rfl hlive
    · rfl
  have hjson : ((Given.ofParts before).json || (Given.ofParts after).json) = i.json := by
    rw [Bool.eq_iff_iff, ← json_mem_parts_iff, ← hparts.mem_iff]
    simp [Given.ofParts]
  have hfeed : i.command.name.needsFeed → (Given.ofParts after).hasFeed := by
    intro hneeds
    rw [Given.hasFeed, hown .feed (by decide) (by decide)]
    cases hcommand : i.command <;> simp_all [Command.name, CommandName.needsFeed, Command.value?]
  have hread : readBefore .nothing (args ++ i.command.name.word :: args') =
      .ok (Given.ofParts before, some (i.command.name, Given.ofParts after)) := by
    rw [hwalk.readBefore_append]
    exact readBefore_word hreads.plain_eq hreads.isWaiting_eq hreads.settle_eq
      (readAfter_of_walk hwalk' hreads'.settle_eq hfeed)
  rw [ofArguments, hread]
  simp only [hvalue, lookup_parts, hjson, commandOf_eq password hown]

/-- The values are `login`, nothing at all, and `help`, and none of these is taken for anything
else. -/
theorem ofArguments_of_writtenAll_login :
    let i : Invocation :=
      { server := some "login", live := some "", json := true,
        command := .login (some "help") none }
    let before : List Part := [.valued .server "login"]
    let after : List Part := [.valued .live "", .valued .name "help", .json]
    (before ++ after).Perm i.parts ∧ (∀ part ∈ before, part.IsGlobal) ∧
      Part.WrittenAll before ["--server", "login"] ∧
      Part.WrittenAll after ["--live-url=", "--name", "help", "--json"] ∧
      ofArguments (some "secret") ["--server", "login", "login", "--live-url=", "--name",
        "help", "--json"] = .ok { i with command := .login (some "help") (some "secret") } := by
  intro i before after
  have hparts : (before ++ after).Perm i.parts := by decide
  have hglobal : ∀ part ∈ before, part.IsGlobal := by
    intro part hpart
    obtain rfl := List.mem_singleton.mp hpart
    trivial
  have hbefore : Part.WrittenAll before ["--server", "login"] :=
    .cons (.apart .server (by decide)) .nil
  have hafter : Part.WrittenAll after ["--live-url=", "--name", "help", "--json"] :=
    .cons (.joined .live "") (.cons (.apart .name (by decide)) (.cons .json .nil))
  exact ⟨hparts, hglobal, hbefore, hafter,
    ofArguments_of_writtenAll hparts hglobal hbefore hafter (some "secret")⟩

end Invocation

end NewsReader.Program
