import NewsReader.Json.Skip

/-!
# Readers of JSON values

A reader takes a value of one kind off the front of a text. It takes at least one character, so that
a list of such values can be read to its end. `Reader.decode` reads a whole text: one value, with
blanks around it.

Here are the readers of strings, of whole numbers, of values that may be `null` and of lists.
Records have a module of their own.
-/

namespace NewsReader.Json

/-- A reader of values of type `α`. -/
structure Reader (α : Type) where
  /-- Take a value off the front of a text. -/
  run : List Char → Except Fault (α × List Char)
  /-- A character is taken. -/
  length_lt : ∀ {s rest : List Char} {a : α}, run s = .ok (a, rest) → rest.length < s.length

/-- The fault of a value that is of another kind than the wanted one. What stands there is read as
far as it takes to name it. -/
def otherKind (wanted : String) (s : List Char) : Fault :=
  let named (found : Found) : Except Fault (List Char) → Fault
    | .ok _ => .wrongKind found wanted
    | .error fault => fault
  match s with
  | [] => .ended .value
  | c :: rest =>
    if c = 'n' then named .null (readWord ['u', 'l', 'l'] rest)
    else if c = 't' then named (.bool true) (readWord ['r', 'u', 'e'] rest)
    else if c = 'f' then named (.bool false) (readWord ['a', 'l', 's', 'e'] rest)
    else if c = '-' ∨ Text.isDigit c then
      match readNumber s with
      | .ok (n, _) => .wrongKind (.number n) wanted
      | .error fault => fault
    else if c = '"' then
      match readText rest with
      | .ok (text, _) => .wrongKind (.text (String.ofList text)) wanted
      | .error fault => fault
    else if c = '[' then .wrongKind .list wanted
    else if c = '\x7b' then .wrongKind .object wanted
    else .noValue

/-- Go to the next element of a list, if there is one. `first` says that none has been read. The
answer is where the element starts, or nothing if the list ends here. -/
def nextElement (first : Bool) (s : List Char) : Except Fault (Option (List Char)) :=
  match skipSpace s with
  | [] => .error (.ended .list)
  | c :: rest =>
    if c = ']' then .ok none
    else if first then .ok (some (c :: rest))
    else if c = ',' then
      match skipSpace rest with
      | [] => .error (.ended .value)
      | ']' :: _ => .error .trailingComma
      | rest => .ok (some rest)
    else .error .noCommaInList

/-- Read the end of a list. -/
def endList (s : List Char) : Except Fault (List Char) :=
  match skipSpace s with
  | [] => .error (.ended .list)
  | ']' :: s => .ok s
  | ',' :: s =>
    match skipSpace s with
    | ']' :: _ => .error .trailingComma
    | _ => .error .trailingText
  | _ => .error .trailingText

/-- No character is gained. -/
theorem length_of_nextElement {first : Bool} {s rest : List Char}
    (h : nextElement first s = .ok (some rest)) : rest.length ≤ s.length := by
  have hle := length_skipSpace_le s
  unfold nextElement at h
  split at h
  · contradiction
  · next c r hs =>
    rw [hs, List.length_cons] at hle
    split at h
    · simp at h
    · split at h
      · simp only [Except.ok.injEq, Option.some.injEq] at h
        simp [← h]
        omega
      · split at h
        · have := length_skipSpace_le r
          split at h
          · contradiction
          · contradiction
          · simp only [Except.ok.injEq, Option.some.injEq] at h
            subst h
            omega
        · contradiction

/-- A character is taken. -/
theorem length_of_endList {s rest : List Char} (h : endList s = .ok rest) :
    rest.length < s.length := by
  have hle := length_skipSpace_le s
  unfold endList at h
  split at h
  · contradiction
  · next hs =>
    obtain rfl := Except.ok.inj h
    rw [hs, List.length_cons] at hle
    omega
  · split at h <;> contradiction
  · contradiction

namespace Reader

variable {α β : Type}

/-- Read a string. Faults name what is wanted by `wanted`. -/
def text (wanted : String) : Reader String where
  run s :=
    match skipSpace s with
    | '"' :: s => (readText s).map fun (text, rest) => (String.ofList text, rest)
    | s => .error (otherKind wanted s)
  length_lt {s rest a} h := by
    have hle := length_skipSpace_le s
    split at h
    · next s' hs =>
      rw [hs, List.length_cons] at hle
      obtain ⟨r, hr, heq⟩ := exists_of_map_eq_ok h
      obtain ⟨-, rfl⟩ := Prod.mk.inj heq
      have := length_of_readText hr
      omega
    · contradiction

/-- Read a whole number from 0 to `2 ^ 64 - 1`. -/
def natural : Reader Nat where
  run s :=
    match skipSpace s with
    | [] => .error (.ended .value)
    | c :: rest =>
      if c = '-' ∨ Text.isDigit c then
        match readNumber (c :: rest) with
        | .ok (.natural n, rest) => .ok (n, rest)
        | .ok (.negative n, _) => .error (.belowZero n "u64")
        | .ok (n, _) => .error (.wrongKind (.number n) "u64")
        | .error fault => .error fault
      else .error (otherKind "u64" (c :: rest))
  length_lt {s rest a} h := by
    have hle := length_skipSpace_le s
    split at h
    · contradiction
    · next hs =>
      rw [hs] at hle
      split at h
      · split at h
        · next hr =>
          have := length_of_readNumber hr
          simp only [Except.ok.injEq, Prod.mk.injEq] at h
          rw [← h.2]
          omega
        · contradiction
        · contradiction
        · contradiction
      · contradiction

/-- Read `null` as nothing, and anything else by the given reader. -/
def optional (item : Reader α) : Reader (Option α) where
  run s :=
    match skipSpace s with
    | 'n' :: s => (readWord ['u', 'l', 'l'] s).map (none, ·)
    | s => (item.run s).map fun (a, rest) => (some a, rest)
  length_lt {s rest a} h := by
    have hle := length_skipSpace_le s
    split at h
    · next s' hs =>
      rw [hs, List.length_cons] at hle
      obtain ⟨r, hr, heq⟩ := exists_of_map_eq_ok h
      obtain ⟨-, rfl⟩ := Prod.mk.inj heq
      have := length_of_readWord hr
      omega
    · obtain ⟨r, hr, heq⟩ := exists_of_map_eq_ok h
      obtain ⟨-, rfl⟩ := Prod.mk.inj heq
      have := item.length_lt hr
      omega

/-- Read a value and go on to another one, which may be refused. -/
def filterMap (f : α → Except Fault β) (item : Reader α) : Reader β where
  run s :=
    match item.run s with
    | .error fault => .error fault
    | .ok (a, rest) => (f a).map (·, rest)
  length_lt {s rest b} h := by
    split at h
    · contradiction
    · next a r hr =>
      obtain ⟨b, -, heq⟩ := exists_of_map_eq_ok h
      obtain ⟨-, rfl⟩ := Prod.mk.inj heq
      exact item.length_lt hr

/-- Read elements up to the end of the list, and not the end itself. -/
def elements (item : Reader α) (first : Bool) (s : List Char) :
    Except Fault (List α × List Char) :=
  match _h : nextElement first s with
  | .error fault => .error fault
  | .ok none => .ok ([], s)
  | .ok (some s') =>
    match _h' : item.run s' with
    | .error fault => .error fault
    | .ok (a, rest) => (elements item false rest).map fun (as, rest) => (a :: as, rest)
termination_by s.length
decreasing_by
  have := length_of_nextElement _h
  have := item.length_lt _h'
  omega

/-- No character is gained. -/
theorem length_of_elements {item : Reader α} {first : Bool} {s rest : List Char} {as : List α}
    (h : item.elements first s = .ok (as, rest)) : rest.length ≤ s.length := by
  fun_induction elements item first s generalizing as rest with
  | case1 => contradiction
  | case2 => simp_all
  | case3 => contradiction
  | case4 first s s' hs a r hr ih =>
    have := length_of_nextElement hs
    have := item.length_lt hr
    obtain ⟨later, hlater, heq⟩ := exists_of_map_eq_ok h
    obtain ⟨-, rfl⟩ := Prod.mk.inj heq
    have := ih hlater
    omega

/-- Read a list. -/
def list (item : Reader α) : Reader (List α) where
  run s :=
    match skipSpace s with
    | '[' :: s =>
      match item.elements true s with
      | .error fault => .error fault
      | .ok (as, s) => (endList s).map (as, ·)
    | s => .error (otherKind "a sequence" s)
  length_lt {s rest as} h := by
    have hle := length_skipSpace_le s
    split at h
    · next hs =>
      rw [hs, List.length_cons] at hle
      split at h
      · contradiction
      · next s'' he =>
        have := length_of_elements he
        obtain ⟨r, hr, heq⟩ := exists_of_map_eq_ok h
        obtain ⟨-, rfl⟩ := Prod.mk.inj heq
        have := length_of_endList hr
        omega
    · contradiction

/-- Read a whole text, as characters: one value, with blanks around it. -/
def decodeChars (item : Reader α) (s : List Char) : Except Fault α :=
  match item.run s with
  | .error fault => .error fault
  | .ok (a, rest) => if (skipSpace rest).isEmpty then .ok a else .error .trailingText

/-- Read a whole text: one value, with blanks around it. -/
def decode (item : Reader α) (s : String) : Except Fault α :=
  item.decodeChars s.toList

end Reader

end NewsReader.Json
