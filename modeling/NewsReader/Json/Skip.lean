import NewsReader.Json.NumberText

/-!
# Passing over a value

A value that nobody wants is passed over, however deep it nests. What is open is a list of brackets,
the innermost first. `settle` goes on from the end of a value to the place where the next one
starts; it closes what ends there and reads commas and keys.
-/

namespace NewsReader.Json

/-- What is open around a place in a text. -/
inductive Bracket where
  | list
  | object
  deriving DecidableEq

/-- Read a colon. -/
def readColon (s : List Char) : Except Fault (List Char) :=
  match skipSpace s with
  | [] => .error (.ended .object)
  | ':' :: s => .ok s
  | _ => .error .noColon

/-- Pass over a key and its colon. -/
def skipKey (s : List Char) : Except Fault (List Char) :=
  match skipSpace s with
  | [] => .error (.ended .object)
  | '"' :: s =>
    match skipText s with
    | .error fault => .error fault
    | .ok s => readColon s
  | _ => .error .keyNotText

/-- Go to the place where a value starts inside of a bracket. -/
def enter (b : Bracket) (s : List Char) : Except Fault (List Char) :=
  match b with
  | .list => .ok s
  | .object => skipKey s

/-- Go on to the next value inside of the brackets that are open. `afterValue` says that a value has
just ended, so that a comma may follow; else a bracket has just been opened. No brackets in the
answer mean that the outermost has been closed. -/
def settle (stack : List Bracket) (afterValue : Bool) (s : List Char) :
    Except Fault (List Bracket × List Char) :=
  match stack with
  | [] => .ok ([], s)
  | .list :: outer =>
    match skipSpace s with
    | [] => .error (.ended .list)
    | c :: rest =>
      if c = ']' then settle outer true rest
      else if !afterValue then .ok (.list :: outer, c :: rest)
      else if c = ',' then .ok (.list :: outer, rest)
      else .error .noCommaInList
  | .object :: outer =>
    match skipSpace s with
    | [] => .error (.ended .object)
    | c :: rest =>
      if c = '\x7d' then settle outer true rest
      else if !afterValue then (skipKey (c :: rest)).map (.object :: outer, ·)
      else if c = ',' then (skipKey rest).map (.object :: outer, ·)
      else .error .noCommaInObject

/-- Pass over a value without parts, or over the bracket that opens one. -/
def skipStart (s : List Char) : Except Fault (Option Bracket × List Char) :=
  match s with
  | [] => .error (.ended .value)
  | c :: rest =>
    if c = 'n' then (readWord ['u', 'l', 'l'] rest).map (none, ·)
    else if c = 't' then (readWord ['r', 'u', 'e'] rest).map (none, ·)
    else if c = 'f' then (readWord ['a', 'l', 's', 'e'] rest).map (none, ·)
    else if c = '"' then (skipText rest).map (none, ·)
    else if c = '-' ∨ Text.isDigit c then (skipNumber s).map (none, ·)
    else if c = '[' then .ok (some .list, rest)
    else if c = '\x7b' then .ok (some .object, rest)
    else .error .noValue

/-- No character is gained. -/
theorem length_of_readColon {s rest : List Char} (h : readColon s = .ok rest) :
    rest.length ≤ s.length := by
  have hle := length_skipSpace_le s
  unfold readColon at h
  split at h
  · contradiction
  · next hs =>
    obtain rfl := Except.ok.inj h
    rw [hs, List.length_cons] at hle
    omega
  · contradiction

/-- No character is gained. -/
theorem length_of_skipKey {s rest : List Char} (h : skipKey s = .ok rest) :
    rest.length ≤ s.length := by
  have hle := length_skipSpace_le s
  unfold skipKey at h
  split at h
  · contradiction
  · next hs =>
    split at h
    · contradiction
    · next ht =>
      have := length_of_skipText ht
      have := length_of_readColon h
      rw [hs, List.length_cons] at hle
      omega
  · contradiction

/-- No character is gained. -/
theorem length_of_settle {stack stack' : List Bracket} {afterValue : Bool} {s rest : List Char}
    (h : settle stack afterValue s = .ok (stack', rest)) : rest.length ≤ s.length := by
  -- The induction is on what is open: after an end the text goes on in the next bracket outside.
  induction stack generalizing afterValue s with
  | nil => simp_all [settle]
  | cons b outer ih =>
    have hle := length_skipSpace_le s
    cases b with
    | list =>
      simp only [settle] at h
      split at h
      · contradiction
      · next c r hs =>
        simp only [hs, List.length_cons] at hle
        split at h
        · have := ih h
          omega
        · split at h
          · simp only [Except.ok.injEq, Prod.mk.injEq] at h
            simp [← h.2]
            omega
          · split at h
            · simp only [Except.ok.injEq, Prod.mk.injEq] at h
              simp [← h.2]
              omega
            · contradiction
    | object =>
      simp only [settle] at h
      split at h
      · contradiction
      · next c r hs =>
        simp only [hs, List.length_cons] at hle
        split at h
        · have := ih h
          omega
        · split at h
          · obtain ⟨k, hk, heq⟩ := exists_of_map_eq_ok h
            obtain ⟨-, rfl⟩ := Prod.mk.inj heq
            have := length_of_skipKey hk
            rw [List.length_cons] at this
            omega
          · split at h
            · obtain ⟨k, hk, heq⟩ := exists_of_map_eq_ok h
              obtain ⟨-, rfl⟩ := Prod.mk.inj heq
              have := length_of_skipKey hk
              omega
            · contradiction

/-- A character is taken. -/
theorem length_of_skipStart {s rest : List Char} {opened : Option Bracket}
    (h : skipStart s = .ok (opened, rest)) : rest.length < s.length := by
  -- Words, strings and numbers open nothing, so what is left is what their readers leave.
  have map_ok {x : Except Fault (List Char)}
      (hx : x.map (Prod.mk (none : Option Bracket)) = .ok (opened, rest)) : x = .ok rest := by
    obtain ⟨r, rfl, heq⟩ := exists_of_map_eq_ok hx
    rw [(Prod.mk.inj heq).2]
  unfold skipStart at h
  split at h
  · contradiction
  · next c s =>
    simp only [List.length_cons]
    split at h
    · exact Nat.lt_succ_of_le (length_of_readWord (map_ok h))
    · split at h
      · exact Nat.lt_succ_of_le (length_of_readWord (map_ok h))
      · split at h
        · exact Nat.lt_succ_of_le (length_of_readWord (map_ok h))
        · split at h
          · exact Nat.lt_succ_of_lt (length_of_skipText (map_ok h))
          · split at h
            · exact length_of_skipNumber (map_ok h)
            · split at h
              · simp_all
              · split at h
                · simp_all
                · contradiction

/-- Pass over values until nothing is open. -/
def skipFrom (stack : List Bracket) (s : List Char) : Except Fault (List Char) :=
  match _h : skipStart (skipSpace s) with
  | .error fault => .error fault
  | .ok (opened, rest) =>
    match _h' : settle (opened.toList ++ stack) opened.isNone rest with
    | .error fault => .error fault
    | .ok ([], rest) => .ok rest
    | .ok (b :: outer, rest) => skipFrom (b :: outer) rest
termination_by s.length
decreasing_by
  have := length_skipSpace_le s
  have := length_of_skipStart _h
  have := length_of_settle _h'
  omega

/-- A character is taken. -/
theorem length_of_skipFrom {stack : List Bracket} {s rest : List Char}
    (h : skipFrom stack s = .ok rest) : rest.length < s.length := by
  -- One value is taken each time, and settling what is open gains nothing.
  fun_induction skipFrom stack s with
  | case1 => contradiction
  | case2 => contradiction
  | case3 stack s opened r hr r' hr' =>
    have := length_skipSpace_le s
    have := length_of_skipStart hr
    have := length_of_settle hr'
    simp only [Except.ok.injEq] at h
    rw [← h]
    omega
  | case4 stack s opened r hr b outer r' hr' ih =>
    have := length_skipSpace_le s
    have := length_of_skipStart hr
    have := length_of_settle hr'
    have := ih h
    omega

end NewsReader.Json
