import NewsReader.Json.Reader
import NewsReader.Json.Value
import NewsReader.Text.Blank

/-!
# Kinds of vaults

The configuration says by name which kind of vault keeps the token. In a text from the environment
case and blanks do not matter. In JSON the name is a string as it is, or an object with the name as
its only key and `null` as the value.
-/

namespace NewsReader

/-- A kind of vault. -/
inductive StoreKind where
  | file
  | keyring
  | memory
  deriving DecidableEq

namespace StoreKind

/-- All kinds. -/
def all : List StoreKind :=
  [file, keyring, memory]

/-- The name of a kind. -/
def name : StoreKind → String
  | file => "file"
  | keyring => "keyring"
  | memory => "memory"

/-- The kind with this name. -/
def ofName? (s : String) : Option StoreKind :=
  all.find? (·.name = s)

/-- The name that a text from the environment gives. -/
def nameIn (s : String) : String :=
  String.ofList ((Text.trimChars s.toList).map Char.toLower)

/-- A name that is none of the known ones. -/
structure Unknown where
  /-- The name. -/
  name : String
  deriving DecidableEq

/-- The text of the fault. -/
def Unknown.message (u : Unknown) : String :=
  "Unknown token store: " ++ u.name

/-- The kind that a text from the environment gives. -/
def ofText (s : String) : Except Unknown StoreKind :=
  match ofName? (nameIn s) with
  | some kind => .ok kind
  | none => .error ⟨nameIn s⟩

open Json (Reader Fault Found readText readWord readColon skipSpace otherKind)

/-- The kind with this name, for a reader. -/
def ofKey (s : String) : Except Fault StoreKind :=
  match ofName? s with
  | some kind => .ok kind
  | none => .error (.unknownName s (all.map name))

/-- Read `null` as the value beside a name. -/
def readUnit (s : List Char) : Except Fault (List Char) :=
  match skipSpace s with
  | 'n' :: s => readWord ['u', 'l', 'l'] s
  | s => .error (otherKind "unit" s)

/-- Read the end of an object that has one key. -/
def readClosing (s : List Char) : Except Fault (List Char) :=
  match skipSpace s with
  | [] => .error (.ended .object)
  | '\x7d' :: s => .ok s
  | _ => .error .noValue

/-- Read the value beside a name and the end of the object. -/
def readRest (kind : StoreKind) (s : List Char) : Except Fault (StoreKind × List Char) :=
  match readColon s with
  | .error fault => .error fault
  | .ok s =>
    match readUnit s with
    | .error fault => .error fault
    | .ok s => (readClosing s).map (kind, ·)

/-- Read a name. -/
def nameReader : Reader StoreKind :=
  (Reader.text "variant identifier").filterMap ofKey

/-- Read the name that is the key of an object. -/
def readKind (s : List Char) : Except Fault (StoreKind × List Char) :=
  match skipSpace s with
  | [] => .error (.ended .object)
  | c :: rest =>
    if c = '"' then nameReader.run (c :: rest)
    else if c = '\x7d' then .error .noValue
    else .error .keyNotText

/-- No character is gained. -/
theorem length_of_readUnit {s rest : List Char} (h : readUnit s = .ok rest) :
    rest.length ≤ s.length := by
  have hle := Json.length_skipSpace_le s
  unfold readUnit at h
  split at h
  · next hs =>
    rw [hs, List.length_cons] at hle
    have := Json.length_of_readWord h
    omega
  · contradiction

/-- A name takes at least one character. -/
theorem length_of_readKind {kind : StoreKind} {s rest : List Char}
    (h : readKind s = .ok (kind, rest)) : rest.length < s.length := by
  have hle := Json.length_skipSpace_le s
  unfold readKind at h
  split at h
  · contradiction
  · next hs =>
    rw [hs] at hle
    split at h
    · have := nameReader.length_lt h
      omega
    · split at h <;> contradiction

/-- No character is gained. -/
theorem length_of_readClosing {s rest : List Char} (h : readClosing s = .ok rest) :
    rest.length ≤ s.length := by
  have hle := Json.length_skipSpace_le s
  unfold readClosing at h
  split at h
  · contradiction
  · next hs =>
    obtain rfl := Except.ok.inj h
    rw [hs, List.length_cons] at hle
    omega
  · contradiction

/-- No character is gained. -/
theorem length_of_readRest {kind kind' : StoreKind} {s rest : List Char}
    (h : readRest kind s = .ok (kind', rest)) : rest.length ≤ s.length := by
  unfold readRest at h
  split at h
  · contradiction
  · next s₁ h₁ =>
    split at h
    · contradiction
    · next s₂ h₂ =>
      obtain ⟨r, hr, heq⟩ := Json.exists_of_map_eq_ok h
      obtain ⟨-, rfl⟩ := Prod.mk.inj heq
      have := Json.length_of_readColon h₁
      have := length_of_readUnit h₂
      have := length_of_readClosing hr
      omega

/-- Read a kind. -/
def reader : Reader StoreKind where
  run s :=
    match skipSpace s with
    | [] => .error (.ended .value)
    | c :: rest =>
      if c = '"' then nameReader.run (c :: rest)
      else if c = '\x7b' then
        match readKind rest with
        | .error fault => .error fault
        | .ok (kind, rest) => readRest kind rest
      else .error .noValue
  length_lt {s rest a} h := by
    have hle := Json.length_skipSpace_le s
    split at h
    · contradiction
    · next hs =>
      rw [hs] at hle
      split at h
      · have := nameReader.length_lt h
        omega
      · split at h
        · split at h
          · contradiction
          · next hn =>
            have := length_of_readKind hn
            have := length_of_readRest h
            simp only [List.length_cons] at hle
            omega
        · contradiction

end StoreKind

end NewsReader
