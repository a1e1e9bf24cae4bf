import NewsReader.Environment.Basic
import NewsReader.Text.Alphanumeric

/-!
# Values in a file of variables

A value is read character by character. Single quotes keep what is between them as it is. Double
quotes keep blanks, and in them and outside of quotes a backslash takes the meaning from the
character after it, and `$` stands before the name of a variable whose value is put in. Such a name
has letters and numbers of any script, or stands between braces. Outside of quotes a blank ends the
value; only blanks and a comment may come after it.
-/

namespace NewsReader.Environment

/-- What the next character of a value is part of. -/
inductive ValueMode where
  /-- The value, inside or outside of double quotes. -/
  | plain
  /-- A pair of a backslash and a character. -/
  | escaped
  /-- Text between single quotes. -/
  | single
  /-- The name of a variable. -/
  | name (cs : List Char)
  /-- The name of a variable between braces. -/
  | braced (cs : List Char)
  /-- What comes after the value. -/
  | after
  deriving DecidableEq

/-- How far a value has been read. -/
structure ValueState where
  /-- What the next character is part of. -/
  mode : ValueMode
  /-- The next character is between double quotes. -/
  inQuotes : Bool
  /-- The value so far. -/
  value : List Char
  deriving DecidableEq

/-- The values start here. -/
def ValueState.start : ValueState :=
  ⟨.plain, false, []⟩

/-- A character that a backslash can stand before, and what the two mean. -/
def escapedMeaning? (c : Char) : Option Char :=
  if c = 'n' then some '\n'
  else if c = '\\' ∨ c = '\'' ∨ c = '"' ∨ c = '$' ∨ c = ' ' then some c
  else none

/-- A blank that ends a value. -/
def isGap (c : Char) : Bool :=
  c == ' ' || c == '\t'

namespace ValueState

/-- Put characters to the value and go on with it. -/
def put (st : ValueState) (cs : List Char) : ValueState :=
  { st with mode := .plain, value := st.value ++ cs }

/-- Put the value of a variable to the value and go on with it. -/
def putVariable (env : Environment) (st : ValueState) (name : List Char) : ValueState :=
  st.put ((env (String.ofList name)).getD "").toList

/-- Read a character of the value itself. -/
def readPlain (st : ValueState) (c : Char) : ValueState :=
  if c = '$' then { st with mode := .name [] }
  else if c = '\\' then { st with mode := .escaped }
  else if c = '"' then { st with inQuotes := !st.inQuotes }
  else if st.inQuotes then st.put [c]
  else if c = '\'' then { st with mode := .single }
  else if isGap c then { st with mode := .after }
  else st.put [c]

/-- Read a character. Nothing is answered where it cannot stand. -/
def read (env : Environment) (st : ValueState) (c : Char) : Option ValueState :=
  match st.mode with
  | .plain => some (st.readPlain c)
  | .escaped => (escapedMeaning? c).map fun c => st.put [c]
  | .single => some (if c = '\'' then st.put [] else { st with value := st.value ++ [c] })
  | .name cs =>
    if Text.isAlphanumeric c then some { st with mode := .name (cs ++ [c]) }
    else if c = '\x7b' ∧ cs = [] then some { st with mode := .braced [] }
    else
      let st := st.putVariable env cs
      some (if c = '$' then { st with mode := .name [] } else st.put [c])
  | .braced cs =>
    some (if c = '\x7d' then st.putVariable env cs else { st with mode := .braced (cs ++ [c]) })
  | .after => if isGap c then some st else none

/-- The value at its end. Nothing is answered if something is still open. -/
def finish (env : Environment) (st : ValueState) : Option (List Char) :=
  if st.inQuotes then none
  else
    match st.mode with
    | .single | .braced _ => none
    | .name cs => some (st.putVariable env cs).value
    | _ => some st.value

/-- Read the characters of a value up to its end or a comment after it. -/
def readAll (env : Environment) (st : ValueState) : List Char → Option (List Char)
  | [] => st.finish env
  | c :: cs =>
    if st.mode = .after ∧ c = '#' then st.finish env
    else
      match st.read env c with
      | none => none
      | some st => readAll env st cs

end ValueState

/-- The value that the characters write. -/
def valueOf? (env : Environment) (cs : List Char) : Option (List Char) :=
  ValueState.start.readAll env cs

end NewsReader.Environment
