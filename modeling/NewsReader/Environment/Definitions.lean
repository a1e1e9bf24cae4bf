import NewsReader.Environment.Value
import NewsReader.Text.Blank

/-!
# Files of variables

A file of variables has definitions, each `NAME=value` on a line of its own, perhaps with the word
`export` before it. A value between quotes may go over several lines. Lines that are blank or start
with `#` are comments.

The definitions count in order. One that cannot be read ends the file, and what stands before it
counts.
-/

namespace NewsReader.Environment

open Text (isBlank trimEnd)

/-- What the next character of a line is part of, as far as that decides where the line ends. -/
inductive LineMode where
  /-- Text without a quote. -/
  | plain
  /-- A pair of a backslash and a character. -/
  | escaped
  /-- Text after a single blank. -/
  | gap
  /-- Text between quotes. -/
  | quoted (quote : Char)
  /-- A pair of a backslash and a character between quotes. -/
  | quotedEscape (quote : Char)
  deriving DecidableEq

/-- What comes after a character that is no blank, outside of quotes. -/
def LineMode.ofChar (c : Char) : LineMode :=
  if c = '\\' then escaped
  else if c = '"' ∨ c = '\'' then quoted c
  else plain

/-- What comes after a character. -/
def LineMode.next (mode : LineMode) (c : Char) : LineMode :=
  match mode with
  | plain => if isBlank c ∧ c ≠ '\n' ∧ c ≠ '\r' then gap else .ofChar c
  | gap => .ofChar c
  | escaped => plain
  | quoted quote => if c = '\\' then quotedEscape quote else if c = quote then plain else mode
  | quotedEscape quote => quoted quote

/-- Read a line of the file: the characters up to a comment, if there is one after a gap, and else
what comes after the line. -/
def scanLine (mode : LineMode) : List Char → Except (List Char) LineMode
  | [] => .ok mode
  | c :: cs =>
    if mode = .gap ∧ c = '#' then .error []
    else (scanLine (mode.next c) cs).mapError (c :: ·)

/-- A character that the name of a variable can start with. -/
def startsName (c : Char) : Bool :=
  c.isAlpha || c == '_'

/-- A character that the name of a variable can have. -/
def inName (c : Char) : Bool :=
  c.isAlphanum || c == '_' || c == '.'

/-- Read a name and the blanks after it. -/
def readName? (cs : List Char) : Option (List Char × List Char) :=
  if cs.head?.any startsName then
    let (name, rest) := cs.span inName
    some (name, rest.dropWhile isBlank)
  else none

/-- Read the sign between a name and its value, and the blanks after it. -/
def readEquals? : List Char → Option (List Char)
  | '=' :: cs => some (cs.dropWhile isBlank)
  | _ => none

/-- The word that may stand before a definition. -/
def exportWord : List Char :=
  "export".toList

/-- Read the name of a definition up to its value. The word before it can also be a name. -/
def readTarget? (cs : List Char) : Option (List Char × List Char) := do
  let (name, rest) ← readName? cs
  match readEquals? rest with
  | some value => some (name, value)
  | none =>
    if name = exportWord then
      let (name, rest) ← readName? rest
      let value ← readEquals? rest
      some (name, value)
    else none

/-- What a line defines: nothing in a comment, else a name and a value. A fault has no answer. -/
def definition? (env : Environment) (line : List Char) : Option (Option (String × String)) :=
  let cs := (trimEnd line).dropWhile isBlank
  if cs.isEmpty ∨ cs.head? = some '#' then some none
  else do
    let (name, cs) ← readTarget? cs
    let value ← if cs.isEmpty ∨ cs.head? = some '#' then some [] else valueOf? env cs
    some (some (String.ofList name, String.ofList value))

/-- How far a file has been read. -/
structure FileState where
  /-- The variables so far. -/
  env : Environment
  /-- What the next line starts in. -/
  mode : LineMode
  /-- The lines before that belong to the next one. -/
  before : List Char
  /-- There was a fault. -/
  stopped : Bool

namespace FileState

/-- The file starts here. -/
def start (env : Environment) : FileState :=
  ⟨env, .plain, [], false⟩

/-- Take what a line of definitions says. -/
def define (st : FileState) (line : List Char) : FileState :=
  match definition? st.env line with
  | none => { st with stopped := true }
  | some none => start st.env
  | some (some (name, value)) => start (st.env.define name value)

/-- Read a line of the file. -/
def read (st : FileState) (line : List Char) : FileState :=
  let all := st.before ++ line
  if st.stopped then st
  else if (all.dropWhile isBlank).head? = some '#' then start st.env
  else
    match scanLine st.mode line with
    | .error kept => st.define (st.before ++ kept)
    | .ok .plain => st.define all
    | .ok mode => { st with mode, before := all }

end FileState

/-- The lines of a text, each with the line feed at its end. -/
def linesOf : List Char → List (List Char)
  | [] => []
  | c :: cs =>
    if c = '\n' then [c] :: linesOf cs
    else
      match linesOf cs with
      | [] => [[c]]
      | line :: lines => (c :: line) :: lines

/-- The character at the start of a file that says how it is written. -/
def byteOrderMark : Char :=
  '\uFEFF'

/-- Add the variables that a file defines. Variables that have a value keep it. -/
def addFile (env : Environment) (text : String) : Environment :=
  let cs := text.toList
  let cs := if cs.head? = some byteOrderMark then cs.drop 1 else cs
  ((linesOf cs).foldl FileState.read (.start env)).env

end NewsReader.Environment
