/-!
# Writing JSON

Values are written in two layouts. The compact one has no blanks. The indented one has each element
and each member on a line of its own, two spaces deeper than the bracket around it.

A string is written with a backslash before a quote or a backslash, with the letters of five
controls, and with the other controls by number. Everything else stands as it is.
-/

namespace NewsReader.Json

/-- A value to be written. -/
inductive Value where
  | null
  | natural (n : Nat)
  | text (s : String)
  | list (items : List Value)
  | object (members : List (String × Value))

/-- One digit in base sixteen. -/
def hexDigit (n : Nat) : Char :=
  Nat.digitChar (n % 16)

/-- One character of a written string. -/
def escapeChar (c : Char) : List Char :=
  if c = '"' then ['\\', '"']
  else if c = '\\' then ['\\', '\\']
  else if c = '\x08' then ['\\', 'b']
  else if c = '\x0C' then ['\\', 'f']
  else if c = '\n' then ['\\', 'n']
  else if c = '\r' then ['\\', 'r']
  else if c = '\t' then ['\\', 't']
  else if c.toNat < 0x20 then ['\\', 'u', '0', '0', hexDigit (c.toNat / 16), hexDigit c.toNat]
  else [c]

/-- A written string. -/
def textChars (s : String) : List Char :=
  '"' :: s.toList.flatMap escapeChar ++ ['"']

namespace Value

mutual

/-- The value in the compact layout. -/
def compactChars : Value → List Char
  | null => ['n', 'u', 'l', 'l']
  | natural n => Nat.toDigits 10 n
  | text s => textChars s
  | list items => '[' :: compactItems items ++ [']']
  | object members => '\x7b' :: compactMembers members ++ ['\x7d']

/-- Elements with commas between them. -/
def compactItems : List Value → List Char
  | [] => []
  | [v] => v.compactChars
  | v :: w :: rest => v.compactChars ++ ',' :: compactItems (w :: rest)

/-- Members with commas between them. -/
def compactMembers : List (String × Value) → List Char
  | [] => []
  | [(name, v)] => textChars name ++ ':' :: v.compactChars
  | (name, v) :: m :: rest =>
    textChars name ++ ':' :: v.compactChars ++ ',' :: compactMembers (m :: rest)

end

/-- The start of a line. -/
def lineStart (depth : Nat) : List Char :=
  '\n' :: List.replicate (2 * depth) ' '

mutual

/-- The value in the indented layout, inside of `depth` brackets. -/
def indentedChars (depth : Nat) : Value → List Char
  | null => ['n', 'u', 'l', 'l']
  | natural n => Nat.toDigits 10 n
  | text s => textChars s
  | list [] => ['[', ']']
  | list (v :: rest) => '[' :: indentedItems (depth + 1) (v :: rest) ++ lineStart depth ++ [']']
  | object [] => ['\x7b', '\x7d']
  | object (m :: rest) =>
    '\x7b' :: indentedMembers (depth + 1) (m :: rest) ++ lineStart depth ++ ['\x7d']

/-- Elements, each on its line. -/
def indentedItems (depth : Nat) : List Value → List Char
  | [] => []
  | [v] => lineStart depth ++ v.indentedChars depth
  | v :: w :: rest =>
    lineStart depth ++ v.indentedChars depth ++ ',' :: indentedItems depth (w :: rest)

/-- Members, each on its line. -/
def indentedMembers (depth : Nat) : List (String × Value) → List Char
  | [] => []
  | [(name, v)] => lineStart depth ++ textChars name ++ ':' :: ' ' :: v.indentedChars depth
  | (name, v) :: m :: rest =>
    lineStart depth ++ textChars name ++ ':' :: ' ' :: v.indentedChars depth ++
      ',' :: indentedMembers depth (m :: rest)

end

/-- The value in the compact layout. -/
def compact (v : Value) : String :=
  String.ofList v.compactChars

/-- The value in the indented layout. -/
def indented (v : Value) : String :=
  String.ofList (v.indentedChars 0)

/-- A string or `null`. -/
def ofText? : Option String → Value
  | some s => text s
  | none => null

/-- A whole number or `null`. -/
def ofNat? : Option Nat → Value
  | some n => natural n
  | none => null

end Value

end NewsReader.Json
