import NewsReader.Text.Direction
import NewsReader.Text.Joining
import NewsReader.Text.Mark
import NewsReader.Text.Normal
import NewsReader.Url.NameCharacters
import NewsReader.Url.Punycode

/-!
# Domain names

A domain name has labels with points between them. A label with a mark in front stands for one with
characters outside of ASCII. Such a label must be well formed: all characters are those of domain
names, it is in composed form, it does not start with a mark, and what joins letters stands between
letters that join.

In a name with a character from right to left each label is of one direction.
-/

namespace NewsReader.Url

open Text (Direction direction)

/-- The parts of a text between the places where `sep` stands. -/
def splitAtChar (sep : Char) : List Char → List (List Char)
  | [] => [[]]
  | c :: cs =>
    if c = sep then [] :: splitAtChar sep cs
    else
      match splitAtChar sep cs with
      | [] => [[c]]
      | part :: parts => (c :: part) :: parts

/-! ## Joiners -/

/-- The character that keeps letters apart which would join. -/
def nonJoiner : Char :=
  '\u200C'

/-- The character that joins letters which would not. -/
def joiner : Char :=
  '\u200D'

/-- A text, read backwards, ends in a mark that joins. -/
def endsInVirama (before : List Char) : Bool :=
  before.head?.any fun c => Text.combiningClass c == Text.viramaClass

/-- The letters around a place join each other. The text before it is read backwards. -/
def joinsAcross (before after : List Char) : Bool :=
  (before.dropWhile Text.isTransparent).head?.any Text.joinsAfter &&
    (after.dropWhile Text.isTransparent).head?.any Text.joinsBefore

/-- The joiners and nonjoiners after a text, which is read backwards, stand where they can. -/
def joinersFit (before : List Char) : List Char → Bool
  | [] => true
  | c :: cs =>
    (if c = joiner then endsInVirama before
      else if c = nonJoiner then endsInVirama before || joinsAcross before cs
      else true) && joinersFit (c :: before) cs

/-! ## Labels -/

/-- The greatest length of what follows the mark of a label. -/
def encodedLimit : Nat :=
  2000

/-- The greatest length of a label that has a mark. -/
def labelLimit : Nat :=
  1000

/-- A label that was behind a mark is well formed. -/
def isFormed (label : List Char) : Bool :=
  label.any (0x80 ≤ ·.toNat) && label.all (fun c => c.toNat < 0x80 || isNameCharacter c) &&
    Text.isComposed label && !label.head?.any Text.isMark && joinersFit [] label &&
    label.length ≤ labelLimit

/-- The label that is meant, if it is well formed. -/
def meantLabel? : List Char → Option (List Char)
  | 'x' :: 'n' :: '-' :: '-' :: cs =>
    if cs.length ≤ encodedLimit then (Punycode.decode? cs).filter isFormed else none
  | cs => some cs

/-! ## Directions -/

/-- A character for which the directions of a name count. -/
def isFromRight (c : Char) : Bool :=
  direction c == .rightToLeft || direction c == .arabicNumber

/-- What comes after the first character of a label can stand in one from left to right. The marks
at its end do not count. -/
def runsRight (rest : List Direction) : Bool :=
  rest.all ([.leftToRight, .europeanNumber, .neutral, .mark].contains ·) &&
    rest.getLast?.all ([.leftToRight, .europeanNumber].contains ·)

/-- What comes after the first character of a label can stand in one from right to left. The marks
at its end do not count. Digits are of one kind. -/
def runsLeft (rest : List Direction) : Bool :=
  rest.all ([.rightToLeft, .europeanNumber, .arabicNumber, .neutral, .mark].contains ·) &&
    rest.getLast?.all ([.rightToLeft, .europeanNumber, .arabicNumber].contains ·) &&
    !(rest.contains .europeanNumber && rest.contains .arabicNumber)

/-- A label is of one direction, which its first character gives. -/
def isDirected (label : List Char) : Bool :=
  match label.map direction with
  | [] => true
  | first :: rest =>
    let rest := (rest.reverse.dropWhile (· == .mark)).reverse
    match first with
    | .leftToRight => runsRight rest
    | .rightToLeft => runsLeft rest
    | _ => false

/-- A text of ASCII characters in lower case is a domain name. -/
def isDomainName (cs : List Char) : Bool :=
  match (splitAtChar '.' cs).mapM meantLabel? with
  | none => false
  | some labels => !labels.any (·.any isFromRight) || labels.all isDirected

end NewsReader.Url
