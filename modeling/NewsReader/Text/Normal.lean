import NewsReader.Text.CombiningClass
import NewsReader.Text.Composition

/-!
# The composed form of a text

One text can be written in many ways: a letter with a mark may be one character or two, and marks of
different classes may stand in any order. The composed form is one of them. All characters are taken
apart, the marks of each letter are put in the order of their classes, and letters are composed with
marks as far as that goes.
-/

namespace NewsReader.Text

/-- How often a character can be taken apart. -/
def compositionDepth : Nat :=
  3

/-- Take a character apart, `depth` times at most. -/
def decomposeChar : (depth : Nat) → Char → List Char
  | 0, c => [c]
  | depth + 1, c =>
    match parts? c with
    | none => [c]
    | some (a, b) => decomposeChar depth a ++ [b]

/-- Take all characters apart. -/
def decompose (cs : List Char) : List Char :=
  cs.flatMap (decomposeChar compositionDepth)

/-- Put a character in front of ordered ones. A mark goes behind the marks of lower classes. -/
def place (c : Char) : List Char → List Char
  | [] => [c]
  | d :: ds =>
    if 0 < combiningClass d ∧ combiningClass d < combiningClass c then d :: place c ds
    else c :: d :: ds

/-- Put the marks of each letter in order. -/
def orderMarks (cs : List Char) : List Char :=
  cs.foldr place []

/-- Compose a letter with what comes after it. `kept` are the marks that it did not take, the last
one first; a mark behind one of its own class or a higher one cannot be taken. -/
def composeFrom (letter : Char) (kept : List Char) : List Char → List Char
  | [] => letter :: kept.reverse
  | c :: cs =>
    let isBlocked := kept.head?.any fun d => combiningClass c ≤ combiningClass d
    match if isBlocked then none else composed? letter c with
    | some both => composeFrom both kept cs
    | none =>
      if combiningClass c = 0 then letter :: kept.reverse ++ composeFrom c [] cs
      else composeFrom letter (c :: kept) cs

/-- Compose letters with their marks. -/
def compose : List Char → List Char
  | [] => []
  | c :: cs => if combiningClass c = 0 then composeFrom c [] cs else c :: compose cs

/-- The composed form of a text. -/
def composedForm (cs : List Char) : List Char :=
  compose (orderMarks (decompose cs))

/-- The text is written in its composed form. -/
def isComposed (cs : List Char) : Bool :=
  composedForm cs == cs

end NewsReader.Text
