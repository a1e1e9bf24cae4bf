/-!
# Excerpts

An excerpt shows a text in at most a given number of characters. A text that fits is shown whole;
one that does not ends in three points when there is room for them and one character more.
-/

namespace NewsReader.Text

/-- The points at the end of a text that was cut. -/
def ellipsis : List Char :=
  ['.', '.', '.']

/-- At most `max` characters of the text. -/
def excerptChars (max : Nat) (cs : List Char) : List Char :=
  if cs.length ≤ max then cs
  else if max ≤ 3 then cs.take max
  else cs.take (max - 3) ++ ellipsis

/-- At most `max` characters of the text. -/
def excerpt (max : Nat) (s : String) : String :=
  String.ofList (excerptChars max s.toList)

end NewsReader.Text
