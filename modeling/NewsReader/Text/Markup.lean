import NewsReader.Text.Blank

/-!
# Marked-up titles

Titles of feeds and articles come with tags and with a few named characters in them. The plain text
of a title has a space for each tag, the named characters written out, and its blanks collapsed.

A tag runs from `<` to the next `>`. The named characters are written out one kind after the other
in the order of `Entity.all`. The ampersand is last, so that what stood for a name is not read
again.
-/

namespace NewsReader.Text

/-- Replace each tag by a space. `inTag` says that the text starts inside a tag. -/
def dropTags (inTag : Bool) : List Char → List Char
  | [] => []
  | c :: cs =>
    if c = '<' then dropTags true cs
    else if inTag then
      if c = '>' then ' ' :: dropTags false cs else dropTags true cs
    else c :: dropTags false cs

/-- What is left of `cs` after the characters of `front`, if it starts with them. -/
def dropFront? : List Char → List Char → Option (List Char)
  | [], cs => some cs
  | _ :: _, [] => none
  | f :: fs, c :: cs => if f = c then dropFront? fs cs else none

/-- What follows the front is no longer than the whole. -/
theorem length_of_dropFront? {front cs rest : List Char} (h : dropFront? front cs = some rest) :
    rest.length + front.length = cs.length := by
  induction front generalizing cs with
  | nil => simp_all [dropFront?]
  | cons f fs ih =>
    cases cs with
    | nil => simp [dropFront?] at h
    | cons c cs =>
      simp only [dropFront?] at h
      split at h
      · simp [← ih h]; omega
      · simp at h

/-- Replace each occurrence of the nonempty text `f :: fs`, from left to right, by the character
`replacement`. -/
def replaceAll (f : Char) (fs : List Char) (replacement : Char) (cs : List Char) : List Char :=
  match cs with
  | [] => []
  | c :: cs =>
    match _h : dropFront? (f :: fs) (c :: cs) with
    | some rest => replacement :: replaceAll f fs replacement rest
    | none => c :: replaceAll f fs replacement cs
termination_by cs.length
decreasing_by
  · have := length_of_dropFront? _h
    simp at this ⊢
    omega
  · simp

/-- A character that titles write by name: an ampersand, the name, and a semicolon. -/
structure Entity where
  /-- What stands between the ampersand and the semicolon. -/
  name : String
  /-- The character that the name stands for. -/
  char : Char
  deriving Repr, DecidableEq

namespace Entity

/-- The named characters, in the order in which they are written out. -/
def all : List Entity :=
  [⟨"nbsp", ' '⟩, ⟨"lt", '<'⟩, ⟨"gt", '>'⟩, ⟨"quot", '"'⟩, ⟨"#39", '\''⟩,
    ⟨"apos", '\''⟩, ⟨"amp", '&'⟩]

/-- What follows the ampersand where the character is written by name. -/
def tail (e : Entity) : List Char :=
  e.name.toList ++ [';']

/-- Write out every occurrence of one named character. -/
def writeOut (e : Entity) (cs : List Char) : List Char :=
  replaceAll '&' e.tail e.char cs

end Entity

/-- Write out the named characters, one kind after the other. -/
def writeOutEntities (cs : List Char) : List Char :=
  Entity.all.foldl (fun cs e => e.writeOut cs) cs

/-- The plain text of a title, as characters. -/
def plainChars (cs : List Char) : List Char :=
  collapse (writeOutEntities (dropTags false cs))

/-- The plain text of a title. -/
def plain (s : String) : String :=
  String.ofList (plainChars s.toList)

end NewsReader.Text
