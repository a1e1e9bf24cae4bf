/-!
# Headers

The headers of a request are lines, each with a name and a value. Several lines may have one name.
Names are in lower case.

A request gets its headers from several places, one after the other. It makes a difference whether a
place adds a line to those of its name, gives one only where there is none, or takes the place of
them.
-/

namespace NewsReader.Http

/-- The headers of a request. -/
structure Headers where
  /-- The lines, each with a name and a value. -/
  lines : List (String × String)
  deriving DecidableEq

namespace Headers

/-- No headers. -/
def none : Headers :=
  ⟨[]⟩

/-- The values of a name, in the order of their lines. -/
def values (h : Headers) (name : String) : List String :=
  (h.lines.filter (·.1 == name)).map (·.2)

/-- The first value of a name, or the empty text. -/
def first (h : Headers) (name : String) : String :=
  (h.values name).headD ""

/-- Add a line to those of its name. -/
def add (h : Headers) (name value : String) : Headers :=
  ⟨h.lines ++ [(name, value)]⟩

/-- Add a line if there is none of its name. -/
def supply (h : Headers) (name value : String) : Headers :=
  if (h.values name).isEmpty then h.add name value else h

/-- Let the names of `other` have the values that they have there, and no others. -/
def replace (h other : Headers) : Headers :=
  ⟨h.lines.filter (fun line => (other.values line.1).isEmpty) ++ other.lines⟩

/-- Of headers with none but the names that `other` has, nothing is left when `other` replaces
them. -/
theorem replace_eq_right {h other : Headers}
    (hnames : ∀ line ∈ h.lines, other.values line.1 ≠ []) : h.replace other = other := by
  have hleft : h.lines.filter (fun line => (other.values line.1).isEmpty) = [] := by
    simpa using hnames
  simp [replace, hleft]

end Headers

end NewsReader.Http
