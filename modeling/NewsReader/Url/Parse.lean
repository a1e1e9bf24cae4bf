import NewsReader.Url.Basic

/-!
# Reading URLs

A URL is read without a base, so it needs a scheme. Blanks and controls at the ends of the text and
line breaks and tabs in it do not count.

In a special scheme any number of slashes of either kind stand before the authority; in another
scheme an authority needs two. Segments of one or two points are resolved while the path is read;
two points take a segment away, but never a drive.
-/

namespace NewsReader.Url

open Text (isDigit numberOf)

/-- The characters of a text that count. -/
def cleaned (s : String) : List Char :=
  let isEdge (c : Char) : Bool := c.toNat ≤ 0x20
  let cs := s.toList.dropWhile isEdge
  let cs := (cs.reverse.dropWhile isEdge).reverse
  cs.filter fun c => c != '\t' && c != '\n' && c != '\r'

/-- A character that may stand in a scheme. -/
def inScheme (c : Char) : Bool :=
  c.isAlphanum || c == '+' || c == '-' || c == '.'

/-- Take the scheme and its colon off a text. -/
def scheme? (cs : List Char) : Option (String × List Char) :=
  match cs.span inScheme with
  | (c :: name, ':' :: rest) =>
    if c.isAlpha then some (String.ofList ((c :: name).map Char.toLower), rest) else none
  | _ => none

/-- The parts of a text before and after the first `mark`. -/
def cutAt (mark : Char) (cs : List Char) : List Char × Option (List Char) :=
  match cs.span (· != mark) with
  | (before, []) => (before, none)
  | (before, _ :: after) => (before, some after)

/-- A slash. In a special scheme a backslash is one too. -/
def isSlash (special : Bool) (c : Char) : Bool :=
  c == '/' || special && c == '\\'

/-- The parts of a text before and after the last `mark`. -/
def cutAtLast (mark : Char) (cs : List Char) : Option (List Char) × List Char :=
  match cs.reverse.span (· != mark) with
  | (after, []) => (none, after.reverse)
  | (after, _ :: before) => (some before.reverse, after.reverse)

/-- The user's name and password. -/
def userOf (cs : List Char) : List Char × Option (List Char) :=
  let (name, password) := cutAt ':' cs
  let password := password.bind fun p => if p.isEmpty then none else some p
  (percentEncode inUserSet name, password.map (percentEncode inUserSet))

/-- The parts of a text before and after the first colon that does not stand between brackets. -/
def cutPort (inBrackets : Bool) : List Char → List Char × Option (List Char)
  | [] => ([], none)
  | c :: cs =>
    if c = ':' ∧ !inBrackets then ([], some cs)
    else
      let (host, port) :=
        cutPort (if c = '[' then true else if c = ']' then false else inBrackets) cs
      (c :: host, port)

/-- The port that is written after a colon. Nothing stands for the one that the scheme means. -/
def portOf (scheme : String) : Option (List Char) → Except Fault (Option Nat)
  | none => .ok none
  | some digits =>
    if digits.all isDigit ∧ numberOf digits ≤ 65535 then
      if digits.isEmpty ∨ some (numberOf digits) = defaultPort? scheme then .ok none
      else .ok (some (numberOf digits))
    else .error .badPort

/-- Read an authority. `atEnd` says that nothing is written after it; only there may an empty user
stand before an empty host. A backslash ends the port: it and what comes after it are left for the
path. -/
def Authority.ofChars (scheme : String) (atEnd : Bool) (cs : List Char) :
    Except Fault (Authority × List Char) := do
  let (user, rest) := cutAtLast '@' cs
  let (name, password) := (user.map userOf).getD ([], none)
  let (host, port) := cutPort false rest
  let host ← if isSpecial scheme then Host.ofChars host else Host.ofOpaqueChars host
  let hasUser := !name.isEmpty || password.isSome || (user == some [] && !atEnd)
  if host = .name [] ∧ (hasUser ∨ port.isSome) then .error .emptyHost
  else
    let port ← portOf scheme (port.map (·.takeWhile (· != '\\')))
    .ok (⟨name, password, host, port⟩, rest.dropWhile (· != '\\'))

/-- A segment of one point. -/
def isDot (cs : List Char) : Bool :=
  cs == ['.'] || cs.map Char.toLower == ['%', '2', 'e']

/-- A segment of two points. -/
def isTwoDots (cs : List Char) : Bool :=
  match cs with
  | '.' :: rest => isDot rest
  | a :: b :: c :: rest => isDot [a, b, c] && isDot rest
  | _ => false

/-- A segment that stands for a drive: a letter and a mark. -/
def isDrive (cs : List Char) : Bool :=
  match cs with
  | [c, mark] => c.isAlpha && (mark == ':' || mark == '|')
  | _ => false

/-- Take away the last of the segments, of which it comes first, unless it stands for a drive. -/
def shorten : List (List Char) → List (List Char)
  | [] => []
  | part :: parts => if isDrive part then part :: parts else parts

/-- Resolve segments after those in `done`, of which the last comes first. A segment of points at
the end leaves an empty one. -/
def resolve (done : List (List Char)) : List (List Char) → List (List Char)
  | [] => done.reverse
  | part :: parts =>
    let done :=
      if isTwoDots part then shorten done
      else if isDot part then done
      else part :: done
    let done := if parts.isEmpty ∧ (isTwoDots part ∨ isDot part) then [] :: done else done
    resolve done parts

/-- Read the segments of a path, with or without a slash in front. -/
def segmentsOf (special : Bool) (cs : List Char) : List (List Char) :=
  let cs := if special then cs.map fun c => if c = '\\' then '/' else c else cs
  let cs := match cs with
    | '/' :: rest => rest
    | cs => cs
  resolve [] ((splitAtChar '/' cs).map (percentEncode inPathSet))

/-- Read what follows a scheme with an authority. -/
def ofAuthority (scheme : String) (atEnd : Bool) (cs : List Char) :
    Except Fault (Option Authority × Path) := do
  let special := isSpecial scheme
  let (front, back) := cs.span (!isSlash special ·)
  let (authority, rest) ← Authority.ofChars scheme (atEnd && back.isEmpty) front
  let path := rest ++ back
  let segments := if path.isEmpty ∧ !special then [] else segmentsOf special path
  .ok (some authority, .segments segments)

/-- An authority without a name, as files on this machine have it. -/
def thisMachine : Authority :=
  .ofHost (.name []) none

/-- The segments of the path of a file. A drive at the start is written with a colon, and empty
segments at the start do not count. -/
def fileSegments (parts : List (List Char)) : List (List Char) :=
  let parts := match parts with
    | [c, '|'] :: rest => if c.isAlpha then [c, ':'] :: rest else parts
    | parts => parts
  match parts.dropWhile (·.isEmpty) with
  | [] => [[]]
  | parts => parts

/-- Read what follows the scheme of a file. The host is left out if it is this machine, or if the
path starts with a drive. A drive is never a host. -/
def ofFile (cs : List Char) : Except Fault (Option Authority × Path) := do
  let (host, path) := match cs with
    | a :: b :: rest =>
      if isSlash true a ∧ isSlash true b then rest.span (!isSlash true ·) else ([], cs)
    | cs => ([], cs)
  let (host, path) := if isDrive host then ([], host ++ path) else (host, path)
  let parts := segmentsOf true path
  let path := Path.segments (fileSegments parts)
  if host.isEmpty then .ok (some thisMachine, path)
  else
    let host ← Host.ofChars host
    if host = .name "localhost".toList ∨ parts.head?.any isDrive then .ok (some thisMachine, path)
    else .ok (some (.ofHost host none), path)

/-- Read what follows the scheme, up to the query or fragment. `atEnd` says that there is none. -/
def ofBody (scheme : String) (atEnd : Bool) (cs : List Char) :
    Except Fault (Option Authority × Path) :=
  if scheme = "file" then ofFile cs
  else if isSpecial scheme then ofAuthority scheme atEnd (cs.dropWhile (isSlash true))
  else
    match cs with
    | '/' :: '/' :: rest => ofAuthority scheme atEnd rest
    | '/' :: rest => .ok (none, .segments (segmentsOf false rest))
    | cs => .ok (none, .plain (percentEncode isControl cs))

/-- Read a URL. -/
def ofText (s : String) : Except Fault Url :=
  match scheme? (cleaned s) with
  | none => .error .noScheme
  | some (scheme, rest) => do
    let (rest, fragment) := cutAt '#' rest
    let (rest, query) := cutAt '?' rest
    let (authority, path) ← ofBody scheme (query.isNone && fragment.isNone) rest
    .ok { scheme, authority, path
          query := query.map (percentEncode (inQuerySet (isSpecial scheme)))
          fragment := fragment.map (percentEncode inFragmentSet) }

end NewsReader.Url
