import NewsReader.Url.Host

/-!
# URLs

A URL has a scheme, an authority with user and host, a path, a query and a fragment. Its parts are
kept as they are written, percent encoding included, so that writing is only putting them together.

The special schemes are those of the web and of files. A URL of one of the web has a host.
-/

namespace NewsReader

namespace Url

/-- The port that is meant in a special scheme when none is given. -/
def defaultPort? (scheme : String) : Option Nat :=
  if scheme = "http" ∨ scheme = "ws" then some 80
  else if scheme = "https" ∨ scheme = "wss" then some 443
  else if scheme = "ftp" then some 21
  else none

/-- The schemes with rules of their own. -/
def isSpecial (scheme : String) : Bool :=
  (defaultPort? scheme).isSome || scheme == "file"

/-- Who is asked, and as whom. -/
structure Authority where
  /-- The user's name, or nothing. -/
  user : List Char
  /-- The user's password. -/
  password : Option (List Char)
  /-- The host. -/
  host : Host
  /-- The port, if it is not the one that the scheme means. -/
  port : Option Nat
  deriving DecidableEq

/-- An authority without a user. -/
def Authority.ofHost (host : Host) (port : Option Nat) : Authority :=
  ⟨[], none, host, port⟩

/-- The path of a URL. -/
inductive Path where
  /-- Text without parts. -/
  | plain (cs : List Char)
  /-- Segments, each with a slash before it. -/
  | segments (parts : List (List Char))
  deriving DecidableEq

end Url

/-- A URL. -/
structure Url where
  /-- The scheme, in lower case. -/
  scheme : String
  /-- Who is asked. -/
  authority : Option Url.Authority
  /-- The path. -/
  path : Url.Path
  /-- The query. -/
  query : Option (List Char)
  /-- The fragment. -/
  fragment : Option (List Char)
  deriving DecidableEq

namespace Url

/-- The written user with the mark after it. -/
def Authority.userChars (a : Authority) : List Char :=
  match a.user, a.password with
  | [], none => []
  | user, none => user ++ ['@']
  | user, some password => user ++ ':' :: password ++ ['@']

/-- The written port with the mark before it. -/
def portChars : Option Nat → List Char
  | none => []
  | some port => ':' :: decimal port

/-- The written authority. -/
def Authority.chars (a : Authority) : List Char :=
  a.userChars ++ a.host.chars ++ portChars a.port

/-- The written path. -/
def Path.chars : Path → List Char
  | plain cs => cs
  | segments parts => parts.flatMap ('/' :: ·)

/-- A part with a mark before it, if there is one. -/
def marked (mark : Char) : Option (List Char) → List Char
  | none => []
  | some cs => mark :: cs

/-- What stands between scheme and path. A path that starts with two slashes has a mark before it
where there is no authority. -/
def authorityChars (u : Url) : List Char :=
  match u.authority, u.path with
  | some a, _ => '/' :: '/' :: a.chars
  | none, .segments ([] :: _ :: _) => ['/', '.']
  | none, _ => []

/-- The written URL, as characters. -/
def chars (u : Url) : List Char :=
  u.scheme.toList ++ ':' :: u.authorityChars ++ u.path.chars ++ marked '?' u.query ++
    marked '#' u.fragment

/-- The written URL. -/
def text (u : Url) : String :=
  String.ofList u.chars

/-- The host, if there is one. -/
def host? (u : Url) : Option Host :=
  u.authority.bind fun a => if a.host = .name [] then none else some a.host

/-- The port that is asked: the given one, or the one that the scheme means. -/
def effectivePort? (u : Url) : Option Nat :=
  (u.authority.bind (·.port)).or (defaultPort? u.scheme)

/-- The user's name and password, with the characters that they stand for. A part that cannot be
read is none; there is no user without a name that can be read, or with neither name nor
password. -/
def user? (u : Url) : Option (List Char × Option (List Char)) :=
  u.authority.bind fun a =>
    let read (cs : List Char) : Option (List Char) := Text.decode? (percentDecode cs)
    match read a.user, a.password.bind read with
    | none, _ | some [], none => none
    | some name, password => some (name, password)

/-- Leave the user out, if there is one. -/
def withoutUser (u : Url) : Url :=
  match u.user? with
  | none => u
  | some _ => { u with authority := u.authority.map fun a => .ofHost a.host a.port }

/-- Leave the port out if it is the one that the scheme means. -/
def Authority.forScheme (a : Authority) (scheme : String) : Authority :=
  { a with port := if a.port = defaultPort? scheme then none else a.port }

/-- Give the URL another scheme. It can have it if both schemes are special or neither is, if a
special scheme comes to a host, and if that of files comes to no authority. -/
def setScheme? (u : Url) (scheme : String) : Option Url :=
  if isSpecial scheme = isSpecial u.scheme ∧ (isSpecial scheme → u.host?.isSome) ∧
      (scheme = "file" → u.authority.isNone) then
    some { u with scheme, authority := u.authority.map (·.forScheme scheme) }
  else none

/-- Add a pair to the query. -/
def addPair (u : Url) (name value : List Char) : Url :=
  let pair := formEncode name ++ '=' :: formEncode value
  { u with
    query := some (match u.query with
      | none | some [] => pair
      | some query => query ++ '&' :: pair) }

end Url

end NewsReader
