import NewsReader.Url.Host

/-!
# Endpoints of live connections

Before a live connection is made, its endpoint is read. The text has a scheme, an authority and a
path, or it is an authority alone, or a path alone. The authority has a host and perhaps a user
before it and a port after it.

Not every text that can be read is an endpoint: a path alone has no host, and without a port the
scheme has to say which one is meant.
-/

namespace NewsReader.Live

open Text (isDigit numberOf)

/-- A reason why no live connection is made to an endpoint. -/
inductive OpeningFault where
  /-- There is no text. -/
  | nothing
  /-- The text is too long. -/
  | tooLong
  /-- The scheme is too long. -/
  | longScheme
  /-- A character stands where it cannot. -/
  | badCharacter
  /-- The authority is malformed. -/
  | badAuthority
  /-- There is no authority where one is needed, or something follows one that stands alone. -/
  | badFormat
  /-- There is no host. -/
  | noHost
  /-- There is no port, and the scheme means none. -/
  | noPort
  /-- There is no way to the address. -/
  | noRoute
  /-- The name of the host cannot be looked up. -/
  | unknownName
  deriving DecidableEq

/-- The text of a fault. -/
def OpeningFault.text : OpeningFault → String
  | nothing => "HTTP format error: empty string"
  | tooLong => "HTTP format error: uri too long"
  | longScheme => "HTTP format error: scheme too long"
  | badCharacter => "HTTP format error: invalid uri character"
  | badAuthority => "HTTP format error: invalid authority"
  | badFormat => "HTTP format error: invalid format"
  | noHost => "URL error: No host name in the URL"
  | noPort => "URL error: URL scheme not supported"
  | noRoute => "IO error: Network is unreachable (os error 101)"
  | unknownName =>
    "IO error: failed to lookup address information: Temporary failure in name resolution"

/-! ## Authorities -/

/-- A character that can stand in an authority. -/
def inAuthority (c : Char) : Bool :=
  c.isAlphanum || "!$&'()*+,-.:;=@[]_~".toList.contains c

/-- What has been seen of an authority. -/
structure AuthorityScan where
  /-- How many colons there are that could stand before a port. -/
  colons : Nat
  /-- An address has been opened. -/
  isOpen : Bool
  /-- The address has been closed. -/
  isClosed : Bool
  /-- There is a percent sign outside of a user. -/
  hasPercent : Bool
  /-- The last character ends a user. -/
  endsUser : Bool
  deriving DecidableEq

namespace AuthorityScan

/-- Nothing has been seen. -/
def start : AuthorityScan :=
  ⟨0, false, false, false, false⟩

/-- The greatest number of colons. -/
def colonLimit : Nat :=
  8

/-- See a character. -/
def step (st : AuthorityScan) (c : Char) : Except OpeningFault AuthorityScan :=
  let st := { st with endsUser := false }
  if c = '%' then .ok { st with hasPercent := true }
  else if !inAuthority c then .error .badCharacter
  else if c = ':' then
    if colonLimit ≤ st.colons then .error .badAuthority
    else .ok { st with colons := st.colons + 1 }
  else if c = '[' then
    if st.hasPercent ∨ st.isOpen then .error .badAuthority else .ok { st with isOpen := true }
  else if c = ']' then
    if !st.isOpen ∨ st.isClosed then .error .badAuthority
    else .ok { st with isClosed := true, colons := 0, hasPercent := false }
  else if c = '@' then .ok { st with colons := 0, hasPercent := false, endsUser := true }
  else .ok st

/-- What has been seen is an authority. -/
def isWhole (st : AuthorityScan) : Bool :=
  st.isOpen == st.isClosed && st.colons ≤ 1 && !st.endsUser && !st.hasPercent

end AuthorityScan

/-- Check an authority. -/
def checkAuthority (cs : List Char) : Except OpeningFault Unit :=
  match cs.foldlM AuthorityScan.step .start with
  | .error fault => .error fault
  | .ok st => if st.isWhole then .ok () else .error .badAuthority

/-- The host of an authority: an address in brackets, or what stands before the port. -/
def hostOf (authority : List Char) : List Char :=
  let host := (authority.reverse.takeWhile (· != '@')).reverse
  match host with
  | '[' :: address => address.takeWhile (· != ']')
  | host => host.takeWhile (· != ':')

/-- The number of a port, perhaps with a plus sign. -/
def portNumber? (cs : List Char) : Option Nat :=
  let digits := match cs with
    | '+' :: digits => digits
    | digits => digits
  if !digits.isEmpty ∧ digits.all isDigit ∧ numberOf digits ≤ 65535 then
    some (numberOf digits)
  else none

/-- The port of an authority. A number that is no port counts as none. -/
def portOf? (authority : List Char) : Option Nat :=
  if authority.contains ':' then portNumber? (authority.reverse.takeWhile (· != ':')).reverse
  else none

/-! ## Endpoints -/

/-- A character that cannot stand in a path. -/
def isRefusedInPath (c : Char) : Bool :=
  c.toNat ≤ 0x20 || c == '<' || c == '>' || c == '\x60'

/-- A character that cannot stand in a query. -/
def isRefusedInQuery (c : Char) : Bool :=
  c.toNat ≤ 0x20 || c == '"' || c == '<' || c == '>'

/-- Check a path with its query. What comes after a number sign does not count. -/
def checkPath (cs : List Char) : Except OpeningFault Unit :=
  let (path, query) := (cs.takeWhile (· != '#')).span (· != '?')
  if path.any isRefusedInPath || query.any isRefusedInQuery then .error .badCharacter else .ok ()

/-- A character that can stand in a scheme. -/
def inScheme (c : Char) : Bool :=
  c.isAlphanum || c == '+' || c == '-' || c == '.' || c == '~'

/-- The greatest length of a scheme. -/
def schemeLimit : Nat :=
  64

/-- Take the scheme off a text, if it has one. -/
def takeScheme (cs : List Char) : Except OpeningFault (Option (List Char) × List Char) :=
  match cs.span inScheme with
  | (scheme, ':' :: '/' :: '/' :: rest) =>
    if schemeLimit < scheme.length then .error .longScheme else .ok (some scheme, rest)
  | _ => .ok (none, cs)

/-- A character that ends an authority. -/
def endsAuthority (c : Char) : Bool :=
  c == '/' || c == '?' || c == '#'

/-- The port that a scheme means. -/
def defaultPort? (scheme : List Char) : Option Nat :=
  if scheme = "ws".toList then some 80
  else if scheme = "wss".toList then some 443
  else none

/-- Where a live connection goes. -/
structure Endpoint where
  /-- The name or the address of the host. -/
  host : List Char
  /-- The port. -/
  port : Nat
  deriving DecidableEq

namespace Endpoint

/-- The endpoint with an authority. -/
def ofAuthority (scheme : Option (List Char)) (authority : List Char) :
    Except OpeningFault Endpoint :=
  match (portOf? authority).or (scheme.bind defaultPort?) with
  | none => .error .noPort
  | some port => .ok ⟨hostOf authority, port⟩

/-- Read a text that does not start with a slash. -/
def ofChars (cs : List Char) : Except OpeningFault Endpoint := do
  let (scheme, rest) ← takeScheme cs
  let (authority, path) := rest.span (!endsAuthority ·)
  checkAuthority authority
  if scheme.isNone then
    if path.isEmpty then ofAuthority none authority else .error .badFormat
  else if authority.isEmpty then .error .badFormat
  else
    checkPath path
    ofAuthority scheme authority

/-- The greatest length of a text, in bytes. -/
def lengthLimit : Nat :=
  65534

/-- Read the text of an endpoint. -/
def ofText (s : String) : Except OpeningFault Endpoint :=
  if lengthLimit < s.utf8ByteSize then .error .tooLong
  else
    match s.toList with
    | [] => .error .nothing
    | ['*'] => .error .noHost
    | '/' :: path => do
      checkPath path
      .error .noHost
    | [c] => if endsAuthority c then .error .badCharacter else ofChars [c]
    | cs => ofChars cs

/-- The host has an address that need not be looked up. -/
def isAddressed (e : Endpoint) : Bool :=
  e.host.map Char.toLower == "localhost".toList || (Url.ipv4? e.host).isSome ||
    (Url.ipv6? e.host).isSome

/-- Why there is no connection where there is no network. -/
def faultOffline (e : Endpoint) : OpeningFault :=
  if e.isAddressed then .noRoute else .unknownName

end Endpoint

end NewsReader.Live
