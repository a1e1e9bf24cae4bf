import NewsReader.Url.DomainName
import NewsReader.Url.Percent

/-!
# Hosts

The host of a URL is a name or an address. Names are in lower case. A name whose last label is a
number is an address of four bytes, in one of the old spellings; an address of eight pieces stands
in brackets and is written with its longest run of zeros left out.

In a scheme that is not special the host is a name that is kept as it is.
-/

namespace NewsReader.Url

open Text (isDigit digitValue hexValue? numberOf)

/-- A reason why a text is not a URL. -/
inductive Fault where
  /-- There is no scheme. -/
  | noScheme
  /-- There is no host where one is needed. -/
  | emptyHost
  /-- The port is not a number, or too large. -/
  | badPort
  /-- The address of four bytes is malformed. -/
  | badIpv4
  /-- The address of eight pieces is malformed. -/
  | badIpv6
  /-- The name has characters that no name has. -/
  | badName
  /-- The name has characters that no host has. -/
  | badHostCharacter
  deriving DecidableEq

/-- The text of a fault. -/
def Fault.message : Fault → String
  | noScheme => "relative URL without a base"
  | emptyHost => "empty host"
  | badPort => "invalid port number"
  | badIpv4 => "invalid IPv4 address"
  | badIpv6 => "invalid IPv6 address"
  | badName => "invalid international domain name"
  | badHostCharacter => "invalid domain character"

/-- The host of a URL. -/
inductive Host where
  /-- A name. -/
  | name (cs : List Char)
  /-- An address of four bytes, as a number. -/
  | ipv4 (n : Nat)
  /-- An address of eight pieces. -/
  | ipv6 (pieces : List Nat)
  deriving DecidableEq

/-- The number that digits write in a base, if they are digits of that base. -/
def numberIn? (base : Nat) (cs : List Char) : Option Nat :=
  cs.foldlM (fun n c => (hexValue? c).bind fun d =>
    if d < base then some (n * base + d) else none) 0

/-- The number that a label of an address writes: in base sixteen after `0x`, in base eight after
`0`, and else in base ten. -/
def labelNumber? : List Char → Option Nat
  | [] => none
  | '0' :: 'x' :: cs => numberIn? 16 cs
  | '0' :: 'X' :: cs => numberIn? 16 cs
  | '0' :: c :: cs => numberIn? 8 (c :: cs)
  | cs => numberIn? 10 cs

/-- The labels of a name, without an empty one at the end. -/
def labels (cs : List Char) : List (List Char) :=
  match (splitAtChar '.' cs).reverse with
  | [] :: parts => parts.reverse
  | parts => parts.reverse

/-- The last label of a name is a number, so that the name is an address. -/
def endsInNumber (cs : List Char) : Bool :=
  match (labels cs).getLast? with
  | none => false
  | some last => (!last.isEmpty && last.all isDigit) || (labelNumber? last).isSome

/-- The address that numbers write. Each is a byte but for the last, which has the bytes that are
left. -/
def addressOf? (numbers : List Nat) : Option Nat :=
  match numbers.reverse with
  | [] => none
  | last :: front =>
    let bytes := front.reverse
    if bytes.length ≤ 3 ∧ bytes.all (· ≤ 255) ∧ last < Nat.pow 256 (4 - bytes.length) then
      some (bytes.foldr (fun b n => b * Nat.pow 256 3 + n / 256) 0 + last)
    else none

/-- Read an address of four bytes. -/
def ipv4? (cs : List Char) : Option Nat :=
  ((labels cs).mapM labelNumber?).bind addressOf?

/-- Read the four bytes at the end of an address of eight pieces, as two pieces. -/
def embeddedIpv4? (cs : List Char) : Option (List Nat) := do
  let byte (part : List Char) : Option Nat :=
    if !part.isEmpty ∧ part.all isDigit ∧ (part.head? = some '0' → part.length = 1) ∧
      numberOf part ≤ 255 then some (numberOf part) else none
  match (splitAtChar '.' cs).mapM byte with
  | some [a, b, c, d] => some [a * 256 + b, c * 256 + d]
  | _ => none

/-- Read pieces with colons between them. The last may be an address of four bytes. -/
def pieces? : List (List Char) → Option (List Nat)
  | [] => some []
  | [part] =>
    if part.contains '.' then embeddedIpv4? part
    else if part.isEmpty ∨ 4 < part.length then none
    else (numberIn? 16 part).map ([·])
  | part :: parts =>
    if part.isEmpty ∨ 4 < part.length then none
    else do
      let n ← numberIn? 16 part
      let ns ← pieces? parts
      some (n :: ns)

/-- Read pieces, of which there may be none. -/
def somePieces? (cs : List Char) : Option (List Nat) :=
  if cs.isEmpty then some [] else pieces? (splitAtChar ':' cs)

/-- The parts of a text around the first pair of colons. -/
def splitGap : List Char → Option (List Char × List Char)
  | ':' :: ':' :: cs => some ([], cs)
  | c :: cs => (splitGap cs).map fun (before, after) => (c :: before, after)
  | [] => none

/-- Read an address of eight pieces. A pair of colons stands for one or more pieces that are
zero. -/
def ipv6? (cs : List Char) : Option (List Nat) :=
  match splitGap cs with
  | none => (somePieces? cs).bind fun ns => if ns.length = 8 then some ns else none
  | some (before, after) =>
    if before.contains '.' then none
    else do
      let front ← somePieces? before
      let back ← somePieces? after
      if front.length + back.length < 8 then
        some (front ++ List.replicate (8 - front.length - back.length) 0 ++ back)
      else none

/-- A character that no name has. -/
def isForbidden (c : Char) : Bool :=
  isControl c || [' ', '#', '/', ':', '<', '>', '?', '@', '[', '\\', ']', '^', '|'].contains c

/-- Read what stands between brackets. -/
def bracketed? (cs : List Char) : Except Fault Host :=
  match cs.reverse with
  | ']' :: inner =>
    match ipv6? inner.reverse with
    | some pieces => .ok (.ipv6 pieces)
    | none => .error .badIpv6
  | _ => .error .badIpv6

/-- Read the host of a special scheme. -/
def Host.ofChars (cs : List Char) : Except Fault Host :=
  match cs with
  | [] => .error .emptyHost
  | '[' :: rest => bracketed? rest
  | cs =>
    let name := (Text.decodeLenient (percentDecode cs)).map Char.toLower
    if name.any fun c => isForbidden c || c == '%' || 0x80 ≤ c.toNat then .error .badName
    else if !isDomainName name then .error .badName
    else if endsInNumber name then
      match ipv4? name with
      | some n => .ok (.ipv4 n)
      | none => .error .badIpv4
    else .ok (.name name)

/-- Read the host of another scheme. -/
def Host.ofOpaqueChars (cs : List Char) : Except Fault Host :=
  match cs with
  | '[' :: rest => bracketed? rest
  | cs =>
    if cs.any fun c =>
      c == '\x00' || c == '\t' || c == '\n' || c == '\r' || isForbidden c && !isControl c
    then .error .badHostCharacter
    else .ok (.name (percentEncode isControl cs))

/-- A number in base ten. -/
def decimal (n : Nat) : List Char :=
  Nat.toDigits 10 n

/-- An address of four bytes. -/
def ipv4Chars (n : Nat) : List Char :=
  decimal (n / Nat.pow 256 3) ++ '.' :: decimal (n / Nat.pow 256 2 % 256) ++
    '.' :: decimal (n / 256 % 256) ++ '.' :: decimal (n % 256)

/-- The place and the length of the first longest run of zeros. -/
def longestRun (pieces : List Nat) : Nat × Nat :=
  (List.range pieces.length).foldl
    (fun best i =>
      let run := ((pieces.drop i).takeWhile (· == 0)).length
      if best.2 < run then (i, run) else best)
    (0, 0)

/-- Pieces with colons between them. -/
def piecesChars (pieces : List Nat) : List Char :=
  List.intercalate [':'] (pieces.map (Nat.toDigits 16))

/-- An address of eight pieces, without its longest run of zeros if it has more than one. -/
def ipv6Chars (pieces : List Nat) : List Char :=
  let (start, run) := longestRun pieces
  if run < 2 then piecesChars pieces
  else piecesChars (pieces.take start) ++ ':' :: ':' :: piecesChars (pieces.drop (start + run))

/-- The written host. -/
def Host.chars : Host → List Char
  | name cs => cs
  | ipv4 n => ipv4Chars n
  | ipv6 pieces => '[' :: ipv6Chars pieces ++ [']']

end NewsReader.Url
